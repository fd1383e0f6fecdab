import TokenConformance.Json.Value
import TokenConformance.Text.Hex

/-! # The tokens of a JSON text

Input is a list of characters in which a piece of ill-formed UTF-8 stands as `none`. Such a piece
is admitted inside string literals alone, and makes a literal that denotes no text.

* `Token`: brackets, separators and literals.
* `pieces?`, `textOf?`: the two steps of reading a string literal, its parts and its text.
* `number?`: reads a number literal.
* `token?`: reads one token; `token?_length_lt`: and it is never empty.
* `tokens?`: all tokens of a text, blanks between them skipped.
-/

namespace TokenConformance.Json

open Text

/-- A token of a JSON text. -/
inductive Token where
  | leftBrace
  | rightBrace
  | leftBracket
  | rightBracket
  | colon
  | comma
  | null
  | bool (value : Bool)
  | number (literal : Number)
  | text (content : Option String)
deriving DecidableEq

/-! ## String literals -/

/-- A part of a string literal: a character, a UTF-16 unit written as an escape, or bytes that
form no character. -/
inductive Piece where
  | char (c : Char)
  | unit (n : Nat)
  | illFormed
deriving DecidableEq

/-- The value of four hexadecimal digits. -/
def hexValue4? (a b c d : Char) : Option Nat :=
  match Hex.value? a, Hex.value? b, Hex.value? c, Hex.value? d with
  | some a, some b, some c, some d => some (((a * 16 + b) * 16 + c) * 16 + d)
  | _, _, _, _ => none

/-- The character that a backslash and a letter stand for. -/
def escaped? : Char → Option Char
  | '"' => some '"'
  | '\\' => some '\\'
  | '/' => some '/'
  | 'b' => some '\x08'
  | 'f' => some '\x0C'
  | 'n' => some '\n'
  | 'r' => some '\r'
  | 't' => some '\t'
  | _ => none

/-- The parts of a string literal after its opening quote, and what follows its closing quote. -/
def pieces? : List (Option Char) → Option (List Piece × List (Option Char))
  | [] => none
  | none :: rest => (pieces? rest).map fun (ps, rest) => (.illFormed :: ps, rest)
  | some '"' :: rest => some ([], rest)
  | some '\\' :: some 'u' :: some a :: some b :: some c :: some d :: rest =>
    match hexValue4? a b c d with
    | some n => (pieces? rest).map fun (ps, rest) => (.unit n :: ps, rest)
    | none => none
  | some '\\' :: some e :: rest =>
    match escaped? e with
    | some c => (pieces? rest).map fun (ps, rest) => (.char c :: ps, rest)
    | none => none
  | some c :: rest =>
    if c = '\\' ∨ c.toNat < 0x20 then none
    else (pieces? rest).map fun (ps, rest) => (.char c :: ps, rest)

/-- The characters that the parts of a literal denote. A high surrogate counts only before a low
one, and a low one only after a high one. -/
def textOf? : List Piece → Option (List Char)
  | [] => some []
  | .char c :: rest => (textOf? rest).map (c :: ·)
  | .unit high :: .unit low :: rest =>
    if 0xD800 ≤ high ∧ high < 0xDC00 ∧ 0xDC00 ≤ low ∧ low < 0xE000 then
      (textOf? rest).map (Char.ofNat (0x10000 + (high - 0xD800) * 0x400 + (low - 0xDC00)) :: ·)
    else if 0xD800 ≤ high ∧ high < 0xE000 then none
    else (textOf? (.unit low :: rest)).map (Char.ofNat high :: ·)
  | .unit n :: rest =>
    if 0xD800 ≤ n ∧ n < 0xE000 then none else (textOf? rest).map (Char.ofNat n :: ·)
  | .illFormed :: _ => none

/-! ## Number literals -/

/-- The digits at the start of a text, and the rest of it. -/
def digits : List (Option Char) → List Nat × List (Option Char)
  | some c :: rest =>
    if c.isDigit then
      let (ds, rest) := digits rest
      ((c.toNat - '0'.toNat) :: ds, rest)
    else ([], some c :: rest)
  | cs => ([], cs)

/-- The value of decimal digits. -/
def digitsValue (ds : List Nat) : Nat := ds.foldl (fun value d => value * 10 + d) 0

/-- The digits before the point. A zero stands alone. -/
def wholePart? : List (Option Char) → Option (Nat × List (Option Char))
  | some '0' :: rest => some (0, rest)
  | cs =>
    match digits cs with
    | ([], _) => none
    | (ds, rest) => some (digitsValue ds, rest)

/-- The digits after a point, if there is a point. -/
def fractionPart? : List (Option Char) → Option (List Nat × List (Option Char))
  | some '.' :: rest =>
    match digits rest with
    | ([], _) => none
    | (ds, rest) => some (ds, rest)
  | cs => some ([], cs)

/-- The sign at the start of an exponent. -/
def exponentSign : List (Option Char) → Bool × List (Option Char)
  | some '-' :: rest => (true, rest)
  | some '+' :: rest => (false, rest)
  | cs => (false, cs)

/-- The exponent, if there is one. -/
def exponentPart? : List (Option Char) → Option (Option Int × List (Option Char))
  | some c :: rest =>
    if c = 'e' ∨ c = 'E' then
      let (negative, rest) := exponentSign rest
      match digits rest with
      | ([], _) => none
      | (ds, rest) =>
        let value : Int := digitsValue ds
        some (some (if negative then -value else value), rest)
    else some (none, some c :: rest)
  | [] => some (none, [])
  | none :: rest => some (none, none :: rest)

/-- A number literal without its sign. -/
def unsigned? (negative : Bool) (cs : List (Option Char)) :
    Option (Number × List (Option Char)) := do
  let (whole, cs) ← wholePart? cs
  let (fraction, cs) ← fractionPart? cs
  let (exponent, cs) ← exponentPart? cs
  return (⟨negative, whole, fraction, exponent⟩, cs)

/-- Reads a number literal. -/
def number? : List (Option Char) → Option (Number × List (Option Char))
  | some '-' :: rest => unsigned? true rest
  | cs => unsigned? false cs

/-! ## Tokens -/

/-- Reads the token at the start of a text. -/
def token? : List (Option Char) → Option (Token × List (Option Char))
  | some '{' :: rest => some (.leftBrace, rest)
  | some '}' :: rest => some (.rightBrace, rest)
  | some '[' :: rest => some (.leftBracket, rest)
  | some ']' :: rest => some (.rightBracket, rest)
  | some ':' :: rest => some (.colon, rest)
  | some ',' :: rest => some (.comma, rest)
  | some '"' :: rest =>
    (pieces? rest).map fun (ps, rest) => (.text ((textOf? ps).map String.ofList), rest)
  | some 'n' :: some 'u' :: some 'l' :: some 'l' :: rest => some (.null, rest)
  | some 't' :: some 'r' :: some 'u' :: some 'e' :: rest => some (.bool true, rest)
  | some 'f' :: some 'a' :: some 'l' :: some 's' :: some 'e' :: rest => some (.bool false, rest)
  | cs => (number? cs).map fun (n, rest) => (.number n, rest)

theorem pieces?_length_le {cs rest : List (Option Char)} {ps : List Piece}
    (h : pieces? cs = some (ps, rest)) : rest.length ≤ cs.length := by
  fun_induction pieces? cs generalizing ps rest <;> grind [Option.map_eq_some_iff]

theorem digits_length_le (cs : List (Option Char)) : (digits cs).2.length ≤ cs.length := by
  fun_induction digits cs <;> grind

theorem digits_length_lt {cs : List (Option Char)} (h : (digits cs).1 ≠ []) :
    (digits cs).2.length < cs.length := by
  fun_induction digits cs <;> grind [digits_length_le]

theorem wholePart?_length_lt {cs rest : List (Option Char)} {n : Nat}
    (h : wholePart? cs = some (n, rest)) : rest.length < cs.length := by
  fun_cases wholePart? cs <;> grind [wholePart?, digits_length_lt]

theorem fractionPart?_length_le {cs rest : List (Option Char)} {ds : List Nat}
    (h : fractionPart? cs = some (ds, rest)) : rest.length ≤ cs.length := by
  fun_cases fractionPart? cs <;> grind [fractionPart?, digits_length_le]

theorem exponentSign_length_le (cs : List (Option Char)) :
    (exponentSign cs).2.length ≤ cs.length := by
  fun_cases exponentSign cs <;> grind

theorem exponentPart?_length_le {cs rest : List (Option Char)} {e : Option Int}
    (h : exponentPart? cs = some (e, rest)) : rest.length ≤ cs.length := by
  fun_cases exponentPart? cs <;>
    grind [exponentPart?, digits_length_le, exponentSign_length_le]

theorem unsigned?_length_lt {cs rest : List (Option Char)} {b : Bool} {n : Number}
    (h : unsigned? b cs = some (n, rest)) : rest.length < cs.length := by
  simp only [unsigned?, Option.bind_eq_bind, Option.bind_eq_some_iff, Prod.exists,
    Option.pure_def, Option.some.injEq, Prod.mk.injEq] at h
  obtain ⟨_, _, h₁, _, _, h₂, _, _, h₃, _, rfl⟩ := h
  have := wholePart?_length_lt h₁
  have := fractionPart?_length_le h₂
  have := exponentPart?_length_le h₃
  omega

theorem number?_length_lt {cs rest : List (Option Char)} {n : Number}
    (h : number? cs = some (n, rest)) : rest.length < cs.length := by
  rw [number?.eq_def] at h
  split at h
  · have := unsigned?_length_lt h
    grind
  · exact unsigned?_length_lt h

/-- A token is never empty. -/
theorem token?_length_lt {cs rest : List (Option Char)} {t : Token}
    (h : token? cs = some (t, rest)) : rest.length < cs.length := by
  rw [token?.eq_def] at h
  split at h
  case h_7 =>
    obtain ⟨⟨_, _⟩, h, e⟩ := Option.map_eq_some_iff.1 h
    have := pieces?_length_le h
    grind
  case h_11 =>
    obtain ⟨⟨_, _⟩, h, e⟩ := Option.map_eq_some_iff.1 h
    have := number?_length_lt h
    grind
  all_goals grind

/-- Whether a character may stand between tokens. -/
def isSpace (c : Option Char) : Bool := c == ' ' || c == '\t' || c == '\n' || c == '\r'

/-- All tokens of a text, after those that have been read, the last one first. -/
def tokensAfter (read : List Token) (cs : List (Option Char)) : Option (List Token) :=
  match _hcs : cs.dropWhile isSpace with
  | [] => some read.reverse
  | c :: cs' =>
    match _h : token? (c :: cs') with
    | none => none
    | some (t, rest) => tokensAfter (t :: read) rest
termination_by cs.length
decreasing_by
  have := token?_length_lt _h
  rw [← _hcs] at this
  exact Nat.lt_of_lt_of_le this (List.dropWhile_sublist _).length_le

/-- All tokens of a text. -/
def tokens? (cs : List (Option Char)) : Option (List Token) := tokensAfter [] cs

end TokenConformance.Json
