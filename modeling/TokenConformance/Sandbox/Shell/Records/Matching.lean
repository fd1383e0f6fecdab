import TokenConformance.Sandbox.Shell.Records.Token
import TokenConformance.Sandbox.Text.Regex.Reader

/-! # Expressions that records have to match

* `regexText`: an expression in the form that `Regex.read` takes.
* `readRegex`: reads an expression, or tells what is wrong with it.
* `splitAt`, `splitBlank`: the parts of a text between matches, and between blanks.
-/

namespace TokenConformance.Sandbox.Shell.Records

open Sandbox.Text (Bytes Regex Subject)

/-- The characters with a meaning outside sets. -/
def specialChars : Bytes := ".[]()*+?\x7b\x7d|^$\\".toList

/-- A character that stands for itself. -/
def literal (c : Char) : Bytes := if c ∈ specialChars then ['\\', c] else [c]

/-- The fault of an expression where something is missing. -/
def missingOperand : String := "missing operand"

/-- The text of an interval, and what follows it. What has to come more than once may not come more
often than that. -/
def intervalText? (cs : Bytes) : Option (Bytes × Bytes) :=
  let least := cs.takeWhile Char.isDigit
  let rest := cs.drop least.length
  let (most, rest) : Bytes × Bytes := match rest with
    | ',' :: rest => (',' :: rest.takeWhile Char.isDigit, rest.dropWhile Char.isDigit)
    | _ => ([], rest)
  match rest with
  | '\x7d' :: rest =>
    let most := if 2 ≤ Text.Numeral.valueIn 10 least then [] else most
    if least = [] && most.length < 2 then none
    else
      let least := if least = [] then ['0'] else least
      some ('\x7b' :: least ++ most ++ ['\x7d'], rest)
  | _ => none

/-- The text of a set after its bracket, and what follows it. The flag says whether a bracket would
be its first member. The number bounds its length. -/
def setText? : Nat → Bool → Bytes → Option (Bytes × Bytes)
  | 0, _, _ => none
  | _, _, [] => none
  | n + 1, isFirst, c :: rest =>
    let more (part rest : Bytes) : Option (Bytes × Bytes) :=
      (setText? n false rest).map fun (t, rest) => (part ++ t, rest)
    if c = ']' then if isFirst then more [c] rest else some ([c], rest)
    else if c = '\\' then
      match escapeAt? rest, rest with
      | some (found, rest), _ => more ['\\', found] rest
      | none, found :: rest => more ['\\', found] rest
      | none, [] => none
    else
      match c, rest with
      | '[', ':' :: _ =>
        match Regex.markedName? ':' (rest.drop 1) with
        | some (name, after) => more ('[' :: ':' :: name ++ [':', ']']) after
        | none => more [c] rest
      | _, _ => more [c] rest

/-- An expression in the form in which others are written. `depth` is how many groups are open, and
the flag says whether something has to come. The number bounds its length. -/
def regexText : Nat → Nat → Bool → Bytes → Except String Bytes
  | 0, _, _, _ => .ok []
  | _, depth, needs, [] =>
    if 0 < depth then .error "missing ')'"
    else if needs then .error missingOperand
    else .ok []
  | n + 1, depth, needs, c :: rest => do
    let more (part rest : Bytes) : Except String Bytes := do
      return part ++ (← regexText n depth false rest)
    match c with
    | '\\' =>
      match escapeAt? rest, rest with
      | some (found, rest), _ => more (literal found) rest
      | none, found :: rest => more (literal found) rest
      | none, [] => more (literal '\\') []
    | '[' =>
      let (mark, members) : Bytes × Bytes := match rest with
        | '^' :: members => (['^'], members)
        | _ => ([], rest)
      match setText? (members.length + 1) true members with
      | some (t, rest) => more ('[' :: mark ++ t) rest
      | none => throw "bad class -- [], [^] or ["
    | '(' => return '(' :: (← regexText n (depth + 1) true rest)
    | ')' =>
      if depth = 0 then more (literal ')') rest
      else if needs then throw missingOperand
      else return ')' :: (← regexText n (depth - 1) false rest)
    | '|' =>
      if needs then throw missingOperand
      return '|' :: (← regexText n depth true rest)
    | '\x7b' =>
      match intervalText? rest with
      | some (t, rest) => more t rest
      | none => more (literal c) rest
    | '\x7d' => more (literal c) rest
    | '*' | '+' | '?' =>
      if needs then throw missingOperand
      more [c] rest
    | _ => more [c] rest

/-- Reads an expression, or tells what is wrong with it. -/
def readRegex (text : Bytes) : Except String Regex :=
  let written : Except String Bytes :=
    if text = [] then .ok []
    else
      let needs := text.head?.any (· ∈ ['*', '+', '?', '|'])
      regexText (text.length + 1) 0 needs text
  match written with
  | .error e => .error e
  | .ok t =>
    match Regex.read ⟨true, false, false, true⟩ t with
    | .ok (r, _) => .ok r
    | .error e =>
      .error (if e = "Invalid character class name" || e = Regex.openBracket then
        "bad class -- [], [^] or [" else missingOperand)

/-- What is said about an expression that cannot be read. -/
def regexFault (text : Bytes) (why : String) : Bytes :=
  Tool.filled "regular expression compile failed (%)\n%" [why.toList, text]

/-! ## Parts -/

/-- The parts of a text between matches that are not empty. The number bounds how many there are. -/
def splitFrom (r : Regex) (s : Subject) : Nat → Nat → List Bytes
  | 0, i => [s.slice (i, s.text.size)]
  | n + 1, i =>
    match r.findSpan? s (fun span => span.1 < span.2) (s.text.size + 1 - i) i with
    | some (start, finish) => s.slice (i, start) :: splitFrom r s n finish
    | none => [s.slice (i, s.text.size)]

/-- The parts of a text between matches. An empty text has none. -/
def splitAt (r : Regex) (text : Bytes) : List Bytes :=
  if text = [] then [] else splitFrom r ⟨text.toArray, false⟩ (text.length + 1) 0

/-- Whether a character is a blank between words. -/
def isBlank (c : Char) : Bool := Text.isSpace c

/-- The words of a text. -/
def splitBlank (text : Bytes) : List Bytes := (text.splitBy fun a b => isBlank a = isBlank b).filter
  fun word => word.any fun c => !isBlank c

end TokenConformance.Sandbox.Shell.Records
