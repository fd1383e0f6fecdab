import Mathlib.Tactic.SplitIfs
import TokenConformance.Json.Token
import TokenConformance.Json.Writer

/-! # Literals are read as they are written

What a number or a string literal is followed by must not go on with it; a closing quote ends a
string, and `NumberEnds` says what ends a number.

* `digits_append`, `digitsValue_toDigits`: runs of digits.
* `number?_written`: number literals, if their fractions are made of digits.
* `pieces?_escape`, `textOf?_pieceOf`: string literals, character by character.
* `token?_number`, `token?_quoted`: both as tokens of a text.
-/

namespace TokenConformance.Json

/-! ## Digits -/

/-- The text goes on with something that no number literal goes on with. -/
def NumberEnds (cs : List (Option Char)) : Prop :=
  ∀ c rest, cs = some c :: rest → c.isDigit = false ∧ c ≠ '.' ∧ c ≠ 'e' ∧ c ≠ 'E'

/-- The text does not go on with a digit. -/
def DigitsEnd (cs : List (Option Char)) : Prop :=
  ∀ c rest, cs = some c :: rest → c.isDigit = false

theorem NumberEnds.digitsEnd {cs : List (Option Char)} (h : NumberEnds cs) : DigitsEnd cs :=
  fun c rest hcs => (h c rest hcs).1

theorem digits_of_digitsEnd {cs : List (Option Char)} (h : DigitsEnd cs) : digits cs = ([], cs) := by
  cases cs with
  | nil => rfl
  | cons piece rest =>
    cases piece with
    | none => rfl
    | some c => simp [digits, h c rest rfl]

/-- The values of digit characters. -/
def digitValues (ds : List Char) : List Nat := ds.map fun c => c.toNat - '0'.toNat

/-- A run of digits is read up to its end. -/
theorem digits_append {ds : List Char} {rest : List (Option Char)}
    (hds : ∀ c ∈ ds, c.isDigit = true) (hrest : DigitsEnd rest) :
    digits (ds.map some ++ rest) = (digitValues ds, rest) := by
  induction ds with
  | nil => exact digits_of_digitsEnd hrest
  | cons c ds ih =>
    rw [List.map_cons, List.cons_append, digits, if_pos (hds c List.mem_cons_self),
      ih fun d hd => hds d (List.mem_cons_of_mem c hd)]
    rfl

theorem isDigit_of_mem_toDigits {n : Nat} {c : Char} (h : c ∈ Nat.toDigits 10 n) :
    c.isDigit = true :=
  Nat.isDigit_of_mem_toDigits (by decide) (Nat.le_refl 10) h

theorem digitsValue_toDigits (n : Nat) : digitsValue (digitValues (Nat.toDigits 10 n)) = n := by
  have h := Nat.ofDigitChars_ten_toDigits (n := n)
  rw [Nat.ofDigitChars_eq_foldl] at h
  simpa only [digitsValue, digitValues, List.foldl_map, Nat.mul_comm 10] using h

theorem digitValues_toDigits_ne_nil (n : Nat) : digitValues (Nat.toDigits 10 n) ≠ [] :=
  fun h => Nat.toDigits_ne_nil (List.map_eq_nil_iff.1 h)

/-- The first character of a number is a digit, and so no sign. -/
theorem exists_toDigits_cons (n : Nat) :
    ∃ c ds, Nat.toDigits 10 n = c :: ds ∧ c.isDigit = true := by
  cases hds : Nat.toDigits 10 n with
  | nil => exact absurd hds Nat.toDigits_ne_nil
  | cons c ds => exact ⟨c, ds, rfl, isDigit_of_mem_toDigits (hds ▸ List.mem_cons_self)⟩

/-- A number other than zero is not written with a leading zero. -/
theorem head_toDigits_ne_zero {n : Nat} (h : 0 < n) {c : Char} {ds : List Char}
    (hds : Nat.toDigits 10 n = c :: ds) : c ≠ '0' := by
  induction n using Nat.strongRecOn generalizing ds with
  | ind n ih =>
    by_cases hlt : n < 10
    · rw [Nat.toDigits_of_lt_base hlt] at hds
      obtain ⟨rfl, -⟩ := List.cons.inj hds
      have hdigit : ∀ m, m < 10 → 0 < m → Nat.digitChar m ≠ '0' := by decide
      exact hdigit n hlt h
    · rw [Nat.toDigits_of_base_le (by decide) (by omega)] at hds
      cases hq : Nat.toDigits 10 (n / 10) with
      | nil => exact absurd hq Nat.toDigits_ne_nil
      | cons d qs =>
        rw [hq] at hds
        obtain ⟨rfl, -⟩ := List.cons.inj hds
        exact ih (n / 10) (by omega) (by omega) hq

/-! ## Numbers -/

theorem wholePart?_toDigits (n : Nat) {rest : List (Option Char)} (hrest : DigitsEnd rest) :
    wholePart? ((Nat.toDigits 10 n).map some ++ rest) = some (n, rest) := by
  rcases Nat.eq_zero_or_pos n with rfl | hpos
  · rfl
  · have hdigits : digits ((Nat.toDigits 10 n).map some ++ rest) =
        (digitValues (Nat.toDigits 10 n), rest) :=
      digits_append (fun c => isDigit_of_mem_toDigits) hrest
    cases hds : Nat.toDigits 10 n with
    | nil => exact absurd hds Nat.toDigits_ne_nil
    | cons c ds =>
      have hc : c ≠ '0' := head_toDigits_ne_zero hpos hds
      rw [← hds, wholePart?.eq_def]
      split
      · next heq =>
        rw [hds] at heq
        exact absurd (Option.some.inj (List.cons.inj heq).1) hc
      · rw [hdigits]
        split
        · next heq => exact absurd (Prod.mk.inj heq).1 (digitValues_toDigits_ne_nil n)
        · next heq =>
          obtain ⟨rfl, rfl⟩ := Prod.mk.inj heq
          rw [digitsValue_toDigits]

/-- The characters of the digits after a point. -/
def fractionDigits (ds : List Nat) : List Char := ds.map fun d => Char.ofNat ('0'.toNat + d)

theorem isDigit_of_mem_fractionDigits {ds : List Nat} (hds : ∀ d ∈ ds, d < 10) {c : Char}
    (h : c ∈ fractionDigits ds) : c.isDigit = true := by
  obtain ⟨d, hd, rfl⟩ := List.mem_map.1 h
  have hdigit : ∀ d, d < 10 → (Char.ofNat ('0'.toNat + d)).isDigit = true := by decide
  exact hdigit d (hds d hd)

theorem digitValues_fractionDigits {ds : List Nat} (hds : ∀ d ∈ ds, d < 10) :
    digitValues (fractionDigits ds) = ds := by
  have hvalue : ∀ d, d < 10 → (Char.ofNat ('0'.toNat + d)).toNat - '0'.toNat = d := by decide
  rw [digitValues, fractionDigits, List.map_map]
  exact (List.map_congr_left fun d hd => hvalue d (hds d hd)).trans (List.map_id ds)

theorem fractionPart?_written {ds : List Nat} (hds : ∀ d ∈ ds, d < 10)
    {rest : List (Option Char)} (hrest : DigitsEnd rest)
    (hpoint : ∀ rest', rest ≠ some '.' :: rest') :
    fractionPart? ((if ds = [] then [] else '.' :: fractionDigits ds).map some ++ rest) =
      some (ds, rest) := by
  split
  · next hnil =>
    rw [hnil, List.map_nil, List.nil_append, fractionPart?.eq_def]
    split
    · next rest' => exact absurd rfl (hpoint rest')
    · rfl
  · next hne =>
    rw [List.map_cons, List.cons_append, fractionPart?,
      digits_append (fun c => isDigit_of_mem_fractionDigits hds) hrest,
      digitValues_fractionDigits hds]
    split
    · next heq => exact absurd (Prod.mk.inj heq).1 hne
    · next heq =>
      obtain ⟨rfl, rfl⟩ := Prod.mk.inj heq
      rfl

/-- The characters of an exponent, after its letter. -/
def exponentDigits (e : Int) : List Char :=
  (if e < 0 then ['-'] else []) ++ Nat.toDigits 10 e.natAbs

theorem exponentSign_exponentDigits (e : Int) (rest : List (Option Char)) :
    exponentSign ((exponentDigits e).map some ++ rest) =
      (decide (e < 0), (Nat.toDigits 10 e.natAbs).map some ++ rest) := by
  unfold exponentDigits
  by_cases he : e < 0
  · rw [if_pos he, List.singleton_append, List.map_cons, List.cons_append, exponentSign,
      decide_eq_true he]
  · rw [if_neg he, List.nil_append, decide_eq_false he]
    obtain ⟨c, ds, hds, hc⟩ := exists_toDigits_cons e.natAbs
    rw [hds, List.map_cons, List.cons_append, exponentSign.eq_def]
    -- neither sign is a digit
    split
    · next heq =>
      rw [Option.some.inj (List.cons.inj heq).1] at hc
      exact absurd hc (by decide)
    · next heq =>
      rw [Option.some.inj (List.cons.inj heq).1] at hc
      exact absurd hc (by decide)
    · rfl

theorem exponentPart?_exponentDigits (e : Int) {rest : List (Option Char)}
    (hrest : DigitsEnd rest) :
    exponentPart? (some 'e' :: ((exponentDigits e).map some ++ rest)) = some (some e, rest) := by
  rw [exponentPart?, if_pos (Or.inl rfl), exponentSign_exponentDigits]
  dsimp only
  rw [digits_append (fun c => isDigit_of_mem_toDigits) hrest]
  split
  · next heq => exact absurd (Prod.mk.inj heq).1 (digitValues_toDigits_ne_nil _)
  · next heq =>
    obtain ⟨rfl, rfl⟩ := Prod.mk.inj heq
    rw [digitsValue_toDigits]
    refine congrArg (fun e => some (some e, rest)) ?_
    by_cases he : e < 0
    · rw [if_pos (decide_eq_true he)]; omega
    · rw [if_neg (by simpa using he)]; omega

theorem exponentPart?_of_numberEnds {rest : List (Option Char)} (h : NumberEnds rest) :
    exponentPart? rest = some (none, rest) := by
  cases rest with
  | nil => rfl
  | cons piece rest =>
    cases piece with
    | none => rfl
    | some c =>
      obtain ⟨-, -, hlower, hupper⟩ := h c rest rfl
      rw [exponentPart?, if_neg (not_or.2 ⟨hlower, hupper⟩)]

/-- The characters of an exponent, if there is one. -/
def exponentChars : Option Int → List Char
  | none => []
  | some e => 'e' :: exponentDigits e

theorem exponentPart?_exponentChars (e : Option Int) {rest : List (Option Char)}
    (h : NumberEnds rest) :
    exponentPart? ((exponentChars e).map some ++ rest) = some (e, rest) := by
  cases e with
  | none => exact exponentPart?_of_numberEnds h
  | some e => exact exponentPart?_exponentDigits e h.digitsEnd

/-- Neither an exponent nor what follows a number begins like a fraction. -/
theorem head_exponentChars {e : Option Int} {rest : List (Option Char)} (h : NumberEnds rest)
    {c : Char} {rest' : List (Option Char)}
    (hcs : (exponentChars e).map some ++ rest = some c :: rest') :
    c.isDigit = false ∧ c ≠ '.' := by
  cases e with
  | none => exact ⟨(h c rest' hcs).1, (h c rest' hcs).2.1⟩
  | some e =>
    obtain rfl := Option.some.inj (List.cons.inj hcs).1
    decide

/-- The characters of a fraction, if there is one. -/
def fractionChars (ds : List Nat) : List Char := if ds = [] then [] else '.' :: fractionDigits ds

theorem number_written_eq (n : Number) :
    n.written = (if n.negative then ['-'] else []) ++ (Nat.toDigits 10 n.whole ++
      (fractionChars n.fraction ++ exponentChars n.exponent)) := by
  simp only [Number.written, List.append_assoc]
  refine congrArg _ (congrArg _ (congrArg _ ?_))
  cases n.exponent <;> rfl

theorem digitsEnd_fractionChars {ds : List Nat} {e : Option Int} {rest : List (Option Char)}
    (h : NumberEnds rest) :
    DigitsEnd ((fractionChars ds).map some ++ ((exponentChars e).map some ++ rest)) := by
  intro c rest' hcs
  unfold fractionChars at hcs
  split at hcs
  · exact (head_exponentChars h hcs).1
  · obtain rfl := Option.some.inj (List.cons.inj hcs).1
    decide

theorem unsigned?_written {n : Number} (hn : ∀ d ∈ n.fraction, d < 10)
    {rest : List (Option Char)} (h : NumberEnds rest) :
    unsigned? n.negative ((Nat.toDigits 10 n.whole ++
      (fractionChars n.fraction ++ exponentChars n.exponent)).map some ++ rest) =
      some (n, rest) := by
  simp only [List.map_append, List.append_assoc, unsigned?, Option.bind_eq_bind]
  rw [wholePart?_toDigits n.whole (digitsEnd_fractionChars h), Option.bind_some]
  dsimp only
  rw [fractionChars, fractionPart?_written hn (fun c rest' hcs => (head_exponentChars h hcs).1)
    fun rest' hcs => (head_exponentChars h hcs).2 rfl, Option.bind_some]
  dsimp only
  rw [exponentPart?_exponentChars n.exponent h, Option.bind_some]
  rfl

/-- A number literal begins with a sign or a digit. -/
theorem exists_written_cons (n : Number) :
    ∃ c cs, n.written = c :: cs ∧ (c = '-' ∨ c.isDigit = true) := by
  rw [number_written_eq]
  split
  · exact ⟨'-', _, rfl, Or.inl rfl⟩
  · obtain ⟨c, ds, hds, hc⟩ := exists_toDigits_cons n.whole
    rw [hds]
    exact ⟨c, _, rfl, Or.inr hc⟩

/-- A number literal is read as it is written. -/
theorem number?_written {n : Number} (hn : ∀ d ∈ n.fraction, d < 10)
    {rest : List (Option Char)} (h : NumberEnds rest) :
    number? (n.written.map some ++ rest) = some (n, rest) := by
  have hunsigned := unsigned?_written hn h
  rw [number_written_eq]
  cases hsign : n.negative with
  | true =>
    rw [hsign] at hunsigned
    exact hunsigned
  | false =>
    rw [hsign] at hunsigned
    rw [if_neg (by decide), List.nil_append, number?.eq_def]
    split
    · next heq =>
      obtain ⟨c, ds, hds, hc⟩ := exists_toDigits_cons n.whole
      rw [hds] at heq
      rw [Option.some.inj (List.cons.inj heq).1] at hc
      exact absurd hc (by decide)
    · exact hunsigned

/-- A number literal is a token. -/
theorem token?_number {n : Number} (hn : ∀ d ∈ n.fraction, d < 10)
    {rest : List (Option Char)} (h : NumberEnds rest) :
    token? (n.written.map some ++ rest) = some (.number n, rest) := by
  have hnumber := number?_written hn h
  obtain ⟨c, cs, hcs, hc⟩ := exists_written_cons n
  rw [hcs, List.map_cons, List.cons_append] at hnumber ⊢
  rw [token?.eq_def]
  -- no other token begins with a sign or a digit
  split
  case h_11 => rw [hnumber]; rfl
  all_goals
    next heq =>
      rw [Option.some.inj (List.cons.inj heq).1] at hc
      exact absurd hc (by decide)

/-! ## Strings -/

/-- The part of a string literal that is read for a character: a control character without an
escape of its own is written as its number. -/
def pieceOf (c : Char) : Piece :=
  if c.toNat < 0x20 ∧ c ∉ ['\x08', '\x0C', '\n', '\r', '\t'] then .unit c.toNat else .char c

theorem pieceOf_of_le {c : Char} (h : ¬ c.toNat < 0x20) : pieceOf c = .char c :=
  if_neg fun hc => h hc.1

/-- A number below 32 is read from its two hexadecimal digits. -/
theorem hexValue4?_control {n : Nat} (h : n < 0x20) :
    hexValue4? '0' '0' (Text.Hex.digit (n / 16)) (Text.Hex.digit (n % 16)) = some n := by
  have hall : ∀ n, n < 0x20 →
      hexValue4? '0' '0' (Text.Hex.digit (n / 16)) (Text.Hex.digit (n % 16)) = some n := by decide
  exact hall n h

theorem pieces?_plain {c : Char} (hquote : c ≠ '"') (hslash : c ≠ '\\') (h : ¬ c.toNat < 0x20)
    (rest : List (Option Char)) :
    pieces? (some c :: rest) = (pieces? rest).map fun (ps, rest) => (.char c :: ps, rest) := by
  rw [pieces?.eq_def]
  split <;> grind

/-- What stands for a character is read as that character. -/
theorem pieces?_escape (c : Char) (rest : List (Option Char)) :
    pieces? ((escape c).map some ++ rest) =
      (pieces? rest).map fun (ps, rest) => (pieceOf c :: ps, rest) := by
  unfold escape
  split_ifs with hquote hslash hback hfeed hline hreturn htab hcontrol
  -- the characters with an escape of their own
  iterate 7 subst c; rfl
  · have hpiece : pieceOf c = .unit c.toNat := by
      refine if_pos ⟨hcontrol, ?_⟩
      simp [hback, hfeed, hline, hreturn, htab]
    simp only [List.map_cons, List.map_nil, List.cons_append, List.nil_append, pieces?,
      hexValue4?_control hcontrol, hpiece]
  · rw [pieceOf_of_le hcontrol]
    exact pieces?_plain hquote hslash hcontrol rest

/-- A string literal is read up to its closing quote. -/
theorem pieces?_flatMap_escape (s : List Char) (rest : List (Option Char)) :
    pieces? ((s.flatMap escape).map some ++ some '"' :: rest) = some (s.map pieceOf, rest) := by
  induction s with
  | nil => rfl
  | cons c s ih =>
    rw [List.flatMap_cons, List.map_append, List.append_assoc, pieces?_escape, ih]
    rfl

/-- The parts that are read for a text denote it. -/
theorem textOf?_pieceOf (s : List Char) : textOf? (s.map pieceOf) = some s := by
  induction s with
  | nil => rfl
  | cons c s ih =>
    rw [List.map_cons]
    by_cases hcontrol : pieceOf c = .char c
    · rw [hcontrol, textOf?, ih]
      rfl
    · have hunit : pieceOf c = .unit c.toNat ∧ c.toNat < 0x20 := by
        unfold pieceOf at hcontrol ⊢
        split at hcontrol
        · next h => exact ⟨if_pos h, h.1⟩
        · exact absurd rfl hcontrol
      -- a control character is no surrogate, whatever comes after it
      rw [hunit.1, textOf?.eq_def]
      have hchar : Char.ofNat c.toNat = c := Char.ofNat_toNat c
      split <;> grind

/-- A string literal is a token, also one that denotes no text. -/
theorem token?_quoted (s : Option String) (rest : List (Option Char)) :
    token? ((quoted s).map some ++ rest) = some (.text s, rest) := by
  cases s with
  | none => rfl
  | some s =>
    have hpieces := pieces?_flatMap_escape s.toList rest
    simp only [quoted, List.cons_append, List.map_cons, List.map_append, List.append_assoc,
      List.map_nil, List.nil_append, token?, hpieces, Option.map_some, textOf?_pieceOf,
      String.ofList_toList]

end TokenConformance.Json
