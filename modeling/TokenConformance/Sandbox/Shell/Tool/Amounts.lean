import TokenConformance.Sandbox.Shell.Tool.Basic

/-! # Amounts in arguments

* `unitOf?`: what the letters after a number multiply it by.
* `size?`: a number with such letters.
* `Amount`: how much of a text is meant.
* `shortSize`: an amount in the unit that suits it.
-/

namespace TokenConformance.Sandbox.Shell.Tool

open Sandbox.Text (Bytes)

/-- The letters of the powers of a thousand, the smallest first. -/
def powerLetters : Bytes := "KMGTPEZYRQ".toList

/-- What the letters after a number multiply it by. -/
def unitOf? (unit : Bytes) : Option Nat :=
  match unit with
  | [] => some 1
  | ['b'] => some 512
  | ['c'] => some 1
  | ['w'] => some 2
  | c :: rest =>
    let letter := if c = 'k' || c = 'm' || c = 'g' || c = 't' then c.toUpper else c
    if letter ∈ powerLetters then
      let power := powerLetters.idxOf letter + 1
      match rest with
      | [] | ['i', 'B'] => some (Nat.pow 1024 power)
      | ['B'] => some (Nat.pow 1000 power)
      | _ => none
    else none

/-- The number of bytes that a text such as `4k` stands for. -/
def size? (text : Bytes) : Option Nat :=
  let digits := text.takeWhile Char.isDigit
  let unit := text.drop digits.length
  if text = [] then none
  else if digits = [] then
    match unit with
    | 'b' :: _ | 'c' :: _ | 'w' :: _ => none
    | _ => unitOf? unit
  else (unitOf? unit).map (digitsValue digits * ·)

/-- How much of a text is meant. -/
structure Amount where
  count : Nat
  /-- Whether the number has a minus or a plus sign before it. -/
  sign : Option Char
deriving DecidableEq, Inhabited

/-- Reads an amount. -/
def amount? : Bytes → Option Amount
  | '-' :: text => (size? text).map (⟨·, some '-'⟩)
  | '+' :: text => (size? text).map (⟨·, some '+'⟩)
  | text => (size? text).map (⟨·, none⟩)

/-- Whether a text is too large for a number of the machine. -/
def isTooLarge (text : Bytes) : Bool :=
  match size? (if text.head? = some '-' || text.head? = some '+' then text.drop 1 else text) with
  | some n => 18446744073709551615 < n
  | none => false

/-- An amount in the unit that suits it, such as `4.0K`, which is not smaller than the amount. The
number bounds how large units are. -/
def shortSizeFrom (base : Nat) (letters : Bytes) : Nat → Nat → Nat → Bytes
  | 0, _, n => Bytes.ofInt n
  | k + 1, power, n =>
    let unit := Nat.pow base power
    let letter := letters.getD (power - 1) 'K'
    if power = 0 then
      if n < base then Bytes.ofInt n else shortSizeFrom base letters k 1 n
    else
      let tenths := (n * 10 + unit - 1) / unit
      let whole := (n + unit - 1) / unit
      if tenths < 100 then
        Bytes.ofInt (tenths / 10) ++ '.' :: Bytes.ofInt (tenths % 10) ++ [letter]
      else if whole < base then Bytes.ofInt whole ++ [letter]
      else shortSizeFrom base letters k (power + 1) n

/-- An amount in the unit that suits it, with powers of 1024, or of 1000 if that is wanted. -/
def shortSize (isDecimal : Bool) (n : Nat) : Bytes :=
  if isDecimal then shortSizeFrom 1000 "kMGTPEZYRQ".toList 10 0 n
  else shortSizeFrom 1024 powerLetters 10 0 n

end TokenConformance.Sandbox.Shell.Tool
