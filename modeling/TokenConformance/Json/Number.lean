/-! # Number literals

* `Number`: a literal as it is written, so that `1`, `1.0` and `1e0` stay apart.
* `Number.toInt?`: the integer that a literal denotes when it is written as one.
* `Number.isFinite`: whether a reader that keeps numbers in 64-bit floating point can hold it.
-/

namespace TokenConformance

/-- A number literal as it is written. -/
structure Number where
  negative : Bool
  /-- The value of the digits before the point. -/
  whole : Nat
  /-- The digits after the point; there is a point exactly when there are digits after it. -/
  fraction : List Nat
  exponent : Option Int
deriving DecidableEq, Inhabited

namespace Number

/-- The literal of an integer. -/
def ofInt (i : Int) : Number := ⟨i < 0, i.natAbs, [], none⟩

/-- The integer of a literal without fraction and exponent. Zero has no sign. -/
def toInt? (n : Number) : Option Int :=
  if n.fraction = [] ∧ n.exponent = none then
    if n.negative then
      if n.whole = 0 then none else some (-(n.whole : Int))
    else some n.whole
  else none

/-- The integer of a literal in a range. -/
def toIntIn? (low high : Int) (n : Number) : Option Int :=
  n.toInt?.filter fun i => low ≤ i ∧ i ≤ high

/-! ## The range of 64-bit floating point -/

/-- The natural number with 53 significant bits that is nearest to `n`, ties to even. -/
def nearestBinary (n : Nat) : Nat :=
  if n < Nat.pow 2 53 then n
  else
    let scale := Nat.pow 2 (n.log2 - 52)
    let quotient := n / scale
    let remainder := n % scale
    if 2 * remainder < scale then quotient * scale
    else if scale < 2 * remainder then (quotient + 1) * scale
    else (quotient + quotient % 2) * scale

/-- Appends digits to a value while it fits 64 bits, and returns the digits that no longer fit. -/
def appendDigits : Nat → List Nat → Nat × List Nat
  | value, [] => (value, [])
  | value, d :: rest =>
    if value * 10 + d < Nat.pow 2 64 then appendDigits (value * 10 + d) rest else (value, d :: rest)

/-- The decimal digits of a natural number. -/
def digits (n : Nat) : List Nat := (Nat.toDigits 10 n).map fun c => c.toNat - '0'.toNat

/-- Whether a literal has a finite value when its leading digits, as a 64-bit integer, are scaled
by a power of ten in 64-bit floating point. Past the power 308 only zero has one; up to it, the
product of the two rounded factors must lie below the point from which on rounding overflows. -/
def isFinite (n : Number) : Bool :=
  let (lead, wholeRest) := appendDigits 0 (digits n.whole)
  let (lead, fractionRest) := appendDigits lead n.fraction
  let power : Int :=
    wholeRest.length - (n.fraction.length - fractionRest.length : Nat) + n.exponent.getD 0
  lead = 0 || power ≤ 0 ||
    (power ≤ 308 &&
      nearestBinary lead * nearestBinary (Nat.pow 10 power.toNat) <
        Nat.pow 2 1024 - Nat.pow 2 970)

end Number

end TokenConformance
