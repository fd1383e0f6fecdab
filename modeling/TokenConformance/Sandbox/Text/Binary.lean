import TokenConformance.Sandbox.Text.Bytes
import TokenConformance.Sandbox.Text.CharSet

/-! # Binary numbers

* `Binary`: a number as a machine keeps it, a whole number times a power of two.
* `Binary.Format`: how many bits there are for it.
* `roundedQuotient`: a quotient to the nearest whole number.
* `Binary.ofRatio`: the nearest binary number.
* `Binary.ofFloat`, `Binary.toFloat`: numbers of the machine.
* `Binary.fixed`, `Binary.exponential`, `Binary.general`: decimal texts.
* `Numeral`: a number as it is written; `Numeral.read?`: the number at the start of a text.
* `Numeral.toBinary`: the nearest binary number.
-/

namespace TokenConformance.Sandbox.Text

/-- A number as a machine keeps it. -/
inductive Binary where
  /-- The mantissa times a power of two. -/
  | finite (isNegative : Bool) (mantissa : Nat) (exponent : Int)
  | infinite (isNegative : Bool)
  /-- No number at all. -/
  | unordered (isNegative : Bool)
deriving DecidableEq, Inhabited

/-- A quotient as the nearest whole number. A half goes to the even neighbour. -/
def roundedQuotient (a b : Nat) : Nat :=
  let q := a / b
  let twice := 2 * (a % b)
  if b < twice || (twice = b && q % 2 = 1) then q + 1 else q

namespace Binary

/-- How many bits there are for a number. -/
structure Format where
  /-- How many bits a mantissa has. -/
  precision : Nat
  /-- The least exponent. -/
  least : Int
  /-- The greatest exponent of a full mantissa. -/
  greatest : Int
deriving DecidableEq, Inhabited

/-- Numbers of 64 bits. -/
def Format.double : Format := ⟨53, -1074, 971⟩

/-- Numbers of 80 bits. -/
def Format.extended : Format := ⟨64, -16445, 16320⟩

/-- A whole number times a power of two, as numerator and denominator. -/
def scaledRatio (a b : Nat) (e : Int) : Nat × Nat :=
  if 0 ≤ e then (a * Nat.pow 2 e.toNat, b) else (a, b * Nat.pow 2 (-e).toNat)

/-- The binary number that is nearest to a quotient. -/
def ofRatio (f : Format) (isNegative : Bool) (a b : Nat) : Binary :=
  if a = 0 then finite isNegative 0 0
  else
    let guess : Int := (a.log2 : Int) - b.log2 + 1 - f.precision
    let isShort (e : Int) : Bool :=
      let (n, d) := scaledRatio a b (-e)
      n / d < Nat.pow 2 (f.precision - 1)
    let e := max (if isShort guess then guess - 1 else guess) f.least
    let (n, d) := scaledRatio a b (-e)
    let m := roundedQuotient n d
    let (m, e) := if m = Nat.pow 2 f.precision then (m / 2, e + 1) else (m, e)
    if f.greatest < e then infinite isNegative else finite isNegative m e

/-- The number of 64 bits. -/
def ofFloat (x : Float) : Binary :=
  let bits := x.toBits.toNat
  let isNegative := Nat.pow 2 63 ≤ bits
  let exponent : Nat := bits / Nat.pow 2 52 % 2048
  let fraction : Nat := bits % Nat.pow 2 52
  if exponent = 2047 then if fraction = 0 then infinite isNegative else unordered isNegative
  else if exponent = 0 then finite isNegative fraction (-1074)
  else finite isNegative (Nat.pow 2 52 + fraction) ((exponent : Int) - 1075)

/-- A number with 64 bits, which has to fit into them. -/
def toFloat (b : Binary) : Float :=
  let sign (isNegative : Bool) : Nat := if isNegative then Nat.pow 2 63 else 0
  let bits : Nat := match b with
    | infinite isNegative => sign isNegative + 2047 * Nat.pow 2 52
    | unordered isNegative => sign isNegative + 2047 * Nat.pow 2 52 + Nat.pow 2 51
    | finite isNegative m e =>
      if m < Nat.pow 2 52 then sign isNegative + m
      else sign isNegative + (e + 1075).toNat * Nat.pow 2 52 + (m - Nat.pow 2 52)
  Float.ofBits (UInt64.ofNat bits)

/-- Whether a number is less than zero, or is a zero that counts as such. -/
def isNegative : Binary → Bool
  | finite s _ _ => s
  | infinite s => s
  | unordered s => s

/-- The size of a finite number as numerator and denominator. -/
def ratio : Binary → Nat × Nat
  | finite _ m e => scaledRatio m 1 e
  | _ => (0, 1)

/-! ## Decimal texts -/

/-- The size of a number times a power of ten, as the nearest whole number. -/
def scaled (b : Binary) (places : Int) : Nat :=
  let (n, d) := b.ratio
  if 0 ≤ places then roundedQuotient (n * Nat.pow 10 places.toNat) d
  else roundedQuotient n (d * Nat.pow 10 (-places).toNat)

/-- The power of ten that the size of a number starts with. -/
def decimalExponent (b : Binary) : Int :=
  let (n, d) := b.ratio
  if n = 0 then 0
  else
    let guess : Int := ((Nat.toDigits 10 n).length : Int) - (Nat.toDigits 10 d).length
    let reaches := if 0 ≤ guess then d * Nat.pow 10 guess.toNat ≤ n else d ≤ n * Nat.pow 10 (-guess).toNat
    if reaches then guess else guess - 1

/-- Digits with zeros before them, so that there are at least so many. -/
def padDigits (count : Nat) (digits : Bytes) : Bytes :=
  List.replicate (count - digits.length) '0' ++ digits

/-- A whole number and a fraction, with a point if there is a fraction or if it is asked for. -/
def pointed (hasPoint : Bool) (whole fraction : Bytes) : Bytes :=
  if fraction = [] && !hasPoint then whole else whole ++ '.' :: fraction

/-- The size of a number with some places after the point. -/
def fixed (b : Binary) (places : Nat) (hasPoint : Bool) : Bytes :=
  let digits := padDigits (places + 1) (Nat.toDigits 10 (b.scaled places))
  let n := digits.length - places
  pointed hasPoint (digits.take n) (digits.drop n)

/-- The first digits of the size of a number, one more than so many, and its power of ten. -/
def leading (b : Binary) (places : Nat) : Bytes × Int :=
  let e := b.decimalExponent
  let digits := padDigits (places + 1) (Nat.toDigits 10 (b.scaled (places - e)))
  if digits.length > places + 1 then (digits.take (places + 1), e + 1) else (digits, e)

/-- The power of ten after a number. -/
def powerText (e : Int) : Bytes :=
  'e' :: (if e < 0 then '-' else '+') :: padDigits 2 (Nat.toDigits 10 e.natAbs)

/-- The size of a number with one digit before the point and some after it. -/
def exponential (b : Binary) (places : Nat) (hasPoint : Bool) : Bytes :=
  let (digits, e) := b.leading places
  pointed hasPoint (digits.take 1) (digits.drop 1) ++ powerText e

/-- Digits without the zeros at their end. -/
def withoutZeros (digits : Bytes) : Bytes := (digits.reverse.dropWhile (· = '0')).reverse

/-- The size of a number with at most so many digits, in the shorter way. Zeros at the end are kept
if that is asked for. -/
def general (b : Binary) (most : Nat) (keepsZeros : Bool) : Bytes :=
  let most := max most 1
  let (digits, e) := b.leading (most - 1)
  let cut (ds : Bytes) : Bytes := if keepsZeros then ds else withoutZeros ds
  if e < -4 || (most : Int) ≤ e then
    pointed keepsZeros (digits.take 1) (cut (digits.drop 1)) ++ powerText e
  else
    let text := b.fixed ((most : Int) - 1 - e).toNat true
    let whole := text.takeWhile (· ≠ '.')
    pointed keepsZeros whole (cut (text.drop (whole.length + 1)))

/-- The size of a number as a conversion such as `f` writes it. Six places are usual. -/
def magnitude (b : Binary) (conversion : Char) (precision : Option Nat) (isMarked : Bool) : Bytes :=
  let text : Bytes := match b with
    | infinite _ => "inf".toList
    | unordered _ => "nan".toList
    | _ =>
      match conversion.toLower with
      | 'f' => b.fixed (precision.getD 6) isMarked
      | 'e' => b.exponential (precision.getD 6) isMarked
      | _ => b.general (precision.getD 6) isMarked
  if conversion.isUpper then text.map Char.toUpper else text

end Binary

/-! ## Reading numbers -/

/-- A number as it is written. -/
inductive Numeral where
  /-- Digits times a power of ten. -/
  | decimal (isNegative : Bool) (digits : Nat) (exponent : Int)
  /-- Digits times a power of two. -/
  | hexadecimal (isNegative : Bool) (digits : Nat) (exponent : Int)
  | infinite (isNegative : Bool)
  | unordered (isNegative : Bool)
deriving DecidableEq, Inhabited

namespace Numeral

/-- The value of a hexadecimal digit. -/
def digitOf (c : Char) : Nat :=
  if c.isDigit then c.toNat - 48 else (c.toLower.toNat - 'a'.toNat) + 10

/-- The number that digits stand for. -/
def valueIn (base : Nat) (digits : Bytes) : Nat := digits.foldl (fun n c => n * base + digitOf c) 0

/-- The digits at the start of a text before and after a point, and what follows them. There is at
least one of them. -/
def mantissa? (isDigit : Char → Bool) (cs : Bytes) : Option (Bytes × Bytes × Bytes) :=
  let whole := cs.takeWhile isDigit
  let rest := cs.drop whole.length
  match rest with
  | '.' :: after =>
    let fraction := after.takeWhile isDigit
    if whole = [] && fraction = [] then none
    else some (whole, fraction, after.drop fraction.length)
  | _ => if whole = [] then none else some (whole, [], rest)

/-- The exponent at the start of a text, after one of two letters, and what follows it. -/
def exponent (letter : Char) (cs : Bytes) : Int × Bytes :=
  match cs with
  | c :: rest =>
    if c.toLower ≠ letter then (0, cs)
    else
      let (isNegative, text) : Bool × Bytes := match rest with
        | '-' :: text => (true, text)
        | '+' :: text => (false, text)
        | _ => (false, rest)
      let digits := text.takeWhile Char.isDigit
      if digits = [] then (0, cs)
      else
        let n : Int := valueIn 10 digits
        (if isNegative then -n else n, text.drop digits.length)
  | [] => (0, [])

/-- Whether a text starts with a word in any case. -/
def startsWithWord (word : String) (cs : Bytes) : Bool :=
  word.toList.isPrefixOf (cs.map Char.toLower)

/-- The number at the start of a text, and what follows it. Blanks may stand before it. -/
def read? (cs : Bytes) : Option (Numeral × Bytes) :=
  let cs := cs.dropWhile isSpace
  let (s, text) : Bool × Bytes := match cs with
    | '-' :: text => (true, text)
    | '+' :: text => (false, text)
    | _ => (false, cs)
  if startsWithWord "infinity" text then some (infinite s, text.drop 8)
  else if startsWithWord "inf" text then some (infinite s, text.drop 3)
  else if startsWithWord "nan" text then some (unordered s, text.drop 3)
  else
    let hexadecimal? : Option (Numeral × Bytes) := match text with
      | '0' :: x :: rest =>
        if x ≠ 'x' && x ≠ 'X' then none
        else (mantissa? isHexDigit rest).map fun (whole, fraction, after) =>
          let (e, after) := exponent 'p' after
          (hexadecimal s (valueIn 16 (whole ++ fraction)) (e - 4 * fraction.length), after)
      | _ => none
    match hexadecimal? with
    | some found => some found
    | none => (mantissa? Char.isDigit text).map fun (whole, fraction, after) =>
      let (e, after) := exponent 'e' after
      (decimal s (valueIn 10 (whole ++ fraction)) (e - fraction.length), after)

/-- How large a power may be that is worked out. -/
def greatestPower : Int := 20000

/-- The nearest binary number. -/
def toBinary (f : Binary.Format) : Numeral → Binary
  | infinite s => .infinite s
  | unordered s => .unordered s
  | decimal s n e =>
    let size := e + (Nat.toDigits 10 n).length
    if n = 0 || size < -greatestPower then .finite s 0 0
    else if greatestPower < size then .infinite s
    else if 0 ≤ e then .ofRatio f s (n * Nat.pow 10 e.toNat) 1
    else .ofRatio f s n (Nat.pow 10 (-e).toNat)
  | hexadecimal s n e =>
    let size := e + n.log2
    if n = 0 || size < -greatestPower then .finite s 0 0
    else if greatestPower < size then .infinite s
    else
      let (a, b) := Binary.scaledRatio n 1 e
      .ofRatio f s a b

/-- Whether the nearest binary number is too large or too small to be near. -/
def isBeyond (n : Numeral) (b : Binary) : Bool :=
  let hasDigits : Bool := match n with
    | decimal _ digits _ => digits ≠ 0
    | hexadecimal _ digits _ => digits ≠ 0
    | _ => false
  hasDigits &&
    match b with
    | .finite _ m e => m = 0 || (m < Nat.pow 2 52 && e = Binary.Format.double.least)
    | _ => true

end Numeral

end TokenConformance.Sandbox.Text
