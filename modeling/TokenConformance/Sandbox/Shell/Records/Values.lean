import TokenConformance.Sandbox.Shell.Printing
import TokenConformance.Sandbox.Shell.Records.Syntax
import TokenConformance.Sandbox.Shell.Records.Table
import TokenConformance.Sandbox.Shell.Records.Token

/-! # Values of scripts

* `whole?`: the whole number that a number is.
* `Value.toNumber`, `Value.toText`, `Value.isTrue`, `Value.toKey`: what a value is in some place.
* `Value.compare`: how two values stand to each other.
* `Formatted`, `format`: values in a format.
* `partFrom`: a part of a text.
-/

namespace TokenConformance.Sandbox.Shell.Records

open Sandbox.Text (Bytes Binary Numeral)

/-! ## Numbers -/

/-- The number of 64 bits at the start of a text, and zero if there is none. -/
def numberOf (text : Bytes) : Float :=
  match Numeral.read? text with
  | some (n, _) => (n.toBinary .double).toFloat
  | none => 0

/-- Whether a text is a number, with blanks around it. -/
def looksNumeric (text : Bytes) : Bool :=
  match Numeral.read? text with
  | some (_, rest) => rest.all Text.isSpace
  | none => false

/-- How many numbers a word has. -/
def wordCount : Int := Nat.pow 2 64

/-- How many numbers a word has that are less than zero. -/
def wordHalf : Int := Nat.pow 2 63

/-- The whole part of a number. -/
def wholePart (x : Float) : Int :=
  match Binary.ofFloat x with
  | .finite s m e =>
    let n : Nat := if 0 ≤ e then m * Nat.pow 2 e.toNat else m / Nat.pow 2 (-e).toNat
    if s then -(n : Int) else n
  | .infinite s => if s then 1 - wordHalf else wordCount - 1
  | .unordered _ => -wordHalf

/-- The whole number that a number is. -/
def whole? (x : Float) : Option Int :=
  match Binary.ofFloat x with
  | .finite _ m e =>
    if 0 ≤ e || m % Nat.pow 2 (-e).toNat = 0 then some (wholePart x) else none
  | _ => none

/-- The whole part of a number with as many bits as a machine has. -/
def clampedWhole (x : Float) : Int :=
  let n := wholePart x
  if x.isNaN then n else max (1 - wordHalf) (min n (wordCount - 1))

/-- The whole part of a number where there are no numbers less than zero; they count from the end. -/
def unsignedWhole (x : Float) : Int :=
  let n := wholePart x
  if x.isNaN then n
  else if x < 0 then if x.isInf then 1 - wordCount else max (1 - wordCount) n
  else min n (wordCount - 1)

/-! ## Formats -/

/-- Values in a format: what has been written, with its last byte first, and the fault that has ended
it. -/
structure Formatted where
  written : Bytes
  values : List Value
  /-- How many values have been written. -/
  count : Nat
  fault : Option Bytes
deriving Inhabited

/-- What has been written with more after it. -/
def Formatted.add (f : Formatted) (text : Bytes) : Formatted :=
  { f with written := text.reverseAux f.written }

/-- The value as a number. -/
def Value.toNumber : Value → Float
  | .unset => 0
  | .number x => x
  | .text t => numberOf t
  | .input t => numberOf t

/-- A number as a format writes it. -/
def floatText (d : Directive) (conversion : Char) (x : Float) : Bytes :=
  if x.isNaN then d.pad (if conversion.isUpper then "-NAN".toList else "-nan".toList)
  else d.floating conversion (Binary.ofFloat x)

/-- The whole part of a number as a format writes it, or nothing if the conversion is not for whole
numbers. Numbers too large for a sign may have none. -/
def wholeText? (d : Directive) (conversion : Char) (x : Float) : Option Bytes :=
  let n := clampedWhole x
  match conversion with
  | 'd' => some (if wordHalf ≤ n then d.unsigned 'u' n else d.signed n)
  | 'i' => some (d.signed (min n (wordHalf - 1)))
  | 'u' | 'o' | 'x' | 'X' => some (d.unsigned conversion (unsignedWhole x))
  | _ => none

/-- A number in the format of one number, which is known to have no other directive. -/
def numberInFormat (formatText : Bytes) (x : Float) : Bytes :=
  let before := formatText.takeWhile (· ≠ '%')
  let rest := formatText.drop (before.length + 1)
  let flags := rest.takeWhile fun c => c ∈ "#-+ 0".toList
  let rest := rest.drop flags.length
  let width := rest.takeWhile Char.isDigit
  let rest := rest.drop width.length
  let (precision, rest) : Option Nat × Bytes := match rest with
    | '.' :: rest =>
      let digits := rest.takeWhile Char.isDigit
      (some (digitsValue digits), rest.drop digits.length)
    | _ => (none, rest)
  let d : Directive := ⟨flags, digitsValue width, precision⟩
  match rest with
  | c :: after =>
    before ++ (wholeText? d c x).getD (floatText d c x) ++ after
  | [] => before

/-- A number as a text: its digits if it is whole, and otherwise what a format makes of it. -/
def numberText (formatText : Bytes) (x : Float) : Bytes :=
  match whole? x with
  | some n =>
    if -wordHalf ≤ n && n < wordCount then Bytes.ofInt n
    else if n = wordCount then Bytes.ofInt (wordCount - 1)
    else numberInFormat formatText x
  | none => numberInFormat formatText x

/-- The value as a text; the format is that of numbers that are not whole. -/
def Value.toText (formatText : Bytes) : Value → Bytes
  | .unset => []
  | .number x => numberText formatText x
  | .text t => t
  | .input t => t

/-- Whether the value counts as true. -/
def Value.isTrue : Value → Bool
  | .unset => false
  | .number x => x != 0
  | .text t => t ≠ []
  | .input t => if looksNumeric t then numberOf t != 0 else t ≠ []

/-- The key that a value is. -/
def Value.toKey (formatText : Bytes) : Value → Key
  | .number x =>
    match whole? x with
    | some n =>
      if -wordHalf ≤ n && n < wordHalf then .number n else .text (numberInFormat formatText x)
    | none => .text (numberInFormat formatText x)
  | v => .text (v.toText formatText)

/-- Whether a value is compared as a number. -/
def Value.isNumeric : Value → Bool
  | .unset | .number _ => true
  | .text _ => false
  | .input t => looksNumeric t

/-- Whether two values stand to each other in some way. Numbers are equal unless one of them is less than
the other. -/
def Value.compare (formatText : Bytes) (c : Comparison) (a b : Value) : Bool :=
  if a.isNumeric && b.isNumeric then
    let x := a.toNumber
    let y := b.toNumber
    match c with
    | .less => x < y
    | .atMost => !(y < x)
    | .equal => !(x < y || y < x)
    | .different => x < y || y < x
    | .atLeast => !(x < y)
    | .greater => y < x
  else
    let s := a.toText formatText
    let t := b.toText formatText
    match c with
    | .less => !Bytes.isAtMost t s
    | .atMost => Bytes.isAtMost s t
    | .equal => s = t
    | .different => s ≠ t
    | .atLeast => Bytes.isAtMost t s
    | .greater => !Bytes.isAtMost s t

/-- What an operation gives. -/
def Operation.apply (o : Operation) (x y : Float) : Float :=
  match o with
  | .plus => x + y
  | .minus => x - y
  | .times => x * y
  | .over => x / y
  | .rest =>
    match Binary.ofFloat x, Binary.ofFloat y with
    | .finite s m e, .finite _ n g =>
      if n = 0 then 0 / 0
      else
        let low := min e g
        let rest := (m * Nat.pow 2 (e - low).toNat) % (n * Nat.pow 2 (g - low).toNat)
        let (a, b) := Binary.scaledRatio rest 1 low
        (Binary.ofRatio .double s a b).toFloat
    | .finite .., .infinite _ => x
    | _, _ => 0 / 0
  | .power => Float.pow x y

/-! ## Writing -/

/-- The character that a value stands for. -/
def Value.toChar : Value → Char
  | .unset => '\x00'
  | .number x => Char.ofNat ((clampedWhole x) % 256).toNat
  | .text t => t.head?.getD '\x00'
  | .input t =>
    if looksNumeric t then Char.ofNat ((clampedWhole (numberOf t)) % 256).toNat
    else t.head?.getD '\x00'

/-- Reads a number in a directive, which a value may give. The result has a fault if there is no
value. -/
def fieldNumber? (cs : Bytes) (f : Formatted) : Option (Option Int × Bytes × Formatted) :=
  match cs with
  | '*' :: rest =>
    match f.values with
    | v :: values => some (some (wholePart v.toNumber), rest, { f with values })
    | [] => none
  | _ =>
    let digits := cs.takeWhile Char.isDigit
    some (if digits = [] then none else some (digitsValue digits), cs.drop digits.length, f)

/-- Writes values in a format. `numbers` is the format of numbers that are not whole, and `name` that
of the routine that writes. The number bounds the length of the format. -/
def formatFrom (numbers whole : Bytes) (name : String) : Nat → Bytes → Formatted → Formatted
  | 0, _, f => f
  | _, [], f => f
  | n + 1, '%' :: '%' :: rest, f => formatFrom numbers whole name n rest (f.add ['%'])
  | n + 1, '%' :: rest, f =>
    let inCall : Bytes := name.toList ++ '(' :: '"' :: whole ++ ['"', ')']
    let missing : Formatted :=
      { f with fault := some ("not enough arguments passed to ".toList ++ inCall) }
    let flags := rest.takeWhile fun c => c ∈ "#-+ 0".toList
    match fieldNumber? (rest.drop flags.length) f with
    | none => missing
    | some (width, rest, f) =>
      let isPointed := rest.head? = some '.'
      match fieldNumber? (if isPointed then rest.drop 1 else []) f with
      | none => missing
      | some (precision, after, f) =>
        let rest := if isPointed then after else rest
        let rest := rest.dropWhile fun c => c ∈ ['l', 'h', 'q']
        let flags := if width.getD 0 < 0 then '-' :: flags else flags
        let d : Directive :=
          ⟨flags, (width.getD 0).natAbs,
            if isPointed then some (precision.getD 0).toNat else none⟩
        match f.values with
        | [] => missing
        | v :: values =>
          let f := { f with values, count := f.count + 1 }
          let written : Option Bytes := match rest with
            | [] => none
            | c :: _ =>
              let cut (text : Bytes) : Bytes := match precision with
                | some k => text.take k.toNat
                | none => text
              if c = 's' then some (d.pad (cut (v.toText numbers)))
              else if c = 'c' then some (d.pad (cut [v.toChar]))
              else if c ∈ "eEfFgG".toList then some (floatText d c v.toNumber)
              else wholeText? d c v.toNumber
          match written with
          | some text => formatFrom numbers whole name n (rest.drop 1) (f.add text)
          | none =>
            { f with fault := some (Tool.filled "improper conversion(number %) in %"
              [Bytes.ofInt f.count, inCall]) }
  | n + 1, cs, f =>
    formatFrom numbers whole name n (cs.dropWhile (· ≠ '%')) (f.add (cs.takeWhile (· ≠ '%')))

/-- Writes values in a format. -/
def format (numbers : Bytes) (name : String) (whole : Bytes) (values : List Value) : Formatted :=
  formatFrom numbers whole name (whole.length + 1) whole ⟨[], values, 0, none⟩

/-! ## Parts -/

/-- The part of a text from a place on, which is counted from one; a place before the first makes the
part longer. -/
def partFrom (text : Bytes) (start : Int) (length? : Option Int) : Bytes :=
  let length := length?.map fun n => if start < 0 then n - start else n
  let text := text.drop (start - 1).toNat
  match length with
  | some n => text.take n.toNat
  | none => text

end TokenConformance.Sandbox.Shell.Records
