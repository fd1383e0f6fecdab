import TokenConformance.Sandbox.Shell.Tool.Amounts
import TokenConformance.Sandbox.Shell.Tool.Columns
import TokenConformance.Sandbox.Text.Binary

/-! # A program that writes numbers for people

* `Scale`: what the letters after a number stand for.
* `Figure.read`: a number with such letters.
* `Rounding`, `rounded`: to which side numbers are rounded.
* `FigureStyle.write`: a number as it is written.
* `numfmt`: changes the numbers in lines.
-/

namespace TokenConformance.Sandbox.Shell.Tool

open Sandbox.Text (Bytes Binary)

/-! ## Letters -/

/-- What the letters after a number stand for. -/
inductive Scale where
  | none
  /-- Powers of 1000, or of 1024 if a small letter follows. -/
  | auto
  | thousands
  | binary
  /-- Powers of 1024, whose letters a small letter follows. -/
  | marked
deriving DecidableEq, Inhabited

/-- The number whose powers the letters stand for. -/
def Scale.base : Scale → Nat
  | .binary | .marked => 1024
  | _ => 1000

/-- The scale with a name. -/
def Scale.named : String → Scale
  | "si" => .thousands
  | "iec" => .binary
  | "iec-i" => .marked
  | "auto" => .auto
  | _ => .none

/-! ## Reading -/

/-- A number that has been read. -/
structure Figure where
  value : Rat
  /-- How many digits stand behind the point, unless letters follow. -/
  precision : Nat
deriving Inhabited

/-- How many digits can be shown without letters. -/
def mostPlainDigits : Nat := 18

/-- How many digits a number may have. -/
def mostFigureDigits : Nat := 33

/-- A number of digits as a fraction. -/
def digitsRat (digits : Bytes) : Rat := (digitsValue digits : Rat)

/-- Reads a number with the letters after it, or tells what is wrong with it. -/
def Figure.read (scale : Scale) (text : Bytes) : Except Bytes Figure := do
  let fault (reason : String) : Bytes := filled (reason ++ ": %") [inSingleQuotes text]
  let isNegative := text.head? = some '-'
  let body := if isNegative then text.drop 1 else text
  let whole := body.takeWhile Char.isDigit
  let rest := body.drop whole.length
  if whole = [] && rest.head? ≠ some '.' then throw (fault "invalid number")
  if mostFigureDigits < (whole.dropWhile (· = '0')).length then
    throw (fault "value too large to be converted")
  let (fraction, rest) ← match rest with
    | '.' :: after =>
      let digits := after.takeWhile Char.isDigit
      if digits = [] then throw (fault "invalid number")
      else pure (digits, after.drop digits.length)
    | rest => pure ([], rest)
  let size : Rat := digitsRat whole + digitsRat fraction / (Nat.pow 10 fraction.length : Rat)
  let value := if isNegative then -size else size
  if rest = [] then
    if scale = .marked then throw (filled "missing 'i' suffix in input: % (e.g Ki/Mi/Gi)"
      [inSingleQuotes text])
    else return ⟨value, fraction.length⟩
  match rest.dropWhile fun c => c = ' ' || c = '\t' with
  | [] => throw (fault "invalid suffix in input")
  | letter :: after =>
    if letter ∉ powerLetters then throw (fault "invalid suffix in input")
    if scale = .none then
      throw (filled "rejecting suffix in input: % (consider using --from)" [inSingleQuotes text])
    let power := powerLetters.idxOf letter + 1
    let hasMark := after.head? = some 'i'
    if scale = .marked && !hasMark then
      throw (filled "missing 'i' suffix in input: % (e.g Ki/Mi/Gi)" [inSingleQuotes text])
    let takesMark := hasMark && (scale = .auto || scale = .marked)
    let base := if scale = .auto && hasMark then 1024 else scale.base
    let left := if takesMark then after.drop 1 else after
    if left ≠ [] then
      throw (filled "invalid suffix in input %: %" [inSingleQuotes text, inSingleQuotes left])
    return ⟨value * (Nat.pow base power : Rat), 0⟩

/-! ## Rounding -/

/-- To which side numbers are rounded. -/
inductive Rounding where
  | up
  | down
  | fromZero
  | towardsZero
  | nearest
deriving DecidableEq, Inhabited

/-- The rounding with a name. -/
def Rounding.named : String → Rounding
  | "up" => .up
  | "down" => .down
  | "towards-zero" => .towardsZero
  | "nearest" => .nearest
  | _ => .fromZero

/-- The size of a number. -/
def sizeOfRat (r : Rat) : Rat := if r < 0 then -r else r

/-- A whole number near a number. -/
def rounded (side : Rounding) (r : Rat) : Int :=
  match side with
  | .up => r.ceil
  | .down => r.floor
  | .fromZero => if r < 0 then r.floor else r.ceil
  | .towardsZero => if r < 0 then r.ceil else r.floor
  | .nearest => if r < 0 then (r - 1 / 2).ceil else (r + 1 / 2).floor

/-- A number rounded behind some digits after the point. -/
def roundedAt (side : Rounding) (digits : Nat) (r : Rat) : Rat :=
  (rounded side (r * (Nat.pow 10 digits : Rat)) : Rat) / (Nat.pow 10 digits : Rat)

/-- A number with some digits behind the point. Halves are rounded to even digits. -/
def decimalText (digits : Nat) (r : Rat) : Bytes :=
  let scaled := sizeOfRat r * (Nat.pow 10 digits : Rat)
  let low := scaled.floor
  let rest := scaled - (low : Rat)
  let whole := (if rest < 1 / 2 || (rest = 1 / 2 && low % 2 = 0) then low else low + 1).toNat
  let text := Binary.padDigits (digits + 1) (Nat.toDigits 10 whole)
  let count := text.length - digits
  (if r < 0 then ['-'] else []) ++ text.take count ++
    if digits = 0 then [] else '.' :: text.drop count

/-- A number as one below a base, and how often it has been divided for that. The first number bounds
how often. -/
def reduced (base : Rat) : Nat → Rat → Rat × Nat
  | 0, r => (r, 0)
  | n + 1, r =>
    if sizeOfRat r < base then (r, 0)
    else
      let (s, power) := reduced base n (r / base)
      (s, power + 1)

/-! ## Writing -/

/-- How numbers are written. -/
structure FigureStyle where
  scale : Scale
  rounding : Rounding
  precision : Option Nat
  /-- How wide numbers are with zeros before them. -/
  zeroWidth : Nat
  /-- What follows every number. -/
  unit : Bytes
deriving Inhabited

/-- A number that is so wide with zeros before it. -/
def withZeros (width : Nat) (text : Bytes) : Bytes :=
  match text with
  | '-' :: digits => '-' :: List.replicate (width - text.length) '0' ++ digits
  | digits => List.replicate (width - text.length) '0' ++ digits

/-- A number as messages show it. -/
def roughText (r : Rat) : Bytes :=
  let (mantissa, power) := reduced 10 100 r
  if power < 6 then
    let text := decimalText (5 - power) r
    if '.' ∈ text then
      ((text.reverse.dropWhile (· = '0')).dropWhile (· = '.')).reverse
    else text
  else
    let text := decimalText 5 mantissa
    let text := ((text.reverse.dropWhile (· = '0')).dropWhile (· = '.')).reverse
    text ++ "e+".toList ++ Binary.padDigits 2 (Nat.toDigits 10 power)

/-- A number as it is written, or what is wrong with it. -/
def FigureStyle.write (s : FigureStyle) (f : Figure) : Except Bytes Bytes := do
  let precision := s.precision.getD f.precision
  let digits := (reduced 10 200 f.value).2
  if s.scale = .none && mostPlainDigits < digits + precision then
    if precision = 0 then
      throw (filled "value too large to be printed: '%' (consider using --to)" [roughText f.value])
    else
      throw (filled "value/precision too large to be printed: '%/%' (consider using --to)"
        [roughText f.value, Bytes.ofInt precision])
  if mostFigureDigits - 1 < digits then
    throw (filled "value too large to be printed: '%' (cannot handle values > 999Q)"
      [roughText f.value])
  if s.scale = .none then
    let text := decimalText precision (roundedAt s.rounding precision f.value)
    return withZeros s.zeroWidth text ++ s.unit
  else
    let base : Rat := (s.scale.base : Rat)
    let (value, power) := reduced base 100 f.value
    let kept := match s.precision with
      | some p => min (power * 3) p
      | none => if sizeOfRat value < 10 then 1 else 0
    let value := roundedAt s.rounding kept value
    let (value, power) := if sizeOfRat value < base then (value, power) else (value / base, power + 1)
    let hasPoint := value ≠ 0 && sizeOfRat value < 10 && 0 < power
    let shown := s.precision.getD (if hasPoint then 1 else 0)
    let letter : Bytes := if power = 0 then [] else [powerLetters.getD (power - 1) 'Q']
    let mark : Bytes := if s.scale = .marked && 0 < power then ['i'] else []
    return withZeros s.zeroWidth (decimalText shown value) ++ letter ++ mark ++ s.unit

/-! ## Formats -/

/-- A format for numbers. -/
structure FigureFormat where
  before : Bytes
  after : Bytes
  /-- Whether digits are grouped, which does not change anything here. -/
  isGrouped : Bool
  /-- How wide numbers are; below zero they stand on the left. -/
  width : Int
  zeroWidth : Nat
  precision : Option Nat
deriving Inhabited

/-- Reads what follows the percent sign of a format: flags first. The result tells whether numbers are
grouped and have zeros before them. -/
def formatFlags : Bytes → Bool × Bool × Bytes
  | ' ' :: rest => formatFlags rest
  | '\'' :: rest =>
    let (_, hasZeros, rest) := formatFlags rest
    (true, hasZeros, rest)
  | '0' :: rest =>
    let (isGrouped, _, rest) := formatFlags rest
    (isGrouped, true, rest)
  | rest => (false, false, rest)

/-- Whether a percent sign stands alone somewhere. -/
def hasDirective : Bytes → Bool
  | '%' :: '%' :: rest => hasDirective rest
  | '%' :: _ => true
  | _ :: rest => hasDirective rest
  | [] => false

/-- A text up to a percent sign that stands alone, and what follows it. Two of them count as one
character. -/
def beforeFigure : Bytes → Option (Nat × Bytes)
  | '%' :: '%' :: rest => (beforeFigure rest).map fun (n, rest) => (n + 1, rest)
  | '%' :: rest => some (0, rest)
  | _ :: rest => (beforeFigure rest).map fun (n, rest) => (n + 1, rest)
  | [] => none

/-- Reads a format for numbers. -/
def FigureFormat.read (text : Bytes) : Except Bytes FigureFormat := do
  match beforeFigure text with
  | none => throw (filled "format % has no % directive" [inSingleQuotes text, ['%']])
  | some (count, rest) =>
    let (isGrouped, hasZeros, rest) := formatFlags rest
    let sign := rest.takeWhile fun c => c = '-' || c = '+'
    let digits := (rest.drop sign.length).takeWhile Char.isDigit
    let isNumber := sign.length ≤ 1 && digits ≠ []
    let size := if isNumber then digitsValue digits else 0
    let rest := if isNumber then rest.drop (sign.length + digits.length) else rest
    let isLeft := sign = ['-']
    if rest = [] then throw (filled "format % ends in %" [inSingleQuotes text, ['%']])
    let (precision, rest) ← match rest with
      | '.' :: after =>
        let digits := after.takeWhile Char.isDigit
        if digits = [] && after.head?.any fun c => c = ' ' || c = '\t' || c = '+' || c = '-' then
          throw (filled "invalid precision in format %" [inSingleQuotes text])
        else pure (some (digitsValue digits), after.drop digits.length)
      | rest => pure (none, rest)
    match rest with
    | 'f' :: after =>
      if hasDirective after then
        throw (filled "format % has too many % directives" [inSingleQuotes text, ['%']])
      return ⟨text.take count, after, isGrouped,
        if isLeft then -(size : Int) else if hasZeros then 0 else size,
        if hasZeros && !isLeft then size else 0, precision⟩
    | _ =>
      throw (filled "invalid format %, directive must be %[0]['][-][N][.][N]f"
        [inSingleQuotes text, ['%']])

/-! ## The program -/

/-- How numbers in lines are changed. -/
structure FigureJob where
  style : FigureStyle
  source : Scale
  /-- What numbers are multiplied by. -/
  factor : Rat
  delimiter : Option Char
  /-- The fields with numbers. -/
  fields : Nat → Bool
  width : Int
  before : Bytes
  after : Bytes
  /-- What is done with something that is no number: a key of the option for that. -/
  invalid : String

/-- A number in a field of a line. -/
def FigureJob.field (j : FigureJob) (number : Nat) (text : Bytes) : Except Bytes Bytes := do
  let unit := j.style.unit
  let body := if unit.length < text.length && unit.isSuffixOf text then
      text.take (text.length - unit.length)
    else text
  let start := body.dropWhile fun c => c = ' ' || c = '\t'
  let figure ← Figure.read j.source start
  let shown ← j.style.write { figure with value := figure.value * j.factor }
  let isAligned := j.width = 0 && j.delimiter.isNone && (start.length < body.length || 1 < number)
  let width : Nat := if isAligned then body.length else j.width.natAbs
  let gap := List.replicate (width - shown.length) ' '
  return j.before ++ (if j.width < 0 then shown ++ gap else gap ++ shown) ++ j.after

/-- The fields of a line, the blanks before a field with it. The number bounds how many there are. -/
def FigureJob.fieldsOf (j : FigureJob) : Nat → Bytes → List Bytes
  | 0, _ => []
  | n + 1, line =>
    let size : Nat := match j.delimiter with
      | some d => (line.takeWhile (· ≠ d)).length
      | none =>
        let isBlank (c : Char) : Bool := c = ' ' || c = '\t' || c = '\n'
        let blanks := (line.takeWhile isBlank).length
        blanks + ((line.drop blanks).takeWhile fun c => !isBlank c).length
    match line.drop size with
    | [] => [line]
    | _ :: rest => line.take size :: fieldsOf j n rest

/-- Changes a line, and tells whether all its numbers could be read, or whether the program ends. -/
def FigureJob.line (j : FigureJob) (c : Call) (line ending : Bytes) : Action (Option Bool) := do
  let mut isValid := true
  let between := j.delimiter.getD ' '
  for (text, i) in (j.fieldsOf (line.length + 1) line).zipIdx do
    if 0 < i then print [between]
    if !j.fields (i + 1) then print text
    else
      match j.field (i + 1) text with
      | .ok shown => print shown
      | .error fault =>
        if j.invalid ≠ "ignore" then c.say fault
        if j.invalid = "abort" then return none
        print text
        isValid := false
  print ending
  return some isValid

/-- The number that a unit such as `K` stands for. -/
def unitSize? (text : Bytes) : Option Nat :=
  let digits := text.takeWhile Char.isDigit
  let number := if digits = [] then some 1 else digitsValue? digits
  let factor : Option Nat := match text.drop digits.length with
    | [] => if digits = [] then none else some 1
    | [c] => if c ∈ powerLetters then some (Nat.pow 1000 (powerLetters.idxOf c + 1)) else none
    | [c, 'i'] => if c ∈ powerLetters then some (Nat.pow 1024 (powerLetters.idxOf c + 1)) else none
    | _ => none
  (number.bind fun n => factor.map (n * ·)).filter (0 < ·)

/-- What is done with something that is no number. -/
def invalidKinds : List String := ["abort", "fail", "warn", "ignore"]

/-- Changes the numbers in lines. -/
def numfmt : Tool := fun c =>
  c.withOptions
    [longFlag "debug", valued 'd' "delimiter", longValued "field", longValued "format",
      longValued "from", longValued "from-unit", longFlag "grouping", longVariant "header",
      longValued "invalid", longValued "padding", longValued "round", longValued "suffix",
      longValued "to", longValued "to-unit", flag 'z' "zero-terminated"] fun g => do
    let choice (key : String) (known : List String) (start : String)
        (f : String → Action Nat) : Action Nat :=
      c.withChoice ("--" ++ key) known ((g.value? key).getD start.toList) f
    choice "from" ["none", "auto", "si", "iec", "iec-i"] "none" fun source => do
    choice "to" ["none", "si", "iec", "iec-i"] "none" fun target => do
    choice "round" ["up", "down", "from-zero", "towards-zero", "nearest"] "from-zero" fun side => do
    choice "invalid" invalidKinds "abort" fun invalid => do
      let unit (key : String) : Except Bytes Nat := match g.value? key with
        | none => .ok 1
        | some text =>
          match unitSize? text with
          | some n => .ok n
          | none => .error ("invalid unit size: ".toList ++ inSingleQuotes text)
      let padding : Except Bytes Int := match g.value? "padding" with
        | none => .ok 0
        | some text =>
          match (integer? text).filter (· ≠ 0) with
          | some n => .ok n
          | none => .error ("invalid padding value ".toList ++ inSingleQuotes text)
      let header : Except Bytes Nat := match g.value? "header" with
        | none => .ok 0
        | some [] => .ok 1
        | some text =>
          match (digitsValue? text).filter (0 < ·) with
          | some n => .ok n
          | none => .error ("invalid header value ".toList ++ inSingleQuotes text)
      let format : Except Bytes FigureFormat := match g.value? "format" with
        | some text => FigureFormat.read text
        | none => .ok ⟨[], [], false, 0, 0, none⟩
      let fields : Except Bytes (Nat → Bool) := match g.value? "field" with
        | none => .ok (· = 1)
        | some ['-'] => .ok fun _ => true
        | some text => (Span.listed Span.fieldWording text).map fun spans n =>
          spans.any fun s => s.first ≤ n && s.last.all (n ≤ ·)
      if (g.values "d").any fun d => d.length ≠ 1 then
        return ← c.fail 1 "the delimiter must be a single character".toList
      match fields with
      | .error text => c.misused 1 text
      | .ok fields =>
      match unit "from-unit", unit "to-unit", padding, header, format with
      | .error text, _, _, _, _ | _, .error text, _, _, _ | _, _, .error text, _, _
      | _, _, _, .error text, _ | _, _, _, _, .error text => c.fail 1 text
      | .ok fromUnit, .ok toUnit, .ok padding, .ok skipped, .ok format => do
        if g.has "format" && g.has "grouping" then
          return ← c.fail 1 "--grouping cannot be combined with --format".toList
        if target ≠ "none" && (g.has "grouping" || format.isGrouped) then
          return ← c.fail 1 "grouping cannot be combined with --to".toList
        let style : FigureStyle := ⟨.named target, .named side, format.precision, format.zeroWidth,
          (g.value? "suffix").getD []⟩
        let job : FigureJob :=
          { style, source := .named source, factor := (fromUnit : Rat) / (toUnit : Rat)
            delimiter := (g.value? "d").bind List.head?, fields
            width := if format.width = 0 then padding else format.width
            before := format.before, after := format.after, invalid }
        let mark : Bytes := if g.has "z" then ['\x00'] else ['\n']
        let status (isValid : Bool) : Nat := if isValid || invalid = "warn" || invalid = "ignore" then 0 else 2
        if g.operands ≠ [] then
          let mut isValid := true
          for text in g.operands do
            match ← job.line c text mark with
            | none => return 2
            | some b => isValid := isValid && b
          return status isValid
        let content := (← Call.contentOf ['-']).toOption.getD []
        let lines := endedBy (mark.headD '\n') content
        print (lines.take skipped).flatten
        let mut isValid := true
        for line in lines.drop skipped do
          let text := withoutMark (mark.headD '\n') line
          match ← job.line c text (line.drop text.length) with
          | none => return 2
          | some b => isValid := isValid && b
        return status isValid

end TokenConformance.Sandbox.Shell.Tool
