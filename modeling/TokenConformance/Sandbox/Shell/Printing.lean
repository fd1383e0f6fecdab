import TokenConformance.Sandbox.Shell.Arithmetic
import TokenConformance.Sandbox.Text.Binary

/-! # Printed text

* `escape?`: what stands after a backslash.
* `unescaped`: a text with its escapes replaced, as `echo` prints it.
* `Directive`, `Directive.format`: the directives of a format.
* `printFormat`, `printAll`: a format with its arguments, which is used again while there are more.
-/

namespace TokenConformance.Sandbox.Shell

open Sandbox.Text (Bytes Binary Numeral)

/-! ## Escapes -/

/-- Whether a character is an octal digit. -/
def isOctal (c : Char) : Bool := '0' ≤ c && c ≤ '7'

/-- The byte that up to three octal digits stand for, and what follows them. -/
def octalByte (cs : Bytes) : Char × Bytes :=
  let digits := (cs.take 3).takeWhile isOctal
  (Char.ofNat ((digitsIn 8 digits).1 % 256), cs.drop digits.length)

/-- The byte that a letter stands for after a backslash. -/
def escapeLetter? : Char → Option Char
  | '\\' => some '\\'
  | 'a' => some '\x07'
  | 'b' => some '\x08'
  | 'e' => some '\x1B'
  | 'f' => some '\x0C'
  | 'n' => some '\n'
  | 'r' => some '\r'
  | 't' => some '\t'
  | 'v' => some '\x0B'
  | _ => none

/-- The byte that the text after a backslash stands for, and what follows it. -/
def escape? : Bytes → Option (Char × Bytes)
  | [] => none
  | c :: rest =>
    if isOctal c then some (octalByte (c :: rest)) else (escapeLetter? c).map (·, rest)

/-- A text with its escapes replaced, and whether more may be printed after it. The number bounds
its length. -/
def unescaped : Nat → Bytes → Bytes × Bool
  | 0, _ => ([], true)
  | _, [] => ([], true)
  | _, '\\' :: 'c' :: _ => ([], false)
  | n + 1, '\\' :: rest =>
    let start := match rest with
      | '0' :: digits => if (digits.head?.map isOctal).getD false then digits else rest
      | _ => rest
    match escape? start with
    | some (c, rest) =>
      let (text, more) := unescaped n rest
      (c :: text, more)
    | none =>
      let (text, more) := unescaped n rest
      ('\\' :: text, more)
  | n + 1, c :: rest =>
    let (text, more) := unescaped n rest
    (c :: text, more)

/-- What `echo` prints. -/
def echoed (arguments : List Bytes) : Bytes :=
  let (newLine, arguments) :=
    match arguments with
    | ['-', 'n'] :: rest => (false, rest)
    | _ => (true, arguments)
  let text := Bytes.joined [' '] arguments
  let (text, more) := unescaped text.length text
  if newLine && more then text ++ ['\n'] else text

/-! ## Directives -/

/-- A directive of a format. -/
structure Directive where
  flags : Bytes
  width : Nat
  precision : Option Nat
deriving DecidableEq, Inhabited

/-- A text that is filled up with blanks. -/
def Directive.pad (d : Directive) (text : Bytes) : Bytes :=
  let blanks := List.replicate (d.width - text.length) ' '
  if '-' ∈ d.flags then text ++ blanks else blanks ++ text

/-- A number that is filled up with zeros or blanks. -/
def Directive.padNumber (d : Directive) (before digits : Bytes) : Bytes :=
  let digits := List.replicate (d.precision.getD 1 - digits.length) '0' ++ digits
  if '0' ∈ d.flags && '-' ∉ d.flags && d.precision.isNone then
    before ++ List.replicate (d.width - before.length - digits.length) '0' ++ digits
  else d.pad (before ++ digits)

/-- The digits of a number; zero has none. -/
def digitsOf (base n : Nat) : Bytes := if n = 0 then [] else Nat.toDigits base n

/-- A signed number. -/
def Directive.signed (d : Directive) (n : Int) : Bytes :=
  let sign : Bytes :=
    if n < 0 then ['-'] else if '+' ∈ d.flags then ['+'] else if ' ' ∈ d.flags then [' '] else []
  d.padNumber sign (digitsOf 10 n.natAbs)

/-- A number without a sign. -/
def Directive.unsigned (d : Directive) (conversion : Char) (n : Int) : Bytes :=
  let n := (n % 18446744073709551616).toNat
  let isMarked := '#' ∈ d.flags && n ≠ 0
  match conversion with
  | 'o' =>
    let digits := digitsOf 8 n
    let isZeroed := '#' ∈ d.flags && d.precision.getD 1 ≤ digits.length
    d.padNumber [] (if isZeroed then '0' :: digits else digits)
  | 'x' => d.padNumber (if isMarked then "0x".toList else []) (digitsOf 16 n)
  | 'X' => d.padNumber (if isMarked then "0X".toList else []) ((digitsOf 16 n).map Char.toUpper)
  | _ => d.padNumber [] (digitsOf 10 n)

/-- A number with a point. -/
def Directive.floating (d : Directive) (conversion : Char) (b : Binary) : Bytes :=
  let sign : Bytes :=
    if b.isNegative then ['-'] else if '+' ∈ d.flags then ['+'] else if ' ' ∈ d.flags then [' ']
    else []
  let text := b.magnitude conversion d.precision ('#' ∈ d.flags)
  let isFinite : Bool := match b with
    | .finite .. => true
    | _ => false
  if isFinite && '0' ∈ d.flags && '-' ∉ d.flags then
    sign ++ List.replicate (d.width - sign.length - text.length) '0' ++ text
  else d.pad (sign ++ text)

/-! ## Formats -/

/-- What has been printed. -/
structure Printed where
  /-- The output with its last byte first. -/
  written : Bytes
  arguments : List Bytes
  messages : List Bytes
  status : Nat
  /-- Whether nothing more is printed. -/
  isOver : Bool
deriving Inhabited

/-- The next argument, and what is left. -/
def Printed.next (p : Printed) : Bytes × Printed :=
  (p.arguments.head?.getD [], { p with arguments := p.arguments.tail })

/-- The printed text with more after it. -/
def Printed.add (p : Printed) (text : Bytes) : Printed :=
  { p with written := text.reverseAux p.written }

/-- The printed text with a message about a number. -/
def Printed.fault (p : Printed) (message : Bytes) : Printed :=
  { p with messages := p.messages ++ [message], status := 1 }

/-- The printed text at a fault that ends it. -/
def Printed.finish (p : Printed) (message : Bytes) : Printed :=
  { p with messages := p.messages ++ [message], status := 2, isOver := true }

/-- The next argument as a number. -/
def Printed.nextNumber (p : Printed) : Int × Printed :=
  let (text, p) := p.next
  match text with
  | [] => (0, p)
  | '\'' :: rest => (((rest.head?.map Char.toNat).getD 0 : Nat), p)
  | '"' :: rest => (((rest.head?.map Char.toNat).getD 0 : Nat), p)
  | _ =>
    let start := text.dropWhile fun c => c = ' ' || (9 ≤ c.toNat && c.toNat ≤ 13)
    let (isNegative, digits) :=
      match start with
      | '-' :: rest => (true, rest)
      | '+' :: rest => (false, rest)
      | _ => (false, start)
    if (digits.head?.map Char.isDigit).getD false then
      let (n, rest) := unsignedNumber digits
      let n : Int := if isNegative then -(n : Int) else n
      let value := clamped n
      let p := if value ≠ n then p.fault (text ++ ": Numerical result out of range".toList) else p
      (value, if rest = [] then p else p.fault (text ++ ": not completely converted".toList))
    else (0, p.fault (text ++ ": expected numeric value".toList))

/-- The next argument as a number with a point. -/
def Printed.nextReal (p : Printed) : Binary × Printed :=
  let (text, p) := p.next
  match text with
  | [] => (.finite false 0 0, p)
  | mark :: rest =>
    if mark = '\'' || mark = '"' then
      (.finite false ((rest.head?.map Char.toNat).getD 0) 0, p)
    else
      match Numeral.read? text with
      | none => (.finite false 0 0, p.fault (text ++ ": expected numeric value".toList))
      | some (n, rest) =>
        let b := n.toBinary .double
        let p := if rest ≠ [] then p.fault (text ++ ": not completely converted".toList)
          else if n.isBeyond b then p.fault (text ++ ": Numerical result out of range".toList)
          else p
        (b, p)

/-- Reads a number in a directive, which an argument may give. -/
def fieldNumber (cs : Bytes) (p : Printed) : Option Int × Bytes × Printed :=
  match cs with
  | '*' :: rest =>
    let (n, p) := p.nextNumber
    (some n, rest, p)
  | _ =>
    let digits := cs.takeWhile Char.isDigit
    (if digits = [] then none else some (digitsValue digits), cs.drop digits.length, p)

/-- Prints a directive, which stands after its percent sign. What follows it is left. -/
def printDirective (cs : Bytes) (p : Printed) : Bytes × Printed :=
  let isFlag (c : Char) : Bool := c ∈ ['#', '-', '+', ' ', '0']
  let flags := cs.takeWhile isFlag
  let (width, rest, p) := fieldNumber (cs.dropWhile isFlag) p
  let (precision, rest, p) : Option Nat × Bytes × Printed :=
    match rest with
    | '.' :: rest =>
      let (precision, rest, p) := fieldNumber rest p
      (some (precision.getD 0).toNat, rest, p)
    | _ => (none, rest, p)
  let flags := if width.getD 0 < 0 then '-' :: flags else flags
  let d : Directive := ⟨flags, (width.getD 0).natAbs, precision⟩
  let cut (text : Bytes) : Bytes := match precision with
    | some n => text.take n
    | none => text
  match rest with
  | [] => ([], p.finish "missing format character".toList)
  | c :: rest =>
    if c = 's' then
      let (text, p) := p.next
      (rest, p.add (d.pad (cut text)))
    else if c = 'b' then
      let (text, p) := p.next
      let (text, more) := unescaped text.length text
      (rest, { p.add (d.pad (cut text)) with isOver := !more })
    else if c = 'c' then
      let (text, p) := p.next
      (rest, p.add (d.pad [text.head?.getD '\x00']))
    else if c = 'd' || c = 'i' then
      let (n, p) := p.nextNumber
      (rest, p.add (d.signed n))
    else if c ∈ ['u', 'o', 'x', 'X'] then
      let (n, p) := p.nextNumber
      (rest, p.add (d.unsigned c n))
    else if c ∈ "eEfFgG".toList then
      let (b, p) := p.nextReal
      (rest, p.add (d.floating c b))
    else
      let directive := cs.take (cs.length - rest.length)
      ([], p.finish ('%' :: directive ++ ": invalid directive".toList))

/-- Prints a format. The number bounds its length. -/
def printFormat : Nat → Bytes → Printed → Printed
  | 0, _, p => p
  | _, [], p => p
  | n + 1, '%' :: '%' :: rest, p => printFormat n rest (p.add ['%'])
  | n + 1, '%' :: rest, p =>
    let (rest, p) := printDirective rest p
    if p.isOver then p else printFormat n rest p
  | n + 1, '\\' :: rest, p =>
    match escape? rest with
    | some (c, rest) => printFormat n rest (p.add [c])
    | none => printFormat n rest (p.add ['\\'])
  | n + 1, cs, p =>
    let isPlain (c : Char) : Bool := c ≠ '%' && c ≠ '\\'
    printFormat n (cs.dropWhile isPlain) (p.add (cs.takeWhile isPlain))

/-- Prints a format as often as it takes arguments. The number bounds how often that is. -/
def printAll (format : Bytes) : Nat → Printed → Printed
  | 0, p => p
  | n + 1, p =>
    let after := printFormat format.length format p
    let isUnused := after.arguments.length = p.arguments.length
    if after.isOver || after.arguments = [] || isUnused then after
    else printAll format n after

end TokenConformance.Sandbox.Shell
