import TokenConformance.Sandbox.Shell.Tool.Basic
import TokenConformance.Sandbox.Shell.Printing

/-! # Programs that write their arguments

* `echo`, `yes`: write their arguments, once or for ever.
* `Printout`: how far a format has been written; `Printout.run` writes it.
* `printf`: writes its arguments in a format.
-/

namespace TokenConformance.Sandbox.Shell.Tool

open Sandbox.Text (Bytes Binary Numeral isHexDigit)

/-! ## Arguments as they are -/

/-- The value of hexadecimal digits. -/
def hexValue (digits : Bytes) : Nat := Numeral.valueIn 16 digits

/-- A text with its escapes replaced, and whether more may be written after it. The number bounds its
length. -/
def echoEscapes : Nat → Bytes → Bytes × Bool
  | 0, _ => ([], true)
  | _, [] => ([], true)
  | _, '\\' :: 'c' :: _ => ([], false)
  | n + 1, '\\' :: 'x' :: rest =>
    let digits := (rest.take 2).takeWhile isHexDigit
    let (text, more) := echoEscapes n (rest.drop digits.length)
    if digits = [] then ('\\' :: 'x' :: text, more) else (Char.ofNat (hexValue digits) :: text, more)
  | n + 1, '\\' :: c :: rest =>
    if isOctal c then
      let start := if c = '0' && (rest.head?.map isOctal).getD false then rest else c :: rest
      let (found, rest) := octalByte start
      let (text, more) := echoEscapes n rest
      (found :: text, more)
    else
      let (text, more) := echoEscapes n rest
      match escapeLetter? c with
      | some found => (found :: text, more)
      | none => ('\\' :: c :: text, more)
  | n + 1, c :: rest =>
    let (text, more) := echoEscapes n rest
    (c :: text, more)

/-- Writes its arguments. -/
def echo : Tool := fun c => do
  let isOption (a : Bytes) : Bool := match a with
    | '-' :: c :: cs => (c :: cs).all fun c => c ∈ ['n', 'e', 'E']
    | _ => false
  match c.arguments with
  | [a] =>
    if a = "--help".toList || a = "--version".toList then
      return ← c.withOptions [] fun _ => pure 0
  | _ => pure ()
  let options := c.arguments.takeWhile isOption
  let letters := options.flatten
  let isEscaped := (letters.reverse.find? fun c => c = 'e' || c = 'E') = some 'e'
  let text := Bytes.joined [' '] (c.arguments.drop options.length)
  let (text, more) := if isEscaped then echoEscapes (text.length + 1) text else (text, true)
  print (if 'n' ∈ letters || !more then text else text ++ ['\n'])
  return 0

/-- How often `yes` writes its arguments at most before someone must have stopped reading. -/
def mostRepeats : Nat := 5000

/-- Writes its arguments for ever. -/
def yes : Tool := fun c => c.withOptionsUpTo true 1 [] fun g => do
  let line := Bytes.joined [' '] (if g.operands = [] then [['y']] else g.operands) ++ ['\n']
  let block := (List.replicate (1024 / line.length + 1) line).flatten
  for _ in List.range mostRepeats do
    printDirectly block
    pauseFor 1
  throw .brokenPipe

/-! ## Formats -/

/-- How far a format has been written. -/
structure Printout where
  arguments : List Bytes
  written : Bytes
  /-- The messages, each with whether it counts as a fault, the last one first. -/
  messages : List (Bytes × Bool)
  /-- Whether nothing more is written. -/
  isOver : Bool
deriving Inhabited

namespace Printout

/-- The printout with more text. -/
def add (l : Printout) (text : Bytes) : Printout := { l with written := text.reverseAux l.written }

/-- The printout with a message. -/
def note (l : Printout) (message : Bytes) (isFault : Bool) : Printout :=
  { l with messages := (message, isFault) :: l.messages }

/-- The printout at a fault that ends it. -/
def stop (l : Printout) (message : Bytes) : Printout := { l.note message true with isOver := true }

/-- The next argument, and the printout after it. -/
def next (l : Printout) : Bytes × Printout :=
  (l.arguments.headD [], { l with arguments := l.arguments.drop 1 })

/-- The printout after an argument has been read as a number up to some rest. -/
def checked (l : Printout) (text rest : Bytes) (isBeyond : Bool) : Printout :=
  if isBeyond then l.note (inSingleQuotes text ++ ": Numerical result out of range".toList) true
  else if rest = [] then l
  else if rest.length = text.length then
    l.note (inSingleQuotes text ++ ": expected a numeric value".toList) true
  else l.note (inSingleQuotes text ++ ": value not completely converted".toList) true

/-- The number of the character that an argument gives after a quotation mark, if it does. -/
def characterNumber? (text : Bytes) (l : Printout) : Option (Nat × Printout) :=
  match text with
  | mark :: c :: rest =>
    if mark = '"' || mark = '\'' then
      let l := if rest = [] then l
        else l.note ("warning: ".toList ++ rest ++
          ": character(s) following character constant have been ignored".toList) false
      some (c.toNat, l)
    else none
  | _ => none

/-- The next argument as a whole number. -/
def nextInteger (l : Printout) (isSigned : Bool) : Int × Printout :=
  let (text, l) := l.next
  match characterNumber? text l with
  | some (n, l) => (n, l)
  | none =>
    let start := text.dropWhile Text.isSpace
    let (isNegative, digits) : Bool × Bytes := match start with
      | '-' :: rest => (true, rest)
      | '+' :: rest => (false, rest)
      | _ => (false, start)
    if !(digits.head?.map Char.isDigit).getD false then (0, l.checked text text false)
    else
      let (n, rest) := unsignedNumber digits
      let n : Int := if isNegative then -(n : Int) else n
      let most : Int := if isSigned then largest else 18446744073709551615
      let least : Int := if isSigned then -largest - 1 else -18446744073709551615
      let value := max least (min most n)
      (value, l.checked text rest (value ≠ n))

/-- The next argument as a number with a point. -/
def nextReal (l : Printout) : Binary × Printout :=
  let (text, l) := l.next
  match characterNumber? text l with
  | some (n, l) => (.finite false n 0, l)
  | none =>
    match Numeral.read? text with
    | none => (.finite false 0 0, l.checked text text false)
    | some (n, rest) => (n.toBinary .extended, l.checked text rest false)

/-- The byte or character that an escape stands for, which starts after its backslash, and what
follows it. A text instead is a fault. -/
def escape (cs : Bytes) (isArgument : Bool) : Except String (Bytes × Bytes) :=
  match cs with
  | [] => .ok (['\\'], [])
  | 'x' :: rest =>
    let digits := (rest.take 2).takeWhile isHexDigit
    if digits = [] then .error "missing hexadecimal number in escape"
    else .ok ([Char.ofNat (hexValue digits)], rest.drop digits.length)
  | '"' :: rest => .ok (['"'], rest)
  | c :: rest =>
    if isOctal c then
      let start := if isArgument && c = '0' && (rest.head?.map isOctal).getD false then rest
        else c :: rest
      let (found, rest) := octalByte start
      .ok ([found], rest)
    else if c = 'u' || c = 'U' then
      let count := if c = 'u' then 4 else 8
      let digits := (rest.take count).takeWhile isHexDigit
      if digits.length < count then .error "missing hexadecimal number in escape"
      else
        let n := hexValue digits
        if n < 128 then .ok ([Char.ofNat n], rest.drop count)
        else
          let width := if n < 65536 then 4 else 8
          let shown := Binary.padDigits width ((Nat.toDigits 16 n).map Char.toUpper)
          .ok ('\\' :: (if width = 4 then 'u' else 'U') :: shown, rest.drop count)
    else
      match escapeLetter? c with
      | some found => .ok ([found], rest)
      | none => .ok (['\\', c], rest)

/-- The printout after an argument whose escapes are replaced. The number bounds its length. -/
def addEscaped : Nat → Bytes → Printout → Printout
  | 0, _, l => l
  | _, [], l => l
  | _, '\\' :: 'c' :: _, l => { l with isOver := true }
  | n + 1, '\\' :: rest, l =>
    match escape rest true with
    | .ok (text, rest) => addEscaped n rest (l.add text)
    | .error e => l.stop e.toList
  | n + 1, c :: rest, l => addEscaped n rest (l.add [c])

/-- A width or a precision, which an argument may give, and what follows it. -/
def fieldSize (cs : Bytes) (l : Printout) : Option Int × Bytes × Printout :=
  match cs with
  | '*' :: rest =>
    let (n, l) := l.nextInteger true
    (some n, rest, l)
  | _ =>
    let digits := cs.takeWhile Char.isDigit
    (if digits = [] then none else some (digitsValue digits), cs.drop digits.length, l)

/-- Writes a directive, which stands after its percent sign. What follows it is left. -/
def directive (cs : Bytes) (l : Printout) : Bytes × Printout :=
  let flags := cs.takeWhile fun c => c ∈ "#-+ 0'I".toList
  let (width, rest, l) := fieldSize (cs.drop flags.length) l
  let (precision, rest, l) : Option Nat × Bytes × Printout := match rest with
    | '.' :: rest =>
      let (n, rest, l) := fieldSize rest l
      (if n.getD 0 < 0 then none else some (n.getD 0).toNat, rest, l)
    | _ => (none, rest, l)
  let sizes := rest.takeWhile fun c => c ∈ "hjlLtz".toList
  let rest := rest.drop sizes.length
  let flags := if width.getD 0 < 0 then '-' :: flags else flags
  let d : Directive := ⟨flags, (width.getD 0).natAbs, precision⟩
  let invalid : Bytes × Printout :=
    let shown := cs.take (cs.length - rest.length + 1)
    ([], l.stop ('%' :: shown ++ ": invalid conversion specification".toList))
  let cut (text : Bytes) : Bytes := match precision with
    | some n => text.take n
    | none => text
  match rest with
  | [] => invalid
  | c :: rest =>
    match c with
    | 's' =>
      let (text, l) := l.next
      (rest, l.add (d.pad (cut text)))
    | 'c' =>
      let (text, l) := l.next
      (rest, l.add (d.pad [text.headD '\x00']))
    | 'd' | 'i' =>
      let (n, l) := l.nextInteger true
      (rest, l.add (d.signed n))
    | 'u' | 'o' | 'x' | 'X' =>
      let (n, l) := l.nextInteger false
      (rest, l.add (d.unsigned c n))
    | 'q' =>
      if rest.length + 2 = cs.length + 1 then
        let (text, l) := l.next
        (rest, l.add (named text))
      else invalid
    | 'b' =>
      if rest.length + 1 = cs.length then
        let (text, l) := l.next
        (rest, addEscaped (text.length + 1) text l)
      else invalid
    | c =>
      if c ∈ "eEfFgG".toList then
        let (b, l) := l.nextReal
        (rest, l.add (d.floating c b))
      else invalid

/-- Writes a format once. The number bounds its length. -/
def once : Nat → Bytes → Printout → Printout
  | 0, _, l => l
  | _, [], l => l
  | n + 1, '%' :: '%' :: rest, l => once n rest (l.add ['%'])
  | n + 1, '%' :: rest, l =>
    let (rest, l) := directive rest l
    if l.isOver then l else once n rest l
  | _, '\\' :: 'c' :: _, l => { l with isOver := true }
  | n + 1, '\\' :: rest, l =>
    match escape rest false with
    | .ok (text, rest) => once n rest (l.add text)
    | .error e => l.stop e.toList
  | n + 1, c :: rest, l => once n rest (l.add [c])

/-- Writes a format as often as it takes arguments. The number bounds how often that is. -/
def run (format : Bytes) : Nat → Printout → Printout
  | 0, l => l
  | n + 1, l =>
    let after := once (format.length + 1) format l
    if after.isOver || after.arguments = [] || after.arguments.length = l.arguments.length then
      after
    else run format n after

end Printout

/-- Writes its arguments in a format. -/
def printf : Tool := fun c => do
  let isPlain := c.arguments ≠ ["--help".toList] && c.arguments ≠ ["--version".toList]
  if !isPlain then return ← c.withOptions [] fun _ => pure 0
  let arguments := if c.arguments.head? = some ['-', '-'] then c.arguments.drop 1 else c.arguments
  match arguments with
  | [] => c.misused 1 "missing operand".toList
  | format :: rest =>
    let l := Printout.run format (rest.length + 1) ⟨rest, [], [], false⟩
    for (message, _) in l.messages.reverse do
      c.say message
    print l.written.reverse
    if !l.isOver then
      match l.arguments with
      | [] => pure ()
      | extra :: _ =>
        c.say ("warning: ignoring excess arguments, starting with ".toList ++
          inSingleQuotes extra)
    return if l.messages.any (·.2) then 1 else 0

end TokenConformance.Sandbox.Shell.Tool
