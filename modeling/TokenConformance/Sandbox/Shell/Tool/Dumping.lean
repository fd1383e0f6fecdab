import TokenConformance.Sandbox.Shell.Tool.Amounts
import TokenConformance.Sandbox.Shell.Tool.Basic
import TokenConformance.Sandbox.Text.Binary

/-! # The program that shows bytes as numbers

* `Datum`: how bytes are shown; `Datum.ofText` reads such ways.
* `Dump`: what is shown of the bytes.
* `Dump.lines`: the lines that are shown.
* `od`: shows the bytes of files.
-/

namespace TokenConformance.Sandbox.Shell.Tool

open Sandbox.Text (Bytes Binary Numeral)

/-- What bytes are shown as. -/
inductive DatumKind where
  | name
  | character
  | signed
  | unsigned
  | octal
  | hexadecimal
  | real
deriving DecidableEq, Inhabited

/-- How bytes are shown. -/
structure Datum where
  kind : DatumKind
  /-- How many bytes belong together. -/
  size : Nat
  /-- Whether the characters are shown after the numbers. -/
  hasTrailer : Bool
deriving DecidableEq, Inhabited

namespace Datum

/-- The names of the bytes that are not shown as they are. -/
def byteNames : List String :=
  ["nul", "soh", "stx", "etx", "eot", "enq", "ack", "bel", "bs", "ht", "nl", "vt", "ff", "cr", "so",
    "si", "dle", "dc1", "dc2", "dc3", "dc4", "nak", "syn", "etb", "can", "em", "sub", "esc", "fs",
    "gs", "rs", "us", "sp"]

/-- A byte as a name, which does not tell its highest bit. -/
def nameOf (c : Char) : Bytes :=
  let n := c.toNat % 128
  if n = 127 then "del".toList
  else ((byteNames[n]?).map String.toList).getD [Char.ofNat n]

/-- A byte as a character. -/
def characterOf (c : Char) : Bytes :=
  match c with
  | '\x00' => "\\0".toList
  | '\x07' => "\\a".toList
  | '\x08' => "\\b".toList
  | '\t' => "\\t".toList
  | '\n' => "\\n".toList
  | '\x0b' => "\\v".toList
  | '\x0c' => "\\f".toList
  | '\r' => "\\r".toList
  | c =>
    if 32 ≤ c.toNat && c.toNat < 127 then [c] else Binary.padDigits 3 (Nat.toDigits 8 c.toNat)

/-- How many places a number with so many bytes has at most. -/
def width (d : Datum) : Nat :=
  match d.kind with
  | .name | .character => 3
  | .octal => (8 * d.size + 2) / 3
  | .hexadecimal => 2 * d.size
  | .unsigned => (Nat.toDigits 10 (Nat.pow 256 d.size - 1)).length
  | .signed => (Nat.toDigits 10 (Nat.pow 256 d.size / 2)).length + 1
  | .real => if d.size = 4 then 15 else 24

/-- A text of a number that is read as the same number, with as few digits as possible but at least
some. The number bounds how many digits are tried. -/
def realText (f : Binary.Format) (b : Binary) : Nat → Nat → Bytes
  | 0, digits => b.magnitude 'g' (some digits) false
  | n + 1, digits =>
    let text := b.magnitude 'g' (some digits) false
    let again := (Numeral.read? text).map fun (m, _) => m.toBinary f
    let isSame (c : Binary) : Bool := c.ratio = b.ratio
    if again.any isSame then text else realText f b n (digits + 1)

/-- The number that bits stand for, of which some are for the fraction. -/
def realOf (f : Binary.Format) (size n : Nat) : Binary :=
  let fractionBits := f.precision - 1
  let fraction := n % Nat.pow 2 fractionBits
  let exponentBits := size * 8 - 1 - fractionBits
  let exponent := n / Nat.pow 2 fractionBits % Nat.pow 2 exponentBits
  let isNegative := Nat.pow 2 (size * 8 - 1) ≤ n
  if exponent = Nat.pow 2 exponentBits - 1 then
    if fraction = 0 then .infinite isNegative else .unordered isNegative
  else if exponent = 0 then .finite isNegative fraction f.least
  else .finite isNegative (Nat.pow 2 fractionBits + fraction) (f.least + exponent - 1)

/-- The number of 32 bits. -/
def single : Binary.Format := ⟨24, -149, 104⟩

/-- Bytes that belong together. The first one of a number is its lowest one, unless it is the highest
one. -/
def shown (d : Datum) (isBig : Bool) (bytes : Bytes) : Bytes :=
  let ordered := if isBig then bytes else bytes.reverse
  let n : Nat := ordered.foldl (fun n c => n * 256 + c.toNat) 0
  match d.kind with
  | .name => nameOf (bytes.headD '\x00')
  | .character => characterOf (bytes.headD '\x00')
  | .octal => Binary.padDigits d.width (Nat.toDigits 8 n)
  | .hexadecimal => Binary.padDigits d.width (Nat.toDigits 16 n)
  | .unsigned => Nat.toDigits 10 n
  | .signed => Bytes.ofInt (if n < Nat.pow 256 d.size / 2 then n else (n : Int) - Nat.pow 256 d.size)
  | .real =>
    let f := if d.size = 4 then single else Binary.Format.double
    let b := realOf f d.size n
    let isTiny : Bool := match b with
      | .finite _ m _ => m < Nat.pow 2 (f.precision - 1)
      | _ => false
    let start := if isTiny then 1 else if d.size = 4 then 6 else 15
    (if b.isNegative then ['-'] else []) ++ realText f b 17 start

/-- The ways to show bytes that a text names. The number bounds its length. -/
def ofText (whole : Bytes) : Nat → Bytes → Except Bytes (List Datum)
  | 0, _ => .ok []
  | _, [] => .ok []
  | n + 1, c :: rest => do
    let sizeLetters : List (Char × Nat) :=
      if c = 'f' then [('F', 4), ('D', 8), ('L', 8)] else [('C', 1), ('S', 2), ('I', 4), ('L', 8)]
    let standard := if c = 'f' then 8 else if c = 'a' || c = 'c' then 1 else 4
    let (size, rest) ← match c, rest with
      | 'a', _ | 'c', _ => pure (1, rest)
      | _, l :: after =>
        match sizeLetters.lookup l with
        | some size => pure (size, after)
        | none =>
          let digits := rest.takeWhile Char.isDigit
          if digits = [] then pure (standard, rest)
          else
            let size := digitsValue digits
            let known : List Nat := if c = 'f' then [4, 8] else [1, 2, 4, 8]
            if size ∈ known then pure (size, rest.drop digits.length)
            else
              throw (filled "invalid type string %;\nthis system doesn't provide a %-byte % type"
                [inSingleQuotes whole, Bytes.ofInt size,
                  (if c = 'f' then "floating point" else "integral").toList])
      | _, [] => pure (standard, rest)
    let kind : DatumKind ← match c with
      | 'a' => pure .name
      | 'c' => pure .character
      | 'd' => pure .signed
      | 'u' => pure .unsigned
      | 'o' => pure .octal
      | 'x' => pure .hexadecimal
      | 'f' => pure .real
      | c => throw (filled "invalid character '%' in type string %" [[c], inSingleQuotes whole])
    let (hasTrailer, rest) := match rest with
      | 'z' :: rest => (true, rest)
      | _ => (false, rest)
    return ⟨kind, size, hasTrailer⟩ :: (← ofText whole n rest)

/-- The way to show bytes that an option with a letter names. -/
def ofLetter? : String → Option Datum
  | "a" => some ⟨.name, 1, false⟩
  | "b" => some ⟨.octal, 1, false⟩
  | "c" => some ⟨.character, 1, false⟩
  | "d" => some ⟨.unsigned, 2, false⟩
  | "D" => some ⟨.unsigned, 4, false⟩
  | "e" | "F" => some ⟨.real, 8, false⟩
  | "f" => some ⟨.real, 4, false⟩
  | "h" | "x" => some ⟨.hexadecimal, 2, false⟩
  | "H" | "X" => some ⟨.hexadecimal, 4, false⟩
  | "i" => some ⟨.signed, 4, false⟩
  | "I" | "l" | "L" => some ⟨.signed, 8, false⟩
  | "o" | "B" => some ⟨.octal, 2, false⟩
  | "O" => some ⟨.octal, 4, false⟩
  | "s" => some ⟨.signed, 2, false⟩
  | _ => none

end Datum

/-- What is shown of bytes. -/
structure Dump where
  data : List Datum
  /-- The base of addresses, if there are some. -/
  base : Option Nat
  /-- How many bytes are shown in one line. -/
  perLine : Nat
  /-- Whether lines that come again are shown as one star. -/
  isShort : Bool
  /-- Whether the first byte of a number is its highest one. -/
  isBig : Bool

namespace Dump

/-- How many digits an address has at least. -/
def addressWidth (d : Dump) : Nat :=
  match d.base with
  | some 16 => 6
  | some _ => 7
  | none => 0

/-- An address. -/
def address (d : Dump) (n : Nat) : Bytes :=
  match d.base with
  | some base => Binary.padDigits d.addressWidth (Nat.toDigits base n)
  | none => []

/-- How wide the numbers of a line are with the blanks before them. -/
def lineWidth (d : Dump) : Nat :=
  (d.data.map fun k => (k.width + 1) * (d.perLine / k.size)).foldl max 0

/-- The numbers of a line. The number is that of the fields that are left; the blanks between them are
spread evenly. -/
def fields (d : Dump) (k : Datum) (count pad : Nat) : Nat → Nat → Bytes → Bytes
  | 0, _, _ => []
  | _, _, [] => []
  | i + 1, left, bytes =>
    let next := pad * i / count
    padded (left - next + k.width) (k.shown d.isBig (bytes.take k.size)) ++
      fields d k count pad i next (bytes.drop k.size)

/-- A line of bytes in one way. -/
def row (d : Dump) (k : Datum) (bytes : Bytes) : Bytes :=
  let count := d.perLine / k.size
  let pad := d.lineWidth - k.width * count
  let filled := bytes ++ List.replicate ((k.size - bytes.length % k.size) % k.size) '\x00'
  let trailer : Bytes :=
    if !k.hasTrailer then []
    else
      let missing := (d.perLine - bytes.length) / k.size
      let shown := bytes.map fun c => if 32 ≤ c.toNat && c.toNat < 127 then c else '.'
      List.replicate (missing * k.width + pad * missing / count) ' ' ++ "  >".toList ++ shown ++ ['<']
  d.fields k count pad count pad filled ++ trailer ++ ['\n']

/-- The lines of bytes from an address on, the last one first. `previous` are the bytes of the last
line, and whether they have been shown as a star. The number bounds how many lines there are. -/
def linesFrom (d : Dump) : Nat → Nat → Option (Bytes × Bool) → Bytes → List Bytes → List Bytes
  | 0, _, _, _, done => done
  | _, start, _, [], done => if d.base.isSome then (d.address start ++ ['\n']) :: done else done
  | n + 1, start, previous, bytes, done =>
    let line := bytes.take d.perLine
    let rest := bytes.drop d.perLine
    let isAgain := d.isShort && line.length = d.perLine && previous.any fun p => p.1 = line
    let next := start + line.length
    if isAgain then
      let done := if previous.any (·.2) then done else "*\n".toList :: done
      linesFrom d n next (some (line, true)) rest done
    else
      let text := d.data.zipIdx.flatMap fun (k, i) =>
        (if i = 0 then d.address start else List.replicate d.addressWidth ' ') ++ d.row k line
      linesFrom d n next (some (line, false)) rest (text :: done)

/-- The lines of bytes. -/
def lines (d : Dump) (start : Nat) (bytes : Bytes) : Bytes :=
  (d.linesFrom (bytes.length + 1) start none bytes []).reverse.flatten

/-- The texts among bytes that have at least some length and a zero after them, with their addresses.
The number bounds how many bytes there are. -/
def strings (d : Dump) (least : Nat) : Nat → Nat → Bytes → Bytes
  | 0, _, _ => []
  | _, _, [] => []
  | n + 1, start, bytes =>
    let text := bytes.takeWhile fun c => 32 ≤ c.toNat && c.toNat < 127
    let rest := bytes.drop text.length
    let line : Bytes :=
      if least ≤ text.length && rest.head? = some '\x00' then
        d.address start ++ (if d.base.isSome then [' '] else []) ++ text ++ ['\n']
      else []
    line ++ strings d least n (start + text.length + 1) (rest.drop 1)

end Dump

/-- The options of the program. -/
def dumpForms : List OptionForm :=
  [valued 'A' "address-radix", valued 'j' "skip-bytes", valued 'N' "read-bytes",
    valued 'S' "", longVariant "strings", valued 't' "format", flag 'v' "output-duplicates", variant 'w' "width",
    longValued "endian"] ++ letters "abcdDeFfhHiIlLoBOsxX"

/-- How many bytes an operand says that are skipped. -/
def skipped? (text : Bytes) : Option Nat :=
  let digits := if text.head? = some '+' then text.drop 1 else text
  let isHexadecimal := "0x".toList.isPrefixOf digits || "0X".toList.isPrefixOf digits
  let digits := if isHexadecimal then digits.drop 2 else digits
  let isDigit (c : Char) : Bool :=
    if isHexadecimal then Text.isHexDigit c else '0' ≤ c && c ≤ '7'
  let number := digits.takeWhile isDigit
  let value := number.foldl (fun n c =>
    n * (if isHexadecimal then 16 else 8) +
      (if c.isDigit then c.toNat - 48 else c.toLower.toNat - 87)) 0
  match digits.drop number.length with
  | [] => if number = [] then none else some value
  | ['b'] => if number = [] then none else some (value * 512)
  | ['B'] => if number = [] then none else some (value * 1024)
  | _ => none

/-- The operands that name files, and how many bytes the last operand says that are skipped. -/
def withoutSkipped (operands : List Bytes) : List Bytes × Option Nat :=
  let isNumber (text : Bytes) : Bool := text.head? = some '+'
  match operands with
  | [text] => if isNumber text && (skipped? text).isSome then ([], skipped? text) else ([text], none)
  | [path, text] =>
    let hasDigit := text.head?.any Char.isDigit
    if (isNumber text || hasDigit) && (skipped? text).isSome then ([path], skipped? text)
    else (operands, none)
  | _ => (operands, none)

/-- The options with which no operand says how many bytes are skipped. -/
def exactOptions : List String := ["A", "j", "N", "S", "strings", "t", "v", "w", "endian"]

/-- Shows the bytes of files. -/
def od : Tool := fun c => c.withOptions dumpForms fun g => do
  let base : Option (Option Nat) := match g.value? "A" with
    | none => some (some 8)
    | some ('d' :: _) => some (some 10)
    | some ('o' :: _) => some (some 8)
    | some ('x' :: _) => some (some 16)
    | some ('n' :: _) => some none
    | some _ => none
  match base with
  | none =>
    c.fail 1 (filled "invalid output address radix '%'; it must be one character from [doxn]"
      [((g.value? "A").getD []).take 1])
  | some base =>
    let amount (key : String) : Option (Option Nat) := match g.value? key with
      | none => some none
      | some text => (size? text).map some
    match amount "j", amount "N" with
    | none, _ => c.fail 1 (filled "invalid -j argument %" [inSingleQuotes ((g.value? "j").getD [])])
    | _, none => c.fail 1 (filled "invalid -N argument %" [inSingleQuotes ((g.value? "N").getD [])])
    | some skip, some most =>
      let mut data : List Datum := []
      for (key, value) in g.options do
        if key = "t" then
          match Datum.ofText value (value.length + 1) value with
          | .ok ds => data := data ++ ds
          | .error text => return ← c.fail 1 text
        else data := data ++ (Datum.ofLetter? key).toList
      if data = [] then data := [⟨.octal, 2, false⟩]
      let unit := (data.map (·.size)).foldl max 1
      let asked : Option Nat := (g.value? "w").map fun text =>
        if text = [] then 32 else (size? text).getD 0
      let perLine ← match asked with
        | none => pure (if unit ≤ 16 then 16 / unit * unit else unit)
        | some w =>
          if w % unit = 0 then pure w
          else
            c.say (filled "warning: invalid width %; using % instead" [Bytes.ofInt w, Bytes.ofInt unit])
            pure unit
      if perLine = 0 then throw (.killed 6)
      let isExact := g.options.any fun o => o.1 ∈ exactOptions
      let (paths, operandSkip) := if isExact then (g.operands, none) else withoutSkipped g.operands
      let mut bytes : Bytes := []
      let mut isDone := true
      let mut isOpened := false
      for path in Call.orInput paths do
        match ← Call.contentOf path with
        | .ok content =>
          bytes := bytes ++ content
          isOpened := true
        | .error e =>
          c.say (Call.plainComplaint path e)
          isDone := false
          if e = .isADirectory then isOpened := true
      let skip := skip.getD (operandSkip.getD 0)
      if bytes.length < skip then
        return ← c.fail 1 "cannot skip past end of combined input".toList
      let skipped := bytes.drop skip
      let shown := match most with
        | some n => skipped.take n
        | none => skipped
      let d : Dump := ⟨data, base, perLine, !g.has "v", g.value? "endian" = some "big".toList⟩
      match (g.value? "S").or (g.value? "strings") with
      | some text => print (d.strings ((size? text).getD 3) (shown.length + 1) skip shown)
      | none => if isOpened then print (d.lines skip shown)
      return Call.statusOf isDone

end TokenConformance.Sandbox.Shell.Tool
