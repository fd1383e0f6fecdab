import TokenConformance.Sandbox.Shell.Tool.Amounts
import TokenConformance.Sandbox.Shell.Tool.Basic

/-! # Programs that encode bytes as letters

* `Alphabet`: the letters for groups of bits.
* `Alphabet.encode`, `Alphabet.decode`: bytes as letters, and back.
* `base64`, `base32`, `basenc`: encode and decode files.
-/

namespace TokenConformance.Sandbox.Shell.Tool

open Sandbox.Text (Bytes)

/-- The letters for groups of bits. -/
structure Alphabet where
  letters : Array Char
  /-- How many bits a letter stands for. -/
  width : Nat
  /-- How many letters belong together; there are marks for the last ones that are missing. -/
  size : Nat
  /-- Whether the lowest bits of a byte come first. -/
  isReversed : Bool

namespace Alphabet

/-- The letters of the alphabet, of which the number tells how many there are. -/
def latin (count : Nat) : Bytes := "ABCDEFGHIJKLMNOPQRSTUVWXYZ".toList.take count

/-- The digits. -/
def digits (count : Nat) : Bytes := "0123456789".toList.take count

/-- Groups of six bits. -/
def base64 : Alphabet :=
  ⟨(latin 26 ++ (latin 26).map Char.toLower ++ digits 10 ++ ['+', '/']).toArray, 6, 4, false⟩

/-- Groups of six bits in names. -/
def base64url : Alphabet :=
  ⟨(latin 26 ++ (latin 26).map Char.toLower ++ digits 10 ++ ['-', '_']).toArray, 6, 4, false⟩

/-- Groups of five bits. -/
def base32 : Alphabet := ⟨(latin 26 ++ "234567".toList).toArray, 5, 8, false⟩

/-- Groups of five bits in the order of their values. -/
def base32hex : Alphabet := ⟨(digits 10 ++ latin 22).toArray, 5, 8, false⟩

/-- Groups of four bits. -/
def base16 : Alphabet := ⟨(digits 10 ++ latin 6).toArray, 4, 2, false⟩

/-- Single bits, the highest first. -/
def base2msbf : Alphabet := ⟨(digits 2).toArray, 1, 8, false⟩

/-- Single bits, the lowest first. -/
def base2lsbf : Alphabet := ⟨(digits 2).toArray, 1, 8, true⟩

/-- The bits of a byte, the highest first. -/
def bitsOf (width n : Nat) : List Bool :=
  (List.range width).map fun i => n / Nat.pow 2 (width - 1 - i) % 2 = 1

/-- The number of some bits, the highest first. -/
def ofBits (bits : List Bool) : Nat := bits.foldl (fun n b => 2 * n + (if b then 1 else 0)) 0

/-- Bits in groups, of which the last one is filled up. -/
def groups (width : Nat) : Nat → List Bool → List (List Bool)
  | 0, _ => []
  | _, [] => []
  | n + 1, bits =>
    let group := bits.take width
    (group ++ List.replicate (width - group.length) false) :: groups width n (bits.drop width)

/-- Letters for some bytes, fewer than a whole group or just one. -/
def encodeGroup (a : Alphabet) (bytes : Bytes) : Bytes :=
  let ordered (bits : List Bool) : List Bool := if a.isReversed then bits.reverse else bits
  let bits := bytes.flatMap fun c => ordered (bitsOf 8 c.toNat)
  let text := (groups a.width bits.length bits).map fun g => a.letters.getD (ofBits g) '='
  text ++ List.replicate ((a.size - text.length % a.size) % a.size) '='

/-- How many bytes a group stands for. -/
def groupBytes (a : Alphabet) : Nat := a.size * a.width / 8

/-- Bytes as letters, the last one first. The number bounds how many bytes there are. -/
def encodeFrom (a : Alphabet) : Nat → Bytes → Bytes → Bytes
  | 0, _, done => done
  | _, [], done => done
  | n + 1, bytes, done =>
    encodeFrom a n (bytes.drop a.groupBytes)
      ((a.encodeGroup (bytes.take a.groupBytes)).reverseAux done)

/-- Bytes as letters. -/
def encode (a : Alphabet) (bytes : Bytes) : Bytes :=
  (a.encodeFrom (bytes.length + 1) bytes []).reverse

/-- The bytes of a group of letters, and whether the group is right. -/
def decodeGroup (a : Alphabet) (text : Bytes) : Bytes × Bool :=
  let values := text.map fun c => a.letters.toList.idxOf? c
  let known := (values.takeWhile Option.isSome).filterMap id
  let ordered (bits : List Bool) : List Bool := if a.isReversed then bits.reverse else bits
  let bits := known.flatMap (bitsOf a.width)
  let count := bits.length / 8
  let bytes := (groups 8 count bits).map fun g => Char.ofNat (ofBits (ordered g))
  let isFilled := (text.drop known.length).all (· = '=')
  let isLeast := (count * 8 + a.width - 1) / a.width = known.length
  let isWhole := text.length = a.size
  let isRight := isWhole && isFilled && isLeast && 0 < count
  if !isWhole && a.size ≠ 4 then ([], false) else (bytes, isRight)

/-- The bytes of letters, the last one first, and whether the letters are right. The number bounds how
many there are. -/
def decodeFrom (a : Alphabet) : Nat → Bytes → Bytes → Bytes × Bool
  | 0, _, done => (done, true)
  | _, [], done => (done, true)
  | n + 1, text, done =>
    let (bytes, isRight) := a.decodeGroup (text.take a.size)
    let done := bytes.reverseAux done
    if isRight then decodeFrom a n (text.drop a.size) done else (done, false)

/-- The bytes of letters, and whether the letters are right. Ends of lines are left out, and what is
no letter if that is said. -/
def decode (a : Alphabet) (ignoresOthers : Bool) (text : Bytes) : Bytes × Bool :=
  let isKept (c : Char) : Bool :=
    if ignoresOthers then a.letters.contains c || c = '=' else c ≠ '\n'
  let text := text.filter isKept
  let (done, isRight) := a.decodeFrom (text.length + 1) text []
  (done.reverse, isRight)

end Alphabet

/-- A text in lines of some length, each with an end. The number bounds how long the text is. -/
def wrapped (width : Nat) : Nat → Bytes → Bytes
  | 0, _ => []
  | _, [] => []
  | n + 1, text => text.take width ++ '\n' :: wrapped width n (text.drop width)

/-- Encodes or decodes a file. -/
def transcode (a : Alphabet) (c : Call) (g : Given) : Action Nat := do
  let text := (g.value? "w").getD "76".toList
  match digitsValue? text with
  | none => c.fail 1 ("invalid wrap size: ".toList ++ inQuotes text)
  | some width =>
    c.withAtMost 1 g.operands do
      let path := g.operands.headD ['-']
      let complaint := Call.openOrRead Call.plainComplaint fun _ e =>
        "read error: ".toList ++ describe e
      let mut isRight := true
      match ← Call.contentOf path with
      | .error e =>
        c.say (complaint path e)
        return 1
      | .ok content =>
        if g.has "d" then
          let (bytes, isValid) := a.decode (g.has "i") content
          print bytes
          isRight := isValid
        else
          let text := a.encode content
          print (if width = 0 then text else wrapped width (text.length + 1) text)
      if isRight then return 0 else c.fail 1 "invalid input".toList

/-- The options of programs that encode. -/
def encodingForms : List OptionForm :=
  [flag 'd' "decode", flag 'i' "ignore-garbage", valued 'w' "wrap"]

/-- Encodes in groups of six bits. -/
def base64 : Tool := fun c => c.withOptions encodingForms (transcode .base64 c)

/-- Encodes in groups of five bits. -/
def base32 : Tool := fun c => c.withOptions encodingForms (transcode .base32 c)

/-- The alphabets that have names. -/
def alphabets : List (String × Alphabet) :=
  [("base64", .base64), ("base64url", .base64url), ("base32", .base32), ("base32hex", .base32hex),
    ("base16", .base16), ("base2msbf", .base2msbf), ("base2lsbf", .base2lsbf)]

/-- Encodes with an alphabet that is named. -/
def basenc : Tool := fun c =>
  c.withOptions (encodingForms ++ alphabets.map fun (name, _) => longFlag name) fun g => do
    match (g.lastOf? (alphabets.map (·.1))).bind fun name => alphabets.lookup name with
    | some a => transcode a c g
    | none => c.misused 1 "missing encoding type".toList

end TokenConformance.Sandbox.Shell.Tool
