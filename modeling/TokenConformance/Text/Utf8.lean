/-! # Reading bytes as UTF-8

* `decode`: the characters of a byte string in order. An ill-formed piece stands as `none`: each
  piece is the longest start of some encoded character, or one byte that starts none.
* `replacing`: the decoded text with U+FFFD in the place of every ill-formed piece.
* `encode`: the bytes of a text.

The second byte of a character is held to a narrower range after the lead bytes E0, ED, F0 and F4;
so neither an overlong form, nor a surrogate, nor a value past U+10FFFF is well formed.
-/

namespace TokenConformance.Text.Utf8

/-- A character of which the first bytes have been read. -/
structure Pending where
  /-- The bits that have been read. -/
  value : Nat
  /-- How many bytes follow after the next one. -/
  more : Nat
  /-- The smallest next byte. -/
  low : UInt8
  /-- The largest next byte. -/
  high : UInt8

/-- What a byte means where a character starts: a finished piece, or one that waits for more. -/
def start (b : UInt8) : List (Option Char) × Option Pending :=
  let n := b.toNat
  if n < 0x80 then ([some (Char.ofNat n)], none)
  else if n < 0xC2 then ([none], none)
  else if n < 0xE0 then ([], some ⟨n - 0xC0, 0, 0x80, 0xBF⟩)
  else if n < 0xF0 then
    ([], some ⟨n - 0xE0, 1, if n = 0xE0 then 0xA0 else 0x80, if n = 0xED then 0x9F else 0xBF⟩)
  else if n < 0xF5 then
    ([], some ⟨n - 0xF0, 2, if n = 0xF0 then 0x90 else 0x80, if n = 0xF4 then 0x8F else 0xBF⟩)
  else ([none], none)

/-- What a byte means after the pieces read so far. -/
def advance : Option Pending → UInt8 → List (Option Char) × Option Pending
  | none, b => start b
  | some p, b =>
    if p.low ≤ b ∧ b ≤ p.high then
      let value := p.value * 64 + (b.toNat - 0x80)
      match p.more with
      | 0 => ([some (Char.ofNat value)], none)
      | more + 1 => ([], some ⟨value, more, 0x80, 0xBF⟩)
    else
      let (pieces, pending) := start b
      (none :: pieces, pending)

/-- The pieces of a byte string after those that have been read, the last one first, when some bytes
of a character may have been read too. -/
def decodeAfter (read : List (Option Char)) : Option Pending → List UInt8 → List (Option Char)
  | none, [] => read.reverse
  | some _, [] => (none :: read).reverse
  | pending, b :: rest =>
    let (pieces, next) := advance pending b
    decodeAfter (pieces.reverse ++ read) next rest

/-- The characters of a byte string, `none` for every ill-formed piece. -/
def decode (bytes : List UInt8) : List (Option Char) := decodeAfter [] none bytes

/-- The text of a byte string, with the replacement character for every ill-formed piece. -/
def replacing (bytes : List UInt8) : String :=
  String.ofList ((decode bytes).map fun piece => piece.getD '\uFFFD')

/-- The bytes of a text. -/
def encode (s : String) : List UInt8 := s.toList.flatMap String.utf8EncodeChar

end TokenConformance.Text.Utf8
