/-! # Sums of bytes

* `crc`: the remainder of a message as a polynomial over bits, with its length after it.
* `turningSum`: a sum of 16 bits that is turned before every byte.
* `plainSum`: a sum of all bytes, brought to 16 bits.
-/

namespace TokenConformance.Sandbox.Sums

/-- The polynomial by which messages are divided, without its highest bit. -/
def polynomial : UInt32 := 0x04c11db7

/-- The remainder after one more bit. -/
def shifted (r : UInt32) : UInt32 :=
  if r &&& 0x80000000 = 0 then r <<< 1 else (r <<< 1) ^^^ polynomial

/-- The remainder after one more byte. -/
def withByte (r : UInt32) (b : UInt8) : UInt32 :=
  (List.range 8).foldl (fun r _ => shifted r) (r ^^^ (b.toUInt32 <<< 24))

/-- The bytes of a length, the lowest one first, without zeros at the end. The number bounds how many
there are. -/
def lengthBytes : Nat → Nat → List UInt8
  | 0, _ => []
  | _, 0 => []
  | n + 1, length => UInt8.ofNat (length % 256) :: lengthBytes n (length / 256)

/-- The remainder of a message with its length, all bits turned round. -/
def crc (message : List UInt8) : UInt32 :=
  ~~~((message ++ lengthBytes message.length message.length).foldl withByte 0)

/-- The sum of the bytes, which is turned by a bit before each of them. -/
def turningSum (message : List UInt8) : Nat :=
  message.foldl (fun s b => (s / 2 + s % 2 * 32768 + b.toNat) % 65536) 0

/-- The sum of the bytes, of which the upper half is added to the lower one. -/
def plainSum (message : List UInt8) : Nat :=
  let s := message.foldl (fun s b => s + b.toNat) 0 % 4294967296
  let r := s % 65536 + s / 65536
  r % 65536 + r / 65536

end TokenConformance.Sandbox.Sums
