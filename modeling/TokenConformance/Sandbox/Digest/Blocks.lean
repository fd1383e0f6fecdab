/-! # Messages in blocks

* `Words`: numbers of some bytes in an order, read from bytes and written as bytes.
* `BlockDigest`: a digest that takes in a message block after block.
* `BlockDigest.ofMessage`: the digest of a message.
-/

namespace TokenConformance.Sandbox.Digest

/-- The order of the bytes of a word. -/
inductive ByteOrder where
  | highestFirst
  | lowestFirst
deriving DecidableEq, Inhabited

namespace ByteOrder

/-- The number that some bytes are. -/
def toNat (o : ByteOrder) (bytes : List UInt8) : Nat :=
  let ordered := match o with
    | .highestFirst => bytes
    | .lowestFirst => bytes.reverse
  ordered.foldl (fun n b => n * 256 + b.toNat) 0

/-- The bytes of a number, of which there are so many. -/
def bytesOf (o : ByteOrder) (count n : Nat) : List UInt8 :=
  let bytes := (List.range count).map fun i => UInt8.ofNat (n >>> (8 * i))
  match o with
  | .highestFirst => bytes.reverse
  | .lowestFirst => bytes

/-- The numbers that a block of bytes consists of. -/
def words (o : ByteOrder) (size : Nat) (block : Array UInt8) : Array Nat :=
  ((List.range (block.size / size)).map fun i =>
    o.toNat (block.extract (i * size) (i * size + size)).toList).toArray

end ByteOrder

/-- A digest that takes in a message block after block. After the message there is a one bit, then
zeros, and the length of the message in bits at the end of a block. -/
structure BlockDigest (State : Type) where
  order : ByteOrder
  /-- How many bytes a block has. -/
  blockSize : Nat
  /-- How many bytes the length has. -/
  lengthSize : Nat
  initial : State
  /-- What a block does to the state. -/
  compress : State → Array UInt8 → State
  /-- The bytes of the last state. -/
  bytes : State → List UInt8

namespace BlockDigest

/-- What follows a message of some length. -/
def padding {State : Type} (d : BlockDigest State) (length : Nat) : List UInt8 :=
  let used := (length + 1 + d.lengthSize) % d.blockSize
  (0x80 : UInt8) :: List.replicate ((d.blockSize - used) % d.blockSize) (0 : UInt8) ++
    d.order.bytesOf d.lengthSize (length * 8)

/-- Takes one more byte into a block, and the block into the state when it is full. -/
def absorb {State : Type} (d : BlockDigest State) (s : State × Array UInt8) (b : UInt8) :
    State × Array UInt8 :=
  let block := s.2.push b
  if block.size = d.blockSize then (d.compress s.1 block, #[]) else (s.1, block)

/-- The digest of a message. -/
def ofMessage {State : Type} (d : BlockDigest State) (message : List UInt8) : List UInt8 :=
  d.bytes ((message ++ d.padding message.length).foldl d.absorb (d.initial, #[])).1

end BlockDigest

end TokenConformance.Sandbox.Digest
