import TokenConformance.Sandbox.Digest.Blocks

/-! # BLAKE2b

* `orders`: the order in which the rounds take the words of a block.
* `mix`: what two words do to four words of the state.
* `compress`: what a block does to the chained words.
* `digest`: the bytes for a message, of which there are as many as asked for.
-/

namespace TokenConformance.Sandbox.Blake2

open Sandbox.Digest (ByteOrder)

/-- The words from which every digest starts. -/
def initialWords : Array UInt64 :=
  #[0x6a09e667f3bcc908, 0xbb67ae8584caa73b, 0x3c6ef372fe94f82b, 0xa54ff53a5f1d36f1,
    0x510e527fade682d1, 0x9b05688c2b3e6c1f, 0x1f83d9abfb41bd6b, 0x5be0cd19137e2179]

/-- The order in which the rounds take the words of a block; the last two rounds take them as the
first two. -/
def orders : List (List Nat) :=
  [[0, 1, 2, 3, 4, 5, 6, 7, 8, 9, 10, 11, 12, 13, 14, 15],
    [14, 10, 4, 8, 9, 15, 13, 6, 1, 12, 0, 2, 11, 7, 5, 3],
    [11, 8, 12, 0, 5, 2, 15, 13, 10, 14, 3, 6, 7, 1, 9, 4],
    [7, 9, 3, 1, 13, 12, 11, 14, 2, 6, 5, 10, 4, 0, 15, 8],
    [9, 0, 5, 7, 2, 4, 10, 15, 14, 1, 11, 12, 6, 8, 3, 13],
    [2, 12, 6, 10, 0, 11, 8, 3, 4, 13, 7, 5, 15, 14, 1, 9],
    [12, 5, 1, 15, 14, 13, 4, 10, 0, 7, 6, 3, 9, 2, 8, 11],
    [13, 11, 7, 14, 12, 1, 3, 9, 5, 0, 15, 4, 8, 6, 2, 10],
    [6, 15, 14, 9, 11, 3, 0, 8, 12, 2, 13, 7, 1, 4, 10, 5],
    [10, 2, 8, 4, 7, 6, 1, 5, 15, 11, 9, 14, 3, 12, 13, 0]]

/-- The word with its bits turned to the right. -/
def rotate (x n : UInt64) : UInt64 := (x >>> n) ||| (x <<< (64 - n))

/-- What two words do to the four words of the state at some places. -/
def mix (v : Array UInt64) (a b c d : Nat) (x y : UInt64) : Array UInt64 :=
  let half (v : Array UInt64) (x turn otherTurn : UInt64) : Array UInt64 :=
    let va := v.getD a 0 + v.getD b 0 + x
    let vd := rotate (v.getD d 0 ^^^ va) turn
    let vc := v.getD c 0 + vd
    let vb := rotate (v.getD b 0 ^^^ vc) otherTurn
    (((v.setIfInBounds a va).setIfInBounds d vd).setIfInBounds c vc).setIfInBounds b vb
  half (half v x 32 24) y 16 63

/-- The places on which the steps of a round work. -/
def places : List (Nat × Nat × Nat × Nat) :=
  [(0, 4, 8, 12), (1, 5, 9, 13), (2, 6, 10, 14), (3, 7, 11, 15), (0, 5, 10, 15), (1, 6, 11, 12),
    (2, 7, 8, 13), (3, 4, 9, 14)]

/-- One round, which takes the words of a block in an order. -/
def round (words v : Array UInt64) (order : List Nat) : Array UInt64 :=
  places.zipIdx.foldl (fun v ((a, b, c, d), i) =>
    let word (k : Nat) : UInt64 := words.getD (order.getD k 0) 0
    mix v a b c d (word (2 * i)) (word (2 * i + 1))) v

/-- What a block does to the chained words, when so many bytes have been read. -/
def compress (h : Array UInt64) (block : Array UInt8) (read : Nat) (isLast : Bool) :
    Array UInt64 :=
  let words := (ByteOrder.lowestFirst.words 8 block).map UInt64.ofNat
  let second := initialWords.modify 4 (· ^^^ UInt64.ofNat read)
  let second := if isLast then second.modify 6 (~~~·) else second
  let v := (orders ++ orders.take 2).foldl (round words) (h ++ second)
  (h.toList.zipIdx.map fun (x, i) => x ^^^ v.getD i 0 ^^^ v.getD (i + 8) 0).toArray

/-- The chained words after the rest of a message, when so many bytes have been read. The number
bounds how many blocks there are. -/
def chained : Nat → Array UInt64 → List UInt8 → Nat → Array UInt64
  | 0, h, _, _ => h
  | n + 1, h, rest, read =>
    let block := rest.take 128
    let after := rest.drop 128
    let filled := (block ++ List.replicate (128 - block.length) (0 : UInt8)).toArray
    let read := read + block.length
    if after.isEmpty then compress h filled read true
    else chained n (compress h filled read false) after read

/-- The digest of a message with as many bytes as asked for. -/
def digest (size : Nat) (message : List UInt8) : List UInt8 :=
  let h := initialWords.modify 0 (· ^^^ (0x01010000 ||| UInt64.ofNat size))
  let words := chained (message.length / 128 + 1) h message 0
  (words.toList.flatMap fun w => ByteOrder.lowestFirst.bytesOf 8 w.toNat).take size

end TokenConformance.Sandbox.Blake2
