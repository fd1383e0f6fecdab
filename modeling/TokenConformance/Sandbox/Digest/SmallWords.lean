import TokenConformance.Digest.Sha256
import TokenConformance.Sandbox.Digest.Blocks

/-! # Digests with words of 32 bits

* `Md5.roundConstants`: the whole parts of the sines of 1 to 64, times the size of a word.
* `Md5.compress`, `Md5.digest`: what a block does to the state, and the 16 bytes for a message.
* `Sha1.schedule`: the words of the rounds from those of a block.
* `Sha1.compress`, `Sha1.digest`: the same for SHA-1, with 20 bytes.
* `Sha224.digest`: SHA-256 from another state, with 28 bytes.
* `Sm3.schedule`, `Sm3.compress`, `Sm3.digest`: the same for SM3, with 32 bytes.
-/

/-! ## MD5 -/

namespace TokenConformance.Sandbox.Md5

open Sandbox.Digest (ByteOrder BlockDigest)

/-- A constant for every round. -/
def roundConstants : List UInt32 :=
  [0xd76aa478, 0xe8c7b756, 0x242070db, 0xc1bdceee, 0xf57c0faf, 0x4787c62a, 0xa8304613, 0xfd469501,
    0x698098d8, 0x8b44f7af, 0xffff5bb1, 0x895cd7be, 0x6b901122, 0xfd987193, 0xa679438e, 0x49b40821,
    0xf61e2562, 0xc040b340, 0x265e5a51, 0xe9b6c7aa, 0xd62f105d, 0x02441453, 0xd8a1e681, 0xe7d3fbc8,
    0x21e1cde6, 0xc33707d6, 0xf4d50d87, 0x455a14ed, 0xa9e3e905, 0xfcefa3f8, 0x676f02d9, 0x8d2a4c8a,
    0xfffa3942, 0x8771f681, 0x6d9d6122, 0xfde5380c, 0xa4beea44, 0x4bdecfa9, 0xf6bb4b60, 0xbebfbc70,
    0x289b7ec6, 0xeaa127fa, 0xd4ef3085, 0x04881d05, 0xd9d4d039, 0xe6db99e5, 0x1fa27cf8, 0xc4ac5665,
    0xf4292244, 0x432aff97, 0xab9423a7, 0xfc93a039, 0x655b59c3, 0x8f0ccc92, 0xffeff47d, 0x85845dd1,
    0x6fa87e4f, 0xfe2ce6e0, 0xa3014314, 0x4e0811a1, 0xf7537e82, 0xbd3af235, 0x2ad7d2bb, 0xeb86d391]

/-- How far a word is turned in the rounds of a quarter, again and again. -/
def turns (quarter : Nat) : List UInt32 :=
  match quarter with
  | 0 => [7, 12, 17, 22]
  | 1 => [5, 9, 14, 20]
  | 2 => [4, 11, 16, 23]
  | _ => [6, 10, 15, 21]

/-- The four words that a round works on. -/
structure State where
  a : UInt32
  b : UInt32
  c : UInt32
  d : UInt32

/-- The word with its bits turned to the left. -/
def rotate (x n : UInt32) : UInt32 := (x <<< n) ||| (x >>> (32 - n))

/-- One round. -/
def round (words : Array Nat) (s : State) (i : Nat) (constant : UInt32) : State :=
  let (mixed, place) := match i / 16 with
    | 0 => ((s.b &&& s.c) ||| (~~~s.b &&& s.d), i)
    | 1 => ((s.d &&& s.b) ||| (~~~s.d &&& s.c), 5 * i + 1)
    | 2 => (s.b ^^^ s.c ^^^ s.d, 3 * i + 5)
    | _ => (s.c ^^^ (s.b ||| ~~~s.d), 7 * i)
  let word := UInt32.ofNat (words.getD (place % 16) 0)
  let turned := rotate (s.a + mixed + constant + word) ((turns (i / 16)).getD (i % 4) 0)
  ⟨s.d, s.b + turned, s.b, s.c⟩

/-- What a block does to the state. -/
def compress (s : State) (block : Array UInt8) : State :=
  let words := ByteOrder.lowestFirst.words 4 block
  let t := roundConstants.zipIdx.foldl (fun t (constant, i) => round words t i constant) s
  ⟨s.a + t.a, s.b + t.b, s.c + t.c, s.d + t.d⟩

/-- How the digest takes in a message. -/
def scheme : BlockDigest State where
  order := .lowestFirst
  blockSize := 64
  lengthSize := 8
  initial := ⟨0x67452301, 0xefcdab89, 0x98badcfe, 0x10325476⟩
  compress := compress
  bytes := fun s => [s.a, s.b, s.c, s.d].flatMap fun w => ByteOrder.lowestFirst.bytesOf 4 w.toNat

/-- The digest of a message. -/
def digest (message : List UInt8) : List UInt8 := scheme.ofMessage message

end TokenConformance.Sandbox.Md5

/-! ## SHA-1 -/

namespace TokenConformance.Sandbox.Sha1

open Sandbox.Digest (ByteOrder BlockDigest)

/-- The five words that a round works on. -/
structure State where
  a : UInt32
  b : UInt32
  c : UInt32
  d : UInt32
  e : UInt32

/-- The word with its bits turned to the left. -/
def rotate (x n : UInt32) : UInt32 := (x <<< n) ||| (x >>> (32 - n))

/-- The 80 words of the rounds, from the 16 words of a block. -/
def schedule (block : Array UInt32) : Array UInt32 :=
  (List.range 64).foldl (fun w t =>
    w.push (rotate (w.getD (t + 13) 0 ^^^ w.getD (t + 8) 0 ^^^ w.getD (t + 2) 0 ^^^ w.getD t 0) 1))
    block

/-- One round. -/
def round (s : State) (i : Nat) (word : UInt32) : State :=
  let (mixed, constant) : UInt32 × UInt32 := match i / 20 with
    | 0 => ((s.b &&& s.c) ||| (~~~s.b &&& s.d), 0x5a827999)
    | 1 => (s.b ^^^ s.c ^^^ s.d, 0x6ed9eba1)
    | 2 => ((s.b &&& s.c) ||| (s.b &&& s.d) ||| (s.c &&& s.d), 0x8f1bbcdc)
    | _ => (s.b ^^^ s.c ^^^ s.d, 0xca62c1d6)
  ⟨rotate s.a 5 + mixed + s.e + constant + word, s.a, rotate s.b 30, s.c, s.d⟩

/-- What a block does to the state. -/
def compress (s : State) (block : Array UInt8) : State :=
  let words := schedule ((ByteOrder.highestFirst.words 4 block).map UInt32.ofNat)
  let t := words.toList.zipIdx.foldl (fun t (word, i) => round t i word) s
  ⟨s.a + t.a, s.b + t.b, s.c + t.c, s.d + t.d, s.e + t.e⟩

/-- How the digest takes in a message. -/
def scheme : BlockDigest State where
  order := .highestFirst
  blockSize := 64
  lengthSize := 8
  initial := ⟨0x67452301, 0xefcdab89, 0x98badcfe, 0x10325476, 0xc3d2e1f0⟩
  compress := compress
  bytes := fun s =>
    [s.a, s.b, s.c, s.d, s.e].flatMap fun w => ByteOrder.highestFirst.bytesOf 4 w.toNat

/-- The digest of a message. -/
def digest (message : List UInt8) : List UInt8 := scheme.ofMessage message

end TokenConformance.Sandbox.Sha1

/-! ## SHA-224 -/

namespace TokenConformance.Sandbox.Sha224

/-- The state before the first block: the second 32 bits of the fractional parts of the square roots
of the ninth to the sixteenth prime. -/
def initialState : Sha256.State :=
  ⟨0xc1059ed8, 0x367cd507, 0x3070dd17, 0xf70e5939, 0xffc00b31, 0x68581511, 0x64f98fa7, 0xbefa4fa4⟩

/-- The digest of a message. -/
def digest (message : List UInt8) : List UInt8 := (Sha256.bytesFrom initialState message).take 28

end TokenConformance.Sandbox.Sha224

/-! ## SM3 -/

namespace TokenConformance.Sandbox.Sm3

open Sandbox.Digest (ByteOrder BlockDigest)

/-- The eight words that a round works on. -/
structure State where
  a : UInt32
  b : UInt32
  c : UInt32
  d : UInt32
  e : UInt32
  f : UInt32
  g : UInt32
  h : UInt32

/-- The word with its bits turned to the left. -/
def rotate (x n : UInt32) : UInt32 := (x <<< (n % 32)) ||| (x >>> ((32 - n % 32) % 32))

/-- A word with two turned copies of itself. -/
def spread (x n m : UInt32) : UInt32 := x ^^^ rotate x n ^^^ rotate x m

/-- The 68 words of the rounds, from the 16 words of a block. -/
def schedule (block : Array UInt32) : Array UInt32 :=
  (List.range 52).foldl (fun w t =>
    let x := w.getD t 0 ^^^ w.getD (t + 7) 0 ^^^ rotate (w.getD (t + 13) 0) 15
    w.push (spread x 15 23 ^^^ rotate (w.getD (t + 3) 0) 7 ^^^ w.getD (t + 10) 0)) block

/-- One round. -/
def round (words : Array UInt32) (s : State) (i : Nat) : State :=
  let constant : UInt32 := if i < 16 then 0x79cc4519 else 0x7a879d8a
  let turned := rotate s.a 12
  let s₁ := rotate (turned + s.e + rotate constant (UInt32.ofNat i)) 7
  let mixed :=
    if i < 16 then s.a ^^^ s.b ^^^ s.c else (s.a &&& s.b) ||| (s.a &&& s.c) ||| (s.b &&& s.c)
  let chosen := if i < 16 then s.e ^^^ s.f ^^^ s.g else (s.e &&& s.f) ||| (~~~s.e &&& s.g)
  let word := words.getD i 0
  let t₁ := mixed + s.d + (s₁ ^^^ turned) + (word ^^^ words.getD (i + 4) 0)
  let t₂ := chosen + s.h + s₁ + word
  ⟨t₁, s.a, rotate s.b 9, s.c, spread t₂ 9 17, s.e, rotate s.f 19, s.g⟩

/-- What a block does to the state. -/
def compress (s : State) (block : Array UInt8) : State :=
  let words := schedule ((ByteOrder.highestFirst.words 4 block).map UInt32.ofNat)
  let t := (List.range 64).foldl (round words) s
  ⟨s.a ^^^ t.a, s.b ^^^ t.b, s.c ^^^ t.c, s.d ^^^ t.d, s.e ^^^ t.e, s.f ^^^ t.f, s.g ^^^ t.g,
    s.h ^^^ t.h⟩

/-- How the digest takes in a message. -/
def scheme : BlockDigest State where
  order := .highestFirst
  blockSize := 64
  lengthSize := 8
  initial :=
    ⟨0x7380166f, 0x4914b2b9, 0x172442d7, 0xda8a0600, 0xa96f30bc, 0x163138aa, 0xe38dee4d, 0xb0fb0e4e⟩
  compress := compress
  bytes := fun s => [s.a, s.b, s.c, s.d, s.e, s.f, s.g, s.h].flatMap fun w =>
    ByteOrder.highestFirst.bytesOf 4 w.toNat

/-- The digest of a message. -/
def digest (message : List UInt8) : List UInt8 := scheme.ofMessage message

end TokenConformance.Sandbox.Sm3
