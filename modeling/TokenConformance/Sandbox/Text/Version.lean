import TokenConformance.Sandbox.Text.Bytes

/-! # Names with versions in them

* `Version.weight`: where a character that is no digit stands in the order.
* `Version.compare`: compares texts part by part, numbers by their values.
* `Version.compareNames`: compares names of files, whose endings count only if nothing else tells
  them apart.
-/

namespace TokenConformance.Sandbox.Text.Version

/-- Where the first character of a text stands in the order. A tilde comes even before the end of a
text. -/
def weight (text : Bytes) : Int :=
  match text with
  | [] => -1
  | c :: _ =>
    if c.isDigit then 0
    else if c.isAlpha then c.toNat
    else if c = '~' then -2
    else c.toNat + 256

/-- Compares the parts of two texts that come before their next digits, character by character, and
leaves what follows them. -/
def compareWords : Bytes → Bytes → Ordering × Bytes × Bytes
  | [], [] => (.eq, [], [])
  | [], b :: bs =>
    if b.isDigit then (.eq, [], b :: bs) else (Ord.compare (weight []) (weight (b :: bs)), [], [])
  | a :: as, [] =>
    if a.isDigit then (.eq, a :: as, []) else (Ord.compare (weight (a :: as)) (weight []), [], [])
  | a :: as, b :: bs =>
    if a.isDigit && b.isDigit then (.eq, a :: as, b :: bs)
    else
      match Ord.compare (weight (a :: as)) (weight (b :: bs)) with
      | .eq => compareWords as bs
      | o => (o, [], [])

/-- The number at the start of a text, and what follows it. -/
def leadingNumber (text : Bytes) : Nat × Bytes :=
  let digits := text.takeWhile Char.isDigit
  (digits.foldl (fun n c => n * 10 + (c.toNat - '0'.toNat)) 0, text.drop digits.length)

/-- Compares texts part by part. The number bounds how many parts they have. -/
def compareParts : Nat → Bytes → Bytes → Ordering
  | 0, _, _ => .eq
  | n + 1, as, bs =>
    if as = [] && bs = [] then .eq
    else
      match compareWords as bs with
      | (.eq, as, bs) =>
        let (i, as) := leadingNumber as
        let (j, bs) := leadingNumber bs
        (Ord.compare i j).then (compareParts n as bs)
      | (o, _) => o

/-- Compares texts part by part, numbers by their values. -/
def compare (a b : Bytes) : Ordering := compareParts (a.length + b.length + 1) a b

/-- Whether a text is a row of endings, each a dot with a letter and more after it. -/
def isEndings : Nat → Bytes → Bool
  | 0, _ => false
  | _, [] => true
  | n + 1, '.' :: c :: rest =>
    (c.isAlpha || c = '~') &&
      isEndings n (rest.dropWhile fun c => c.isAlphanum || c = '~')
  | _, _ => false

/-- A name without the endings after it. Something is always left. -/
def withoutEndings (name : Bytes) : Bytes :=
  let cut := (List.range name.length).find? fun i =>
    isEndings (name.length + 1) (name.drop (i + 1))
  name.take (cut.getD 0 + 1)

/-- Where a name stands that starts with a dot, before all others. -/
def dotRank (name : Bytes) : Nat :=
  match name with
  | [] => 0
  | ['.'] => 1
  | ['.', '.'] => 2
  | '.' :: _ => 3
  | _ => 4

/-- Compares names of files. -/
def compareNames (a b : Bytes) : Ordering :=
  match Ord.compare (dotRank a) (dotRank b) with
  | .eq =>
    if dotRank a < 3 then .eq
    else (compare (withoutEndings a) (withoutEndings b)).then (compare a b)
  | o => o

end TokenConformance.Sandbox.Text.Version
