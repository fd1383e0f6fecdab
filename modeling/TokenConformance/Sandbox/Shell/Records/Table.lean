import Std.Data.HashMap
import TokenConformance.Sandbox.Text.Bytes

/-! # Tables

* `Value`: a value of a script.
* `Key`: what a value in a table belongs to.
* `Table`: values with keys. Keys stand on shelves, and what was used last stands first on its shelf;
  numbers have shelves of their own until a key is a text.
* `Table.get`, `Table.set`, `Table.remove`, `Table.ofParts`: changes of a table.
* `Table.keys`: all keys, in the order of their shelves.
-/

namespace TokenConformance.Sandbox.Shell.Records

open Sandbox.Text (Bytes)

/-- A value of a script. -/
inductive Value where
  /-- Nothing has been put there. -/
  | unset
  | number (x : Float)
  | text (t : Bytes)
  /-- A text that has been read, which is a number as well if it looks like one. -/
  | input (t : Bytes)
deriving Inhabited

/-- What a value in a table belongs to. -/
inductive Key where
  | number (n : Int)
  | text (t : Bytes)
deriving DecidableEq, Inhabited

/-- The text of a key. -/
def Key.toText : Key → Bytes
  | number n => Bytes.ofInt n
  | text t => t

/-- How the keys of a table are kept. -/
inductive Keeping where
  /-- There are as many as there are values, counted from one. -/
  | counted
  | numbers
  | texts
deriving DecidableEq, Inhabited

/-- The number from which the shelf of a text follows. -/
def textHash (text : Bytes) : UInt32 :=
  text.foldl (fun h c => (h ^^^ UInt32.ofNat c.toNat) * 16777619) 2166136261

instance : Hashable Bytes := ⟨fun text => (textHash text).toUInt64⟩

/-- Values with keys. -/
structure Table where
  keeping : Keeping
  values : Std.HashMap Bytes Value
  /-- The shelves of the numbers. -/
  numbers : Array (List Int)
  /-- The shelves of the texts. -/
  texts : Array (List Bytes)

instance : Inhabited Table := ⟨⟨.numbers, ∅, #[], #[]⟩⟩

namespace Table

/-- How many shelves there are in the beginning. -/
def shelfCount : Nat := 64

/-- How many keys there are for one shelf at most, on average. -/
def shelfSize : Nat := 12

/-- Empty shelves. -/
def shelves (α : Type) (count : Nat) : Array (List α) := Array.replicate count []

/-- The table without values. -/
def empty : Table := ⟨.numbers, ∅, shelves Int shelfCount, shelves Bytes shelfCount⟩

/-- How many values there are. -/
def size (t : Table) : Nat := t.values.size

/-- The shelf of a text. -/
def textShelf (count : Nat) (text : Bytes) : Nat := (textHash text).toNat % count

/-- The shelf of a number. -/
def numberShelf (count : Nat) (n : Int) : Nat := (n % (count : Int)).toNat

/-- Shelves on which something comes first that may have been there before. -/
def front {α : Type} [BEq α] (x : α) (i : Nat) (rows : Array (List α)) : Array (List α) :=
  rows.modify i fun row => x :: row.filter (· != x)

/-- Shelves without something. -/
def away {α : Type} [BEq α] (x : α) (i : Nat) (rows : Array (List α)) : Array (List α) :=
  rows.modify i fun row => row.filter (· != x)

/-- Twice as many shelves with the same things, in the same order. -/
def doubled {α : Type} (shelf : α → Nat) (rows : Array (List α)) : Array (List α) :=
  let half (i : Nat) (row : List α) : List α := row.filter fun x => shelf x = i
  (rows.mapIdx half) ++ rows.mapIdx fun i row => half (i + rows.size) row

/-- The table with more shelves, if there are too few of them for one more key. -/
def grown (t : Table) : Table :=
  let count := t.numbers.size
  if t.size < count * shelfSize then t
  else { t with
    numbers := doubled (numberShelf (2 * count)) t.numbers
    texts := doubled (textShelf (2 * count)) t.texts }

/-- How many shelves so many keys need. The number bounds how often there are twice as many. -/
def neededShelves (size : Nat) : Nat → Nat → Nat
  | 0, count => count
  | n + 1, count => if count * shelfSize < size then neededShelves size n (2 * count) else count

/-- The table of which the numbers stand on shelves. -/
def withNumbers (t : Table) : Table :=
  if t.keeping ≠ .counted then t
  else
    let count := neededShelves t.size 64 shelfCount
    let rows := (List.range t.size).foldl
      (fun rows i =>
        let n : Int := (i + 1 : Nat)
        front n (numberShelf count n) rows) (shelves Int count)
    { t with keeping := .numbers, numbers := rows, texts := shelves Bytes count }

/-- The table of which all keys stand on shelves of texts. -/
def withTexts (t : Table) : Table :=
  let t := t.withNumbers
  if t.keeping = .texts then t
  else
    let count := t.numbers.size
    let rows := t.numbers.foldl
      (fun rows row => row.foldl
        (fun rows n =>
          let text := Bytes.ofInt n
          front text (textShelf count text) rows) rows) t.texts
    { t with keeping := .texts, texts := rows }

/-- The table after a text has been looked for, and whether it is there or has been put there. -/
def findText (create : Bool) (text : Bytes) (t : Table) : Table × Bool :=
  let t := t.withTexts
  let isThere := t.values.contains text
  if !isThere && !create then (t, false)
  else
    let t := if isThere then t else t.grown
    let texts := front text (textShelf t.texts.size text) t.texts
    ({ t with texts, values := if isThere then t.values else t.values.insert text .unset }, true)

/-- The table after a number has been looked for, and whether it is there or has been put there. -/
def findNumber (create : Bool) (n : Int) (t : Table) : Table × Bool :=
  let text := Bytes.ofInt n
  let isThere := t.values.contains text
  if t.keeping = .counted && (isThere || !create) then (t, isThere)
  else
    let t := t.withNumbers
    let isShelved := (t.numbers.getD (numberShelf t.numbers.size n) []).contains n
    let (t, found) : Table × Bool :=
      if isShelved then (t, true)
      else if t.keeping = .texts then t.findText create text
      else if create then
        let t := t.grown
        ({ t with values := t.values.insert text .unset }, true)
      else (t, false)
    if found then
      ({ t with numbers := front n (numberShelf t.numbers.size n) t.numbers }, true)
    else (t, false)

/-- The table after a key has been looked for, and whether it is there or has been put there. -/
def find (create : Bool) (key : Key) (t : Table) : Table × Bool :=
  if t.size = 0 && !create then (t, false)
  else
    match key with
    | .number n => t.findNumber create n
    | .text text => t.findText create text

/-- The value of a key, which is put there if it is not. -/
def get (key : Key) (t : Table) : Value × Table :=
  let (t, _) := t.find true key
  (t.values.getD key.toText .unset, t)

/-- The table with another value of a key. -/
def set (key : Key) (value : Value) (t : Table) : Table :=
  let (t, _) := t.find true key
  { t with values := t.values.insert key.toText value }

/-- Whether a key is there. -/
def has (key : Key) (t : Table) : Bool × Table :=
  let (t, isThere) := t.find false key
  (isThere, t)

/-- The table without a key. -/
def remove (key : Key) (t : Table) : Table :=
  let (t, isThere) := t.find false key
  if !isThere then t
  else
    let t := t.withNumbers
    let text := key.toText
    let numbers := t.numbers.map fun row => row.filter fun n => Bytes.ofInt n ≠ text
    let values := t.values.erase text
    if values.isEmpty then empty
    else
      { t with values, numbers, texts := away text (textShelf t.texts.size text) t.texts }

/-- The table of some values, counted from one. -/
def ofValues (values : List Value) : Table :=
  let all := values.foldl
    (fun (found : Std.HashMap Bytes Value × Nat) v =>
      (found.1.insert (Bytes.ofInt (found.2 + 1 : Nat)) v, found.2 + 1)) (∅, 0)
  { empty with keeping := .counted, values := all.1 }

/-- All keys, in the order of their shelves. -/
def keys (t : Table) : List Bytes × Table :=
  let t := t.withTexts
  (t.texts.toList.flatten, t)

end Table

end TokenConformance.Sandbox.Shell.Records
