import TokenConformance.Sandbox.Text.Regex.Reader

/-! # Scripts that edit texts line by line

* `Point`, `Stop`, `Address`: the lines for which something is done.
* `Piece`: a part of what is put in the place of a match.
* `Deed`: what is done; `Order`: what is done for which lines.
* `Script`: orders in a row.
-/

namespace TokenConformance.Sandbox.Shell.Edit

open Sandbox.Text (Bytes Regex)

/-- An expression that lines have to match, or the one that was used last. -/
structure Expression where
  regex : Option Regex
  /-- Whether lines start and end inside the text. -/
  hasLines : Bool
deriving Inhabited

/-- Where some lines start. -/
inductive Point where
  | line (n : Nat)
  | last
  /-- A first line, and every so many lines after it. -/
  | step (first every : Nat)
  | matching (e : Expression)
deriving Inhabited

/-- Where some lines stop. -/
inductive Stop where
  | point (p : Point)
  /-- So many lines after the first one. -/
  | after (n : Nat)
  /-- At the next line whose number is a multiple. -/
  | multiple (n : Nat)
deriving Inhabited

/-- The lines for which something is done. -/
structure Address where
  start : Option Point
  stop : Option Stop
  /-- Whether it is done for all others. -/
  isNegated : Bool
deriving Inhabited

/-- A letter case. -/
inductive LetterCase where
  | asItIs
  | upper
  | lower
deriving DecidableEq, Inhabited

/-- A part of what is put in the place of a match. -/
inductive Piece where
  | text (t : Bytes)
  | group (n : Nat)
  | letterCase (c : LetterCase)
  /-- The case of the next letter alone. -/
  | nextCase (c : LetterCase)
deriving Inhabited

/-- What is put in the place of matches. -/
structure Substitution where
  expression : Expression
  pieces : List Piece
  /-- Whether all matches are meant from the first one on that counts. -/
  isGlobal : Bool
  /-- Which match is the first one that counts. -/
  number : Nat
  prints : Bool
  /-- Whether the result is run as a command. -/
  runs : Bool
  target : Option Bytes
deriving Inhabited

/-- When something is gone on with. -/
inductive Leap where
  | always
  | ifChanged
  | unlessChanged
deriving DecidableEq, Inhabited

/-- What is done. -/
inductive Deed where
  /-- Goes on at an order if the address does not hold. -/
  | opening (finish : Nat)
  | nothing
  | change (text : Bytes)
  | append (text : Bytes)
  | insert (text : Bytes)
  | leap (l : Leap) (label : Bytes)
  | delete
  | deleteFirst
  | run (command : Bytes)
  | fileName
  | get
  | getMore
  | hold
  | holdMore
  | list (width : Option Nat)
  | next
  | nextMore
  | print
  | printFirst
  | quit (status : Nat) (isSilent : Bool)
  | putFile (name : Bytes)
  | putLine (name : Bytes)
  | substitute (s : Substitution)
  | write (name : Bytes)
  | writeFirst (name : Bytes)
  | exchange
  | translate (pairs : List (Char × Char))
  | clear
  | number
deriving Inhabited

/-- What is done for which lines. -/
structure Order where
  address : Address
  deed : Deed
deriving Inhabited

/-- Orders in a row, with the places that have labels. -/
structure Script where
  orders : Array Order
  labels : List (Bytes × Nat)
  /-- Whether the script itself says that lines are only written when it asks for that. -/
  isQuiet : Bool
deriving Inhabited

end TokenConformance.Sandbox.Shell.Edit
