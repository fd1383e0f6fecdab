import TokenConformance.Sandbox.Shell.Pattern
import TokenConformance.Sandbox.Shell.Printing
import TokenConformance.Sandbox.Text.Regex.Reader

/-! # What is looked for in a tree of files

* `Range`, `ModeTest`: what numbers and permissions may be.
* `Test`: what is asked about a file; `Deed`: what is done with it.
* `Query`: tests and deeds that are put together.
* `Piece`: a part of a format in which something is told about a file.
* `Plan`: what is looked for, and where.
-/

namespace TokenConformance.Sandbox.Shell.Finding

open Sandbox.Text (Bytes Regex)

/-- How a number stands to another one. -/
inductive Bound where
  | exactly
  | above
  | below
deriving DecidableEq, Inhabited

/-- What a number may be. -/
structure Range where
  bound : Bound
  limit : Nat
deriving DecidableEq, Inhabited

/-- Whether a number is in a range. -/
def Range.has (r : Range) (n : Nat) : Bool :=
  match r.bound with
  | .exactly => n = r.limit
  | .above => r.limit < n
  | .below => n < r.limit

/-- How permissions have to agree with others. -/
inductive ModeTest where
  | exactly
  | all
  | some
deriving DecidableEq, Inhabited

/-- Whether permissions agree with others. Where some of no permissions are wanted, all agree. -/
def ModeTest.holds (t : ModeTest) (wanted mode : Nat) : Bool :=
  match t with
  | .exactly => mode = wanted
  | .all => mode &&& wanted = wanted
  | .some => wanted = 0 || mode &&& wanted ≠ 0

/-- What is asked about a file. -/
inductive Test where
  | name (ignoresCase : Bool) (pattern : Bytes)
  | path (ignoresCase : Bool) (pattern : Bytes)
  /-- Where a link leads. -/
  | target (ignoresCase : Bool) (pattern : Bytes)
  | expression (r : Regex)
  /-- The letters of the kinds that are wanted. A link may count as what it leads to, or the other way
  round. -/
  | kind (letters : Bytes) (isOther : Bool)
  | size (unit : Nat) (r : Range)
  | isEmpty
  | newer (time : Int)
  /-- How old a file is, in days or in minutes that have begun. -/
  | age (isInDays : Bool) (r : Range)
  | mode (t : ModeTest) (wanted : Nat)
  | links (r : Range)
  | number (r : Range)
  | owner (r : Range)
  | node (n : Nat)
  /-- Whether a file may be used in a way. -/
  | usable (test : Char)
  | always (holds : Bool)

/-- A part of a format. -/
inductive Piece where
  | text (t : Bytes)
  /-- What a letter stands for, with the letter after it if there are two. -/
  | field (d : Directive) (letter : Char) (second : Option Char)
  /-- Nothing comes after this part. -/
  | finish

/-- What is done with a file. Some deeds write to a channel that they have for themselves. -/
inductive Deed where
  | print (mark : Char) (channel : Option Nat)
  | format (pieces : List Piece) (channel : Option Nat)
  | list (channel : Option Nat)
  /-- Starts a program, in the directory of the file if that is wanted. -/
  | run (words : List Bytes) (isInside asks : Bool)
  /-- Starts a program with many files together. -/
  | collect (group : Nat) (isInside : Bool)
  | delete
  | prune
  | quit

/-- Tests and deeds that are put together. -/
inductive Query where
  | test (t : Test)
  | deed (d : Deed)
  | not (q : Query)
  | both (p q : Query)
  | either (p q : Query)
  | sequence (p q : Query)

instance : Inhabited Query := ⟨.test (.always true)⟩

/-- Which links are followed. -/
inductive Following where
  | none
  | starts
  | all
deriving DecidableEq, Inhabited

/-- A program that is started with many files together. -/
structure Group where
  words : List Bytes
  isInside : Bool
deriving DecidableEq, Inhabited

/-- What is looked for, and where. -/
structure Plan where
  query : Query
  starts : List Bytes
  following : Following
  least : Nat
  most : Option Nat
  /-- Whether what is in a directory comes before it. -/
  isDepthFirst : Bool
  groups : List Group
deriving Inhabited

end TokenConformance.Sandbox.Shell.Finding
