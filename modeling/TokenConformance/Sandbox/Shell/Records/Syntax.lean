import TokenConformance.Sandbox.Text.Regex.Reader

/-! # Scripts that work on records

* `Expr`: what has a value.
* `Statement`: what is done.
* `Rule`: what is done with which records; `Routine`: what has a name of its own.
* `Script`: rules and routines.
-/

namespace TokenConformance.Sandbox.Shell.Records

open Sandbox.Text (Bytes Regex)

/-- Something that is worked out from two numbers. -/
inductive Operation where
  | plus
  | minus
  | times
  | over
  | rest
  | power
deriving DecidableEq, Inhabited

/-- How two values may stand to each other. -/
inductive Comparison where
  | less
  | atMost
  | equal
  | different
  | atLeast
  | greater
deriving DecidableEq, Inhabited

/-- Where a variable or a table is kept: by its number in the whole script or in one routine. -/
inductive Slot where
  | shared (n : Nat)
  | own (n : Nat)
deriving DecidableEq, Inhabited

mutual

/-- What has a value. -/
inductive Expr where
  | number (x : Float)
  | text (t : Bytes)
  | regex (r : Regex)
  | variable (s : Slot)
  | field (e : Expr)
  | element (table : Slot) (keys : List Expr)
  /-- An expression in parentheses. -/
  | inside (e : Expr)
  /-- Expressions in parentheses. -/
  | several (es : List Expr)
  | assign (o : Option Operation) (target value : Expr)
  /-- One more or one less, and whether the value is that from before. -/
  | step (o : Operation) (isBefore : Bool) (target : Expr)
  | negative (e : Expr)
  | positive (e : Expr)
  | not (e : Expr)
  | operation (o : Operation) (a b : Expr)
  | comparison (c : Comparison) (a b : Expr)
  | join (a b : Expr)
  | matching (isNegated : Bool) (a b : Expr)
  | member (keys : List Expr) (table : Slot)
  | both (a b : Expr)
  | either (a b : Expr)
  | choice (c a b : Expr)
  /-- What a routine of the script gives back. -/
  | call (name : Bytes) (arguments : List Expr)
  /-- What a routine gives back that every script has. -/
  | known (name : String) (arguments : List Expr)
  /-- Reads a record. -/
  | read (s : Source) (target : Option Expr)

/-- From where a record is read. -/
inductive Source where
  | input
  | file (name : Expr)
  | command (text : Expr)

end

instance : Inhabited Expr := ⟨.text []⟩

instance : Inhabited Source := ⟨.input⟩

/-- To what something is printed. -/
inductive Target where
  | output
  | file (name : Expr)
  | append (name : Expr)
  | command (text : Expr)
deriving Inhabited

/-- What is done. -/
inductive Statement where
  | expr (e : Expr)
  | print (es : List Expr) (t : Target)
  /-- Prints a format. -/
  | format (es : List Expr) (t : Target)
  | block (ss : List Statement)
  | condition (c : Expr) (a : Statement) (b : Option Statement)
  | loop (c : Expr) (body : Statement)
  /-- A loop that is run at least once. -/
  | loopOnce (body : Statement) (c : Expr)
  | count (start : Option Expr) (c : Option Expr) (step : Option Expr) (body : Statement)
  /-- Goes through the keys of a table. -/
  | each (name table : Slot) (body : Statement)
  | next
  | nextFile
  | exit (e : Option Expr)
  | giveBack (e : Option Expr)
  | leave
  | goOn
  | delete (table : Slot) (keys : Option (List Expr))
deriving Inhabited

/-- For which records something is done. -/
inductive Selection where
  | atStart
  | atEnd
  | always
  | where (e : Expr)
  | range (start finish : Expr)
deriving Inhabited

/-- What is done for which records. -/
structure Rule where
  selection : Selection
  body : Statement
deriving Inhabited

/-- Statements with a name, and for each parameter whether it is a table. -/
structure Routine where
  name : Bytes
  parameters : List Bytes
  body : Statement
  areTables : List Bool
deriving Inhabited

/-- Rules and routines. -/
structure Script where
  rules : List Rule
  routines : List Routine
  /-- The names of what all of the script shares. -/
  names : Array Bytes
deriving Inhabited

/-! ## Variables that mean something -/

/-- The variables that every script has, in the order of their numbers. -/
def knownNames : List String :=
  ["NR", "FNR", "NF", "FS", "OFS", "ORS", "RS", "SUBSEP", "CONVFMT", "OFMT", "RSTART", "RLENGTH",
    "FILENAME", "ENVIRON", "ARGV", "ARGC"]

/-- The number of a variable that every script has. -/
def knownNumber (name : String) : Nat := knownNames.idxOf name

end TokenConformance.Sandbox.Shell.Records
