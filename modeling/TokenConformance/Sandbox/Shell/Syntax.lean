import TokenConformance.Sandbox.Text.Bytes

/-! # Shell scripts

What a script consists of once it has been read.

* `Part`: a piece of a word, quoted or not; a word is a list of parts.
* `Use`: what a parameter expansion makes of the value of the parameter.
* `Redirection`: a descriptor that is connected otherwise for one command.
* `Command`: a command; a script is a list of commands.
-/

namespace TokenConformance.Sandbox.Shell

open Sandbox.Text (Bytes)

/-- What is done when a parameter has no value. -/
inductive Fallback where
  | use
  | assign
  | fail
  /-- The word counts when there is a value, and nothing when there is none. -/
  | instead
deriving DecidableEq, Inhabited

/-- How a descriptor is connected. -/
inductive Connection where
  | reading
  | writing
  /-- A file is written anew even where files are kept. -/
  | replacing
  | appending
  /-- A file is read and written as it is. -/
  | updating
  | duplicate
  /-- The word is the text that is read. -/
  | document
deriving DecidableEq, Inhabited

mutual

/-- A piece of a word. -/
inductive Part where
  | char (c : Char) (quoted : Bool)
  /-- Quotation marks with nothing between them. -/
  | nothing
  | parameter (name : Bytes) (use : Use) (quoted : Bool)
  | output (script : List Command) (quoted : Bool)
  | arithmetic (expression : List Part) (quoted : Bool)

/-- What a parameter expansion makes of a value. -/
inductive Use where
  | value
  | length
  | fallback (kind : Fallback) (orEmpty : Bool) (word : List Part)
  | trim (fromEnd longest : Bool) (pattern : List Part)
  /-- The expansion has no meaning. -/
  | invalid

/-- A descriptor that is connected otherwise. -/
inductive Redirection where
  | mk (descriptor : Nat) (connection : Connection) (target : List Part)

/-- A command. -/
inductive Command where
  | simple (line : Nat) (assignments : List (Bytes × List Part)) (words : List (List Part))
      (redirections : List Redirection)
  | sequence (commands : List Command)
  | subshell (line : Nat) (commands : List Command)
  | pipeline (commands : List Command)
  /-- A command that is not waited for. -/
  | background (command : Command)
  | negated (command : Command)
  | andThen (first second : Command)
  | orElse (first second : Command)
  | branch (test whenTrue whenFalse : List Command)
  /-- The body is run while the status of the test is the one that is asked for. -/
  | loop (onSuccess : Bool) (test body : List Command)
  | forEach (line : Nat) (name : Bytes) (words : Option (List (List Part))) (body : List Command)
  | choice (line : Nat) (word : List Part) (cases : List (List (List Part) × List Command))
  | define (name : Bytes) (body : Command)
  | redirected (line : Nat) (command : Command) (redirections : List Redirection)

end

instance : Inhabited Part := ⟨.nothing⟩
instance : Inhabited Command := ⟨.sequence []⟩

/-- A word before its expansion. -/
abbrev Word := List Part

/-- A script. -/
abbrev Script := List Command

end TokenConformance.Sandbox.Shell
