import TokenConformance.Sandbox.Shell.Syntax

/-! # Faults of scripts

* `Reason`, `Fault`: why a script cannot be read, and what had not been read yet.
* `Reader`: reads something at the start of a text.
* `Reason.message`: the text of a reason.
* `lineMark`, `lostMark`, `endMark`, `aliasMark`: what stands for a line that has been read before its
  turn, for one that is not counted, and for the end of a document or an alias.
* `lineAt`, `Fault.inText`: the number of a line.
-/

namespace TokenConformance.Sandbox.Shell

open Sandbox.Text (Bytes)

/-- Why a script cannot be read. -/
inductive Reason where
  | unexpected (token : String) (expected : Option String)
  | openQuote
  | openBackquote
  | openBrace
  | openArithmetic
  | loopVariable
  | functionName
  /-- The script is nested deeper than the reader can follow. -/
  | tooDeep
deriving DecidableEq, Inhabited

/-- A fault with the text that follows it, and the number of its line if that is known already. -/
structure Fault where
  reason : Reason
  rest : Bytes
  line : Option Nat
deriving DecidableEq, Inhabited

/-- Reads something at the start of a text. -/
abbrev Reader (α : Type) := Bytes → Except Fault (α × Bytes)

/-- The text of a reason. -/
def Reason.message : Reason → String
  | unexpected token none => token ++ " unexpected"
  | unexpected token (some expected) => token ++ " unexpected (expecting " ++ expected ++ ")"
  | openQuote => "Unterminated quoted string"
  | openBackquote => "EOF in backquote substitution"
  | openBrace => "Missing '\x7d'"
  | openArithmetic => "Missing '))'"
  | loopVariable => "Bad for loop variable"
  | functionName => "Bad function name"
  | tooDeep => "Too deep"

/-- What stands at the start of a line for a line before it that has been read already. No byte is
written like this. -/
def lineMark : Char := Char.ofNat 256

/-- What stands at the end of a text for every line end in it that has been read without being
counted. -/
def lostMark : Char := Char.ofNat 257

/-- What stands where a document ends. -/
def endMark : Char := Char.ofNat 258

/-- The marks at the end of a text. -/
def lostMarks (text : Bytes) : Bytes := text.filter (· = lostMark)

/-- Whether a text has come to its end. -/
def isFinished (text : Bytes) : Bool := text.head?.all (· = lostMark)

/-- What stands where the text of an alias ends. Its number tells which alias that is, and whether the
next word may be one too. -/
def aliasMark (i : Nat) (goesOn : Bool) : Char := Char.ofNat (512 + 2 * i + if goesOn then 1 else 0)

/-- Whether a character is such a mark. -/
def isAliasMark (c : Char) : Bool := 512 ≤ c.toNat

/-- Whether the next word after such a mark may be an alias. -/
def isOpenMark (c : Char) : Bool := isAliasMark c && c.toNat % 2 = 1

/-- The number of line ends in a text. -/
def lineEnds (text : Bytes) : Nat := text.count '\n' + text.count lineMark + text.count lostMark

/-- The number of the line at which a text stands that is the rest of a longer one. -/
def lineAt (whole : Nat) (rest : Bytes) : Nat := 1 + whole - lineEnds rest

/-- The number of the line of a fault in a text with a number of line ends. -/
def Fault.lineIn (f : Fault) (whole : Nat) : Nat := f.line.getD (lineAt whole f.rest)

/-- A fault whose line is known by its place in a text. -/
def Fault.inText (f : Fault) (whole : Nat) : Fault := { f with line := some (f.lineIn whole) }

end TokenConformance.Sandbox.Shell
