import TokenConformance.Sandbox.Shell.Condition
import TokenConformance.Sandbox.Shell.Printing
import TokenConformance.Sandbox.Shell.Pattern
import TokenConformance.Sandbox.Shell.Words

/-! # Commands of the shell for output, tests and input

* `Builtin`: a command of the shell itself.
* `output`, `fault`: what such a command writes.
* `numberArgument`: the number that an argument gives; `quoted` is a value as a shell reads it.
* `echo`, `printf`: write their arguments.
* `test`, `bracket`: decide conditions.
* `lastValue`, `values`: a line as the values of variables.
* `read`: reads a line into variables.
-/

namespace TokenConformance.Sandbox.Shell

open Sandbox.Text (Bytes)

/-- A command of the shell itself. Its exit status is what it returns. -/
abbrev Builtin := List Bytes → Action Nat

namespace Builtin

/-- Writes to the output, and complains if nothing can be written. -/
def output (text : Bytes) : Action Nat := do
  if text = [] then return 0
  if ← write 1 text then return 0
  let m ← get
  report (m.command.getD [] ++ ": I/O error".toList)
  return 1

/-- Complains and goes on with a status. -/
def fault (status : Nat) (text : String) : Action Nat := do
  report text.toList
  return status

/-- The number that an argument gives. -/
def numberArgument (text : Bytes) : Action Nat := do
  if text ≠ [] && text.all Char.isDigit then return digitsValue text
  abort ("Illegal number: ".toList ++ text)

/-- A value in quotes, from which a shell reads it back. -/
def quoted (value : Bytes) : Bytes :=
  let plain := value.takeWhile (· ≠ '\'')
  let marks := (value.drop plain.length).takeWhile (· = '\'')
  let rest := value.drop (plain.length + marks.length)
  let start := '\'' :: plain ++ ['\'']
  if marks = [] then start
  else start ++ '"' :: marks ++ '"' :: if rest = [] then [] else quoted rest
termination_by value.length
decreasing_by
  rename_i hasMarks _
  have isLonger : 0 < marks.length := List.length_pos_iff.mpr hasMarks
  have isIn : marks.length ≤ (value.drop plain.length).length :=
    (List.takeWhile_sublist _).length_le
  change (value.drop (plain.length + marks.length)).length < value.length
  rw [List.length_drop] at isIn ⊢
  omega

/-- The letters of the options at the start of arguments, and the other arguments. -/
def lettersOf : List Bytes → Bytes × List Bytes
  | ['-', '-'] :: rest => ([], rest)
  | ('-' :: c :: cs) :: rest =>
    let (letters, operands) := lettersOf rest
    (c :: cs ++ letters, operands)
  | operands => ([], operands)

/-- Goes on with the options that a command has and its operands. -/
def withLetters (known : String) (arguments : List Bytes)
    (f : Bytes → List Bytes → Action Nat) : Action Nat := do
  let (letters, operands) := lettersOf arguments
  match letters.find? fun c => c ∉ known.toList with
  | some c => abort ("Illegal option -".toList ++ [c])
  | none => f letters operands

/-! ## Output and tests -/

/-- Writes its arguments. -/
def echo : Builtin := fun arguments => output (echoed arguments)

/-- Writes its arguments in a format. -/
def printf : Builtin := fun arguments => do
  match arguments with
  | ['-', '-'] :: [] | [] =>
    let _ ← fault 2 "usage: printf format [arg ...]"
    return 2
  | first :: rest =>
    let (format, rest) := match first, rest with
      | ['-', '-'], f :: rest => (f, rest)
      | _, _ => (first, rest)
    match if first = ['-', '-'] then [] else format with
    | '-' :: c :: _ =>
      report ("Illegal option -".toList ++ [c])
      return 2
    | _ =>
      let p := printAll format (rest.length + 1) ⟨[], rest, [], 0, false⟩
      for message in p.messages do
        report message
      let status ← output p.written.reverse
      return max status p.status

/-- Decides a condition. -/
def test : Builtin := fun arguments => do
  match holds (← get) arguments with
  | .ok true => return 0
  | .ok false => return 1
  | .error message =>
    report message
    return 2

/-- Decides a condition in brackets. -/
def bracket : Builtin := fun arguments =>
  if arguments.getLast? = some [']'] then test arguments.dropLast else fault 2 "missing ]"

/-! ## Input -/

/-- A line in which characters after a backslash are marked. -/
def unquoted : Bytes → Marked
  | '\\' :: c :: rest => (c, true) :: unquoted rest
  | c :: rest => (c, false) :: unquoted rest
  | [] => []

/-- Reads a line that goes on after a backslash at its end. The number bounds how many lines there
are. -/
def longLine (isRaw : Bool) : Nat → Action (Except SystemError Bytes)
  | 0 => return .ok []
  | n + 1 => do
    match ← readLine 0 with
    | .error e => return .error e
    | .ok line =>
      let slashes := (line.reverse.drop 1).takeWhile (· = '\\')
      if !isRaw && line.getLast? = some '\n' && slashes.length % 2 = 1 then
        match ← longLine isRaw n with
        | .ok more => return .ok (line.dropLast.dropLast ++ more)
        | .error e => return .error e
      else return .ok line

/-- Whether a character separates values. -/
def separates (separators : Bytes) (c : Char × Bool) : Bool := !c.2 && c.1 ∈ separators

/-- Whether a character separates values together with others of its kind. -/
def isGap (separators : Bytes) (c : Char × Bool) : Bool :=
  separates separators c && c.1 ∈ [' ', '\t', '\n']

/-- How much of the last value counts when a separator has been found in it, given how much comes
before the text. Nothing after it counts if it is followed by gaps alone, or is a gap that is followed
by one other separator among gaps; and so with the gaps at the end. Marked characters are not looked
at. `cut` is how much would count if nothing followed, and `isAfterGap` says that only gaps have
followed a gap. -/
def lastSize (separators : Bytes) : Nat → Option Nat → Bool → Marked → Nat
  | size, cut, _, [] => cut.getD size
  | size, cut, isAfterGap, c :: rest =>
    if c.2 then lastSize separators (size + 1) cut false rest
    else if isGap separators c then
      lastSize separators (size + 1) (cut.or (some size)) isAfterGap rest
    else if separates separators c && isAfterGap then
      lastSize separators (size + 1) cut false rest
    else lastSize separators (size + 1) none false rest

/-- The last value of a line. -/
def lastValue (separators : Bytes) (line : Marked) : Marked :=
  let start := line.takeWhile fun c => !separates separators c
  match line.drop start.length with
  | [] => line
  | c :: rest =>
    line.take
      (lastSize separators (start.length + 1) (some start.length) (isGap separators c) rest)

/-- A line as the values of variables. The last one gets all that is left. -/
def values (separators : Bytes) : Nat → Marked → List Bytes
  | 0, _ => []
  | n + 1, line =>
    let line := line.dropWhile (isGap separators)
    if n = 0 then [(lastValue separators line).map (·.1)]
    else
      let field := line.takeWhile fun c => !separates separators c
      let rest := (line.drop field.length).dropWhile (isGap separators)
      let rest := match rest with
        | c :: after => if separates separators c then after else rest
        | [] => []
      field.map (·.1) :: values separators n rest

/-- Reads a line into variables. -/
def read : Builtin := fun arguments => do
  let options := arguments.takeWhile fun a => ['-'].isPrefixOf a && a ≠ ['-']
  let names := arguments.drop options.length
  let (options, names) := if options.getLast? = some ['-', 'p'] then (options, names.drop 1)
    else (options, names)
  let isRaw := options.any (List.contains · 'r')
  if let some letter := (options.flatMap (·.drop 1)).find? fun c => c ≠ 'r' && c ≠ 'p' then
    abort ("Illegal option -".toList ++ [letter])
  if names = [] then return ← fault 2 "arg count"
  match ← longLine isRaw 10000 with
  | .error _ => return 1
  | .ok line =>
    let m ← get
    let text := line.filter fun c => c ≠ '\n' && c ≠ '\x00'
    let marked := if isRaw then text.map (·, false) else unquoted text
    let found := values m.separators names.length marked
    for (name, value) in names.zip found do
      if !isName name then
        abort (name.takeWhile (· ≠ '=') ++ ": bad variable name".toList)
      setVariable name value
    return if line.getLast? = some '\n' then 0 else 1

end Builtin

end TokenConformance.Sandbox.Shell
