import TokenConformance.Sandbox.Shell.Builtin.Aliases
import TokenConformance.Sandbox.Shell.Builtin.Basic
import TokenConformance.Sandbox.Shell.Builtin.Jumps
import TokenConformance.Sandbox.Shell.Builtin.Parameters
import TokenConformance.Sandbox.Shell.Builtin.Places
import TokenConformance.Sandbox.Shell.Builtin.Signals
import TokenConformance.Sandbox.Shell.Commands
import TokenConformance.Sandbox.Shell.Programs

/-! # The commands of the shell itself

* `special?`, `regular?`: the command that a name stands for. A special one keeps the assignments
  before it and ends the shell when it fails.
* `Meaning`, `Machine.meaning?`: what a name means.
* `typeOf`, `whereIs`: tell what names mean and what stands for them.
-/

namespace TokenConformance.Sandbox.Shell

open Sandbox.Text (Bytes)

/-- A command that has a status and does nothing else. -/
def silent (status : Nat) : Builtin := fun _ => pure status

/-- The special command that a name stands for. It may run texts as scripts. -/
def special? (run : Bytes → Action Unit) (name : Bytes) : Option Builtin :=
  match String.ofList name with
  | ":" => some (silent 0)
  | "." => some (Builtin.dot run)
  | "break" => some (Builtin.leaveLoops .endLoop)
  | "continue" => some (Builtin.leaveLoops .nextRound)
  | "eval" => some (Builtin.eval run)
  | "exit" => some Builtin.leave
  | "export" => some Builtin.exportNames
  | "local" => some Builtin.localNames
  | "readonly" => some Builtin.protectNames
  | "return" => some Builtin.leaveFunction
  | "set" => some Builtin.setParameters
  | "shift" => some Builtin.shift
  | "times" =>
    let line := "0m0.000000s 0m0.000000s".toList
    some fun _ => Builtin.output (Bytes.ofLines [line, line])
  | "trap" => some Builtin.trap
  | "unset" => some Builtin.unsetNames
  | _ => none

/-- The commands of the shell that run others or tell about them. -/
def extraNames : List String := ["command", "exec", "type", "hash"]

/-- The other command of the shell itself that a name stands for. -/
def regular? (name : Bytes) : Option Builtin :=
  match String.ofList name with
  | "[" => some Builtin.bracket
  | "alias" => some Builtin.setAlias
  | "bg" | "fg" => some fun _ => abort "No current job".toList
  | "cd" | "chdir" => some Builtin.cd
  | "echo" => some Builtin.echo
  | "false" => some (silent 1)
  | "getopts" => some Builtin.nextOption
  | "jobs" => some Builtin.jobs
  | "kill" => some Builtin.kill
  | "printf" => some Builtin.printf
  | "pwd" => some Builtin.pwd
  | "read" => some Builtin.read
  | "test" => some Builtin.test
  | "true" => some (silent 0)
  | "ulimit" => some fun arguments =>
    if arguments = [] || arguments = [['-', 'f']] then Builtin.output "unlimited\n".toList
    else pure 0
  | "umask" => some Builtin.umask
  | "unalias" => some Builtin.unalias
  | "wait" => some Builtin.wait
  | _ => none

/-! ## Meanings -/

/-- What a name means. -/
inductive Meaning where
  | keyword
  | aliased (text : Bytes)
  | special
  | function
  | builtin
  | tracked (path : Bytes)
  | program (path : Bytes)
deriving DecidableEq, Inhabited

/-- Whether a name is one of a special command. -/
def isSpecialName (name : Bytes) : Bool := (special? (fun _ => pure ()) name).isSome

/-- Whether a name is one of a command of the shell itself. -/
def isBuiltin (name : Bytes) : Bool :=
  isSpecialName name || (regular? name).isSome || extraNames.any fun s => s.toList = name

/-- What a name means, if it means anything. -/
def Machine.meaning? (m : Machine) (name : Bytes) : Option Meaning :=
  if keywords.any fun s => s.toList = name then some .keyword
  else
    match m.aliases.lookup name with
    | some text => some (.aliased text)
    | none =>
      if isSpecialName name || name = "exec".toList then some .special
      else if (m.functions.lookup name).isSome then some .function
      else if isBuiltin name then some .builtin
      else if '/' ∈ name then (m.kind? name).map fun _ => .program name
      else
        match m.tracked.lookup name, (programPath m name).toOption with
        | some t, _ => some (.tracked t.path)
        | none, some path => some (.program path)
        | none, none => none

/-- What is said about the meaning of a name. -/
def Meaning.sentence (name : Bytes) : Option Meaning → Bytes
  | some .keyword => name ++ " is a shell keyword".toList
  | some (.aliased text) => name ++ " is an alias for ".toList ++ text
  | some .special => name ++ " is a special shell builtin".toList
  | some .function => name ++ " is a shell function".toList
  | some .builtin => name ++ " is a shell builtin".toList
  | some (.tracked path) => name ++ " is a tracked alias for ".toList ++ path
  | some (.program path) => name ++ " is ".toList ++ path
  | none => name ++ ": not found".toList

/-- Finds out what a name means. The shell remembers where a program is. -/
def lookedUp (name : Bytes) : Action (Option Meaning) := do
  let meaning := (← get).meaning? name
  match meaning with
  | some (.program path) =>
    if '/' ∉ name then
      modify fun m => { m with tracked := rebound name (some ⟨path, false⟩) m.tracked }
  | _ => pure ()
  return meaning

/-- Tells what names mean. -/
def typeOf : Builtin := fun names => do
  let mut status := 0
  for name in names do
    let meaning ← lookedUp name
    let _ ← Builtin.output (Meaning.sentence name meaning ++ ['\n'])
    if meaning.isNone then status := 127
  return status

/-- Tells what stands for a name. -/
def whereIs : Builtin := fun names => do
  match names with
  | [] => return 0
  | name :: _ =>
    match ← lookedUp name with
    | some (.aliased text) =>
      Builtin.output ("alias ".toList ++ Builtin.aliasText (name, text) ++ ['\n'])
    | some (.program path) | some (.tracked path) => Builtin.output (path ++ ['\n'])
    | some _ => Builtin.output (name ++ ['\n'])
    | none => return 127

end TokenConformance.Sandbox.Shell
