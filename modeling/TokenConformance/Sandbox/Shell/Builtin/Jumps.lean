import TokenConformance.Sandbox.Shell.Builtin.Basic
import TokenConformance.Sandbox.Shell.Redirecting

/-! # Commands of the shell that lead elsewhere

* `leave`, `leaveFunction`, `leaveLoops`: end the shell, a function, or loops.
* `eval`, `dot`: run a text or a file as a script.
-/

namespace TokenConformance.Sandbox.Shell.Builtin

open Sandbox.Text (Bytes)

/-- Ends the shell. -/
def leave : Builtin := fun arguments => do
  match arguments with
  | [] => throw .leave
  | n :: _ =>
    setStatus ((← numberArgument n) % 256)
    throw .leave

/-- Ends a function. -/
def leaveFunction : Builtin := fun arguments => do
  match arguments with
  | [] => throw .endFunction
  | n :: _ =>
    setStatus (← numberArgument n)
    throw .endFunction

/-- Leaves loops, or goes on with their next round. -/
def leaveLoops (jump : Nat → Jump) : Builtin := fun arguments => do
  let levels ← match arguments with
    | [] => pure 1
    | n :: _ => numberArgument n
  if levels = 0 then
    abort ("Illegal number: ".toList ++ arguments.headD [])
  let m ← get
  if m.loops = 0 then return 0
  setStatus 0
  throw (jump (min levels m.loops))

/-! ## Commands that are given as texts -/

/-- Runs its arguments as a script. -/
def eval (run : Bytes → Action Unit) : Builtin := fun arguments => do
  let text := Bytes.joined [' '] (if arguments.head? = some ['-', '-'] then arguments.drop 1
    else arguments)
  let m ← get
  if text.all fun c => c ∈ [' ', '\t', '\n'] then return 0
  modify fun m => { m with line := 1 }
  run text
  modify fun after => { after with line := m.line }
  return (← get).status

/-- The path of a file of commands. A name without a slash is looked up where programs are. -/
def scriptPath? (m : Machine) (path : Bytes) : Option Bytes :=
  if '/' ∈ path then some path
  else
    let directories := ((m.lookup? "PATH".toList).getD []).splitOn ':'
    let candidates := directories.map fun d => if d = [] then path else d ++ '/' :: path
    candidates.find? fun p => m.fileTest 'f' p

/-- Runs a file as a script. -/
def dot (run : Bytes → Action Unit) : Builtin := fun arguments => do
  match if arguments.head? = some ['-', '-'] then arguments.drop 1 else arguments with
  | [] => return 0
  | name :: _ =>
    let m ← get
    match scriptPath? m name with
    | none => abort (name ++ ": not found".toList)
    | some path =>
      match ← readPath path with
      | .error .isADirectory => return 0
      | .error e => abort (openFault path false e)
      | .ok text =>
        modify fun m => { m with command := some path, line := 1, status := 0 }
        let result ← attempt (run text)
        modify fun after =>
          { after with line := m.line, command := m.command }
        match result with
        | .error .endFunction | .ok () => return (← get).status
        | .error j => throw j

end TokenConformance.Sandbox.Shell.Builtin
