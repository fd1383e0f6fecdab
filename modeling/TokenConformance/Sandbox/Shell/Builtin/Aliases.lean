import TokenConformance.Sandbox.Shell.Builtin.Basic

/-! # Commands of the shell for names

* `setAlias`, `unalias`: texts that stand for the first word of a command.
* `hash`: the programs that have been looked up.
-/

namespace TokenConformance.Sandbox.Shell.Builtin

open Sandbox.Text (Bytes)

/-- What is shown of an alias. -/
def aliasText (a : Bytes × Bytes) : Bytes := a.1 ++ '=' :: quoted a.2

/-- Sets aliases or shows them. -/
def setAlias : Builtin := fun arguments => do
  if arguments = [] then
    return ← output (Bytes.ofLines ((byShelf shelfCount (← get).aliases).map aliasText))
  let mut status := 0
  for argument in arguments do
    let m ← get
    let name := argument.takeWhile (· ≠ '=')
    match if name = [] then [] else argument.drop name.length with
    | _ :: value =>
      set { m with aliases := rebound name (some value) m.aliases }
    | [] =>
      match m.aliases.lookup argument with
      | some value => let _ ← output (aliasText (argument, value) ++ ['\n'])
      | none =>
        complain ("alias: ".toList ++ argument ++ " not found".toList)
        status := 1
  return status

/-- Forgets aliases. -/
def unalias : Builtin := fun arguments => withLetters "a" arguments fun letters operands => do
  if letters ≠ [] then
    modify fun m => { m with aliases := [] }
    return 0
  let mut status := 0
  for name in operands do
    if ((← get).aliases.lookup name).isNone then
      complain ("unalias: ".toList ++ name ++ " not found".toList)
      status := 1
    modify fun m => { m with aliases := m.aliases.filter fun a => a.1 ≠ name }
  return status

/-- Shows the programs that have been looked up, or forgets them. `path?` looks a program up, and
`isOwn` tells the commands of the shell. -/
def hash (isOwn : Bytes → Bool) (path? : Bytes → Option Bytes) : Builtin := fun arguments =>
  withLetters "rv" arguments fun letters operands => do
    let m ← get
    if 'r' ∈ letters then
      set { m with tracked := [] }
      return 0
    if operands = [] then
      let line (t : Bytes × Tracked) : Bytes := t.2.path ++ if t.2.isDoubtful then ['*'] else []
      return ← output (Bytes.ofLines ((byShelf programShelfCount m.tracked).map line))
    let mut status := 0
    for name in operands do
      match path? name with
      | some path =>
        modify fun m =>
          { m with tracked := m.tracked.filter (fun t => t.1 ≠ name) ++ [(name, ⟨path, false⟩)] }
      | none =>
        if !isOwn name then
          report (name ++ ": not found".toList)
          status := 1
    return status

end TokenConformance.Sandbox.Shell.Builtin
