import TokenConformance.Sandbox.Permissions
import TokenConformance.Sandbox.Shell.Tool.Names

/-! # Where programs put files

* `Machine.newPlace`: the place of something new.
* `Machine.added`: the machine with something new at the end of a path.
* `Transfer`, `Call.withTransfers`: what goes where, as the operands of a program say it.
* `Call.agrees`: asks whether to go on.
* `permissions?`: the permissions that a text gives to something.
-/

namespace TokenConformance.Sandbox.Shell

open Sandbox.Text (Bytes)
open Sandbox (Place Kind FileTree)

/-- The place of something new. Its directory must be there. -/
def Machine.newPlace (m : Machine) (path : Bytes) : Except SystemError Place := do
  let place ← m.findName (Tool.withoutSlashes path)
  if (m.files.number? place).isSome then throw .alreadyThere
  return place

/-- The machine with something new at the end of a path. -/
def Machine.added (m : Machine) (path : Bytes) (kind : Kind) (mode : Nat) :
    Except SystemError Machine := do
  return { m with files := m.files.add (← m.newPlace path) kind mode }

namespace Tool

/-- Does something to the files, if that is possible. -/
def attemptWith (f : Machine → Except SystemError Machine) : Action (Except SystemError Unit) := do
  match f (← get) with
  | .ok m =>
    set m
    return .ok ()
  | .error e => return .error e

/-- The path of something in a directory. -/
def pathIn (directory name : Bytes) : Bytes :=
  if directory = [] then name
  else if directory.getLast? = some '/' then directory ++ name
  else directory ++ '/' :: name

/-- The path in a directory under which something goes there. -/
def pathInto (directory path : Bytes) : Bytes := pathIn directory (baseOf path)

/-- The permissions that a text, of octal digits or letters, gives to something. -/
def permissions? (mask : Nat) (isDirectory : Bool) (text : Bytes) (mode : Nat) : Option Nat :=
  match Sandbox.octal? text with
  | some bits => if bits ≤ 0o7777 then some bits else none
  | none =>
    if text.head?.any Char.isDigit then none
    else Sandbox.modeBySymbols? mask isDirectory text mode

/-- What goes where. -/
structure Transfer where
  source : Bytes
  target : Bytes
deriving DecidableEq, Inhabited

end Tool

namespace Call

open Shell.Tool

/-- Asks whether to go on. -/
def agrees (c : Call) (question : Bytes) : Action Bool := do
  let _ ← write 2 (c.name ++ ": ".toList ++ question ++ "? ".toList)
  let answer := (← readLine 0).toOption.getD []
  return answer.head?.any fun c => c = 'y' || c = 'Y'

/-- The options that say where things go. -/
def transferForms : List OptionForm :=
  [valued 't' "target-directory", flag 'T' "no-target-directory"]

/-- Goes on with what goes where. -/
def withTransfers (c : Call) (g : Given) (f : List Transfer → Action Nat) : Action Nat := do
  let m ← get
  let into (directory : Bytes) (sources : List Bytes) : Action Nat :=
    f (sources.map fun source => ⟨source, pathInto directory source⟩)
  match g.value? "t", g.operands with
  | _, [] => c.misused 1 "missing file operand".toList
  | some directory, sources =>
    if m.isDirectory directory then into directory sources
    else
      let e := match m.nodeOf directory with
        | .ok _ => .notADirectory
        | .error e => e
      c.fail 1 (filled "target directory %: %" [inQuotes directory, describe e])
  | none, [source] =>
    c.misused 1 ("missing destination file operand after ".toList ++ inQuotes source)
  | none, source :: target :: more =>
    if g.has "T" then
      match more with
      | [] => f [⟨source, target⟩]
      | extra :: _ => c.misused 1 ("extra operand ".toList ++ inQuotes extra)
    else
      let last := (target :: more).getLast?.getD []
      if m.isDirectory last then into last g.operands.dropLast
      else if more = [] then f [⟨source, target⟩]
      else
        let e := match m.nodeOf last with
          | .ok _ => .notADirectory
          | .error e => e
        c.fail 1 (filled "target %: %" [inQuotes last, describe e])

end Call

end TokenConformance.Sandbox.Shell
