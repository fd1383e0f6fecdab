import TokenConformance.Sandbox.Permissions
import TokenConformance.Sandbox.Shell.Builtin.Basic

/-! # Commands of the shell for places

* `entered`: the path of a directory that is entered, without steps upwards.
* `cd`, `pwd`: the working directory.
* `umask`: the permissions that new files do not get.
-/

namespace TokenConformance.Sandbox.Shell.Builtin

open Sandbox.Text (Bytes)
open Sandbox (octal? octalDigits modeBySymbols? symbolsOf)

/-! ## The working directory -/

/-- The path of a directory that is entered from another one. A step upwards takes the last name
away. -/
def entered (directory path : Bytes) : Bytes :=
  let start := if Sandbox.isAbsolute path then [] else Sandbox.pathParts directory
  let names := (start ++ Sandbox.pathParts path).foldl
    (fun (names : List Bytes) part =>
      if Sandbox.isIdle part then names
      else if Sandbox.isUpwards part then names.dropLast
      else names ++ [part]) []
  Sandbox.pathOf names

/-- Gives a variable a value that programs get to know. -/
def setExported (name value : Bytes) : Action Unit := do
  setVariable name value
  modify fun m => m.bind name (some { m.binding name with isExported := true })

/-- Enters a directory, if that is possible. The path is kept as it was given unless links count. -/
def enter (isPhysical : Bool) (path : Bytes) : Action Bool := do
  let m ← get
  let target := if isPhysical then path else entered m.directory path
  match m.find target with
  | .ok place =>
    if m.files.isDirectory place then
      let directory := if isPhysical then Sandbox.pathOf place else target
      let tracked := m.tracked.map fun (name, t) => (name, { t with isDoubtful := true })
      set { m with here := place, directory, tracked }
      setExported "OLDPWD".toList m.directory
      setExported "PWD".toList directory
      return true
    else return false
  | .error _ => return false

/-- Whether a path is not looked up in other directories. -/
def isAnchored (path : Bytes) : Bool :=
  match Sandbox.pathParts path with
  | [] => false
  | first :: _ => Sandbox.isAbsolute path || first = ['.'] || first = ['.', '.']

/-- Goes to another directory. -/
def cd : Builtin := fun arguments => withLetters "LP" arguments fun letters operands => do
  let m ← get
  let isPhysical := letters.getLast? = some 'P'
  let (path, isBack) : Bytes × Bool := match operands with
    | [] => ((m.lookup? "HOME".toList).getD [], false)
    | ['-'] :: _ => ((m.lookup? "OLDPWD".toList).getD [], true)
    | path :: _ => (path, false)
  let path' := if path = [] then ['.'] else path
  let around : List Bytes := match m.lookup? "CDPATH".toList with
    | some text => if isAnchored path' then [] else text.splitOn ':'
    | none => []
  let found? := around.find? fun a =>
    m.isDirectory (if a = [] then path' else a ++ '/' :: path')
  let target := match found? with
    | some a => if a = [] then path' else a ++ '/' :: path'
    | none => path'
  if ← enter isPhysical target then
    if isBack || (found?.getD []) ≠ [] then output ((← get).directory ++ ['\n']) else return 0
  else abort ("can't cd to ".toList ++ path)

/-- Writes the working directory. -/
def pwd : Builtin := fun arguments => withLetters "LP" arguments fun letters _ => do
  let m ← get
  output ((if letters.getLast? = some 'P' then Sandbox.pathOf m.here else m.directory) ++ ['\n'])

/-! ## Permissions -/

/-- Shows or sets the permissions that new files do not get. -/
def umask : Builtin := fun arguments => withLetters "S" arguments fun letters operands => do
  let m ← get
  match operands with
  | [] =>
    output ((if letters = [] then octalDigits 4 m.mask else symbolsOf (0o777 - m.mask)) ++ ['\n'])
  | text :: _ =>
    if (text.headD ' ').isDigit then
      match octal? text with
      | some mask =>
        set { m with mask := mask % 512 }
        return 0
      | none => abort ("Illegal number: ".toList ++ text)
    else
      match modeBySymbols? 0 false text (0o777 - m.mask) with
      | some mode =>
        set { m with mask := 0o777 - mode % 512 }
        return 0
      | none => abort ("Illegal mode: ".toList ++ text)

end TokenConformance.Sandbox.Shell.Builtin
