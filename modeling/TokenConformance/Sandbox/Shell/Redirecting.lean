import TokenConformance.Sandbox.Shell.Expansion

/-! # Redirections at work

* `openTarget`: opens the file at a path for a redirection.
* `redirect`: connects a descriptor as a redirection says.
* `withRedirections`: does something with descriptors that are connected otherwise meanwhile.
-/

namespace TokenConformance.Sandbox.Shell

open Sandbox.Text (Bytes)

/-- The message about a file that cannot be opened. -/
def openFault (path : Bytes) (isCreated : Bool) (e : SystemError) : Bytes :=
  let reason :=
    if e = .notFound || e = .notADirectory then
      (if isCreated then "Directory nonexistent" else "No such file").toList
    else describe e
  (if isCreated then "cannot create " else "cannot open ").toList ++ path ++ ": ".toList ++ reason

/-- How a file is opened for a redirection. -/
def Connection.opening (m : Machine) (path : Bytes) : Connection → Opening
  | .reading | .duplicate | .document => .reading
  | .appending => .appending
  | .updating => .updating
  | .replacing => .writing
  | .writing =>
    let isFile := match m.kind? path with
      | some (.file _) | some (.program _) => true
      | _ => false
    if m.options.keepsFiles && isFile then .creating else .writing

/-- Opens the file at a path, or tells why that is not possible. -/
def openTarget (connection : Connection) (path : Bytes) : Action (Option Nat) := do
  match ← openPath (connection.opening (← get) path) path with
  | .ok channel => return some channel
  | .error e =>
    report (openFault path (connection ≠ .reading) e)
    return none

/-- The descriptor that a redirection is about. -/
def descriptorOf : Redirection → Nat
  | .mk descriptor _ _ => descriptor

section

variable (capture : Capture) (n : Nat)

/-- Connects a descriptor as a redirection says, and tells whether that was possible. -/
def redirect : Redirection → Action Bool
  | .mk descriptor .document target => do
    match ← attempt (expandDocument capture n target) with
    | .ok text =>
      connect descriptor (some (← openChannel (.ofText text)))
      return true
    | .error .failed => return false
    | .error j => throw j
  | .mk descriptor connection target => do
    let text ← expandText capture n target
    match connection with
    | .duplicate =>
      if text = ['-'] then
        connect descriptor none
        return true
      else
        let m ← get
        match if text.length = 1 then (digitsValue? text).map m.channel? else none with
        | some (some c) =>
          connect descriptor (some c)
          return true
        | some none =>
          report (text ++ ": Bad file descriptor".toList)
          return false
        | none => do
          modify fun m => { m with line := m.readTo }
          abort "Syntax error: Bad fd number".toList
    | _ =>
      match ← openTarget connection text with
      | some c =>
        connect descriptor (some c)
        return true
      | none => return false

/-- Connects descriptors one after another, as far as that is possible. -/
def redirectAll : List Redirection → Action Bool
  | [] => return true
  | r :: rest => do
    if ← redirect capture n r then redirectAll rest else return false

/-- Does something with descriptors that are connected otherwise meanwhile. The status is 2 when
they cannot be. -/
def withRedirections (rs : List Redirection) (a : Action Unit) : Action Bool := do
  let before := (← get).descriptors
  let result ← attempt do
    if ← redirectAll capture n rs then
      a
      return true
    else
      setStatus 2
      return false
  for d in rs.map descriptorOf do
    connect d (before.lookup d)
  match result with
  | .ok isDone => return isDone
  | .error j => throw j

end

end TokenConformance.Sandbox.Shell
