import TokenConformance.Sandbox.Shell.Running

/-! # What runs at the same time

* `Thread`: a shell that has paused or has not started yet.
* `Stage`: all that is going on.
* `Stage.next`: the shell whose turn it is, and those that wait on.
* `Stage.run`: lets the shells take turns until the first one has ended and nobody can write any more.
* `run`: a program in a tree of files.
-/

namespace TokenConformance.Sandbox.Shell

open Sandbox.Text (Bytes)
open Sandbox (FileTree)

/-- What a program comes to. -/
abbrev Result := Except SystemError Nat

/-- A shell that has paused or has not started yet. -/
structure Thread where
  number : Nat
  context : Context
  /-- The time at which it goes on, if nothing else happens before. -/
  time : Option Nat
  isOver : Machine → Bool
  rest : Action Result

namespace Thread

/-- What has not started yet. -/
def ofStart (s : Start) : Thread :=
  { number := s.number
    context := s.context
    time := none
    isOver := fun _ => true
    rest := do
      toItsEnd outermost (outermost.one s.command)
      return .ok (← get).status }

/-- The machine when it is a shell's turn. -/
def resumed (t : Thread) (m : Machine) : Machine := { m with toContext := t.context }

/-- The signal that ends a shell while it has paused, if there is one. -/
def fatal? (t : Thread) (m : Machine) : Option Nat :=
  let m := t.resumed m
  if t.context.own = t.number then
    (m.signals.find? fun s => s.1 = t.number && m.isDeadly s.2).map (·.2)
  else none

/-- Whether a shell need not wait any longer, whatever the time is. -/
def isReady (t : Thread) (m : Machine) : Bool := t.isOver (t.resumed m) || (t.fatal? m).isSome

/-- Goes on with a shell. -/
def proceed (t : Thread) (m : Machine) : Turn Jump Machine Result :=
  match t.fatal? m with
  | some signal => .done (.error (.killed signal)) (t.resumed m)
  | none => t.rest (t.resumed (m.later (t.time.getD 0)))

end Thread

/-- All that is going on. -/
structure Stage where
  threads : List Thread
  machine : Machine
  /-- What the first shell has come to. -/
  result : Option (Except Jump Result)

namespace Stage

/-- The channels from which somebody reads in the end. -/
def outputs : List Nat := [0, 1]

/-- What goes on when all that starts has started. Once the first shell has ended, only those that can
write something go on. -/
def started (s : Stage) : Stage :=
  let threads := s.threads ++ s.machine.starts.map Thread.ofStart
  let m := { s.machine with starts := [] }
  let canWrite (t : Thread) : Bool :=
    m.running.any fun p => p.number = t.number && outputs.any p.has
  { s with threads := if s.result.isSome then threads.filter canWrite else threads, machine := m }

/-- Takes the first element of a kind out of a list. -/
def takeFirst? {α : Type} (isMeant : α → Bool) : List α → Option (α × List α)
  | [] => none
  | a :: rest =>
    if isMeant a then some (a, rest)
    else (takeFirst? isMeant rest).map fun (found, others) => (found, a :: others)

/-- The shell whose turn it is, and the others. -/
def next? (s : Stage) : Option (Thread × List Thread) :=
  let first? := (s.threads.filterMap Thread.time).min?
  let isFirst (t : Thread) : Bool := first?.isSome && t.time = first?
  (takeFirst? (fun t => t.isReady s.machine) s.threads).or
    ((takeFirst? isFirst s.threads).or (takeFirst? (fun _ => true) s.threads))

/-- What goes on after it has been the turn of a shell. -/
def after (s : Stage) (number : Nat) (others : List Thread) : Turn Jump Machine Result → Stage
  | .paused time isOver m rest =>
    let last := m.descriptors.map (·.2)
    let m := { m with
      running := m.running.map fun p => if p.number = number then { p with last } else p }
    { s with threads := others ++ [⟨number, m.toContext, time, isOver, rest⟩], machine := m }
  | .done result m =>
    let ending : Finish := match result with
      | .error (.killed signal) => .killed signal
      | .error .brokenPipe => .killed 13
      | .ok (.ok status) => .exited status
      | _ => .exited m.status
    let m : Machine := { m with
      running := m.running.filter fun p => p.number ≠ number
      endings := (number, ending) :: m.endings
      signals := m.signals.filter fun s => s.1 ≠ number }
    let isOwner (j : Job) : Bool := j.number = number
    let m := others.foldl (fun (m : Machine) (t : Thread) =>
      let hasAction := ((t.context.traps.lookup endSignal).getD []) ≠ []
      if hasAction && t.context.jobs.any isOwner then m.signalled t.context.own endSignal else m) m
    { threads := others
      machine := m
      result := if number = firstProcess then some result else s.result }

/-- Lets the shells take turns. The number bounds how often. -/
def run : Nat → Stage → Stage
  | 0, s => s
  | n + 1, s =>
    let s := s.started
    match s.next? with
    | none => s
    | some (t, others) => run n (s.after t.number others (t.proceed s.machine))

end Stage

/-- How often shells may take turns. -/
def mostTurns : Nat := 100000000

/-- What a program leaves behind. -/
structure Outcome where
  /-- The exit status, or nothing when a signal has ended the program. -/
  status : Option Nat
  output : Bytes
  errors : Bytes
  files : FileTree

/-- Runs a program by a name with its arguments in a tree of files, with some variables. -/
def run (files : FileTree) (given : List (Bytes × Bytes)) (name : Bytes) (arguments : List Bytes) :
    Except SystemError Outcome :=
  let whole : Action Result := do
    let m ← get
    match if name = [] then .error .notFound else programPath m name with
    | .error e => return .error e
    | .ok path => startProgram outermost false mostScripts path name arguments
  let m := Machine.start files given
  let first : Thread := ⟨m.own, m.toContext, none, fun _ => true, whole⟩
  let s := Stage.run mostTurns ⟨[first], m, none⟩
  let m := s.machine
  let outcome (status : Option Nat) : Outcome := ⟨status, m.outputOf 0, m.outputOf 1, m.files⟩
  match s.result with
  | some (.ok (.ok status)) => .ok (outcome (some status))
  | some (.ok (.error e)) => .error e
  | _ => .ok (outcome none)

end TokenConformance.Sandbox.Shell
