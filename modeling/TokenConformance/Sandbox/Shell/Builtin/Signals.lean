import TokenConformance.Sandbox.Shell.Builtin.Basic

/-! # Commands of the shell for signals

* `signalNames`, `signalNumber?`: the signals and their names.
* `signalText`: what is said about a program that a signal has ended.
* `receive`, `kill`: what a signal does, and the command that sends one.
* `wait`, `jobs`: the commands that are not waited for.
* `trap`: sets what is done at a signal or at the end.
-/

namespace TokenConformance.Sandbox.Shell.Builtin

open Sandbox.Text (Bytes)

/-! ## Signals -/

/-- The names of the signals in the order of their numbers. -/
def signalNames : List String :=
  ["EXIT", "HUP", "INT", "QUIT", "ILL", "TRAP", "ABRT", "BUS", "FPE", "KILL", "USR1", "SEGV",
    "USR2", "PIPE", "ALRM", "TERM", "16", "CHLD", "CONT", "STOP", "TSTP", "TTIN", "TTOU", "URG",
    "XCPU", "XFSZ", "VTALRM", "PROF", "WINCH", "IO", "PWR", "SYS", "32", "33", "RTMIN"] ++
    (List.range 15).map (fun i => "RTMIN+" ++ toString (i + 1)) ++
    (List.range 14).map (fun i => "RTMAX-" ++ toString (14 - i)) ++ ["RTMAX"]

/-- The name of a signal. -/
def signalName (number : Nat) : Bytes := (signalNames.getD number "").toList

/-- The number of the signal that a name or a number stands for. The name of the end of the shell
counts only if that is wanted. -/
def signalNumber? (takesEnd : Bool) (text : Bytes) : Option Nat :=
  match digitsValue? text with
  | some n => if n < signalNames.length then some n else none
  | none =>
    let i := signalNames.findIdx fun s => s.toList = text.map Char.toUpper
    if i < signalNames.length && (takesEnd || 0 < i) then some i else none

/-- What is said about a program that a signal has ended. -/
def signalText (number : Nat) : String :=
  match number with
  | 1 => "Hangup"
  | 3 => "Quit"
  | 4 => "Illegal instruction"
  | 5 => "Trace/breakpoint trap"
  | 6 => "Aborted"
  | 7 => "Bus error"
  | 8 => "Floating point exception"
  | 9 => "Killed"
  | 10 => "User defined signal 1"
  | 11 => "Segmentation fault"
  | 12 => "User defined signal 2"
  | 14 => "Alarm clock"
  | 15 => "Terminated"
  | 16 => "Stack fault"
  | 24 => "CPU time limit exceeded"
  | 25 => "File size limit exceeded"
  | 26 => "Virtual timer expired"
  | 27 => "Profiling timer expired"
  | 29 => "I/O possible"
  | 30 => "Power failure"
  | 31 => "Bad system call"
  | n => if n < 32 then "" else "Real-time signal " ++ toString (n - 34)

/-- Says that a signal has ended a program. Some signals are not worth a word. -/
def announce (signal : Nat) : Action Unit := do
  if signal ≠ 2 && signal ≠ 13 then complain (signalText signal).toList

/-- What a shell does when it gets a signal. -/
def receive (run : Bytes → Action Unit) (signal : Nat) : Action Unit := do
  let m ← get
  if m.isDeadly signal then throw (.killed signal)
  match if signal ∈ m.ignored then none else m.traps.lookup signal with
  | some action =>
    if action ≠ [] then
      run action
      setStatus m.status
  | none => return ()

/-- Takes the signals that have come to a shell, in the order of their numbers. -/
def receiveAll (run : Bytes → Action Unit) : Action Unit := do
  let m ← get
  if m.signals ≠ [] then
    let (own, others) := m.signals.partition fun s => s.1 = m.own
    set { m with signals := others }
    for (_, signal) in own.mergeSort fun a b => a.2 ≤ b.2 do
      receive run signal

/-! ## Sending -/

/-- What is said about the arguments of `kill`. -/
def killUsage : Bytes :=
  ("Usage: kill [-s sigspec | -signum | -sigspec] [pid | job]... or\n" ++
    "kill -l [exitstatus]").toList

/-- What is asked of `kill`. -/
structure Sending where
  signal : Option Nat
  isList : Bool
  targets : List Bytes

/-- Reads the arguments of `kill`. The number bounds how many there are. -/
def sendingOf : Nat → Sending → List Bytes → Except Bytes Sending
  | 0, s, targets => .ok { s with targets }
  | _, s, [] => .ok { s with targets := [] }
  | n + 1, s, argument :: rest =>
    let named (name : Bytes) (rest : List Bytes) : Except Bytes Sending :=
      match signalNumber? false name with
      | some signal => sendingOf n { s with signal := some signal } rest
      | none => .error ("invalid signal number or name: ".toList ++ name)
    match argument with
    | ['-', '-'] => .ok { s with targets := rest }
    | '-' :: 'l' :: _ => sendingOf n { s with isList := true } rest
    | ['-', 's'] =>
      match rest with
      | [] => .error "No arg for -s option".toList
      | name :: rest => named name rest
    | '-' :: 's' :: name => named name rest
    | '-' :: c :: _ => .error ("Illegal option -".toList ++ [c])
    | _ => .ok { s with targets := argument :: rest }

/-- What the arguments of `kill` ask for. -/
def killArguments (arguments : List Bytes) : Except Bytes Sending :=
  let signal? := match arguments with
    | ('-' :: name) :: _ => signalNumber? false name
    | _ => none
  match signal? with
  | some signal => .ok ⟨some signal, false, arguments.drop 1⟩
  | none => sendingOf (arguments.length + 1) ⟨none, false, []⟩ arguments

/-- The command that a text such as `%1` stands for. -/
def jobNamed? (m : Machine) (text : Bytes) : Option Job :=
  let known := (m.jobs.filter fun j => j.slot.isSome).reverse
  match text with
  | ['%'] | ['%', '%'] | ['%', '+'] => known.head?
  | ['%', '-'] => known[1]?
  | '%' :: digits => (digitsValue? digits).bind fun n => m.jobs.find? fun j => j.slot = some n
  | _ => none

/-- The numbers of processes around the first shell. -/
def strangers : List Nat := [1, firstProcess - 1]

/-- Sends a signal to the process with a number, and tells whether there is one. -/
def send (signal : Nat) (target : Int) : Action Bool := do
  let m ← get
  let number := if target = 0 then m.own else target.natAbs
  if number = m.own then
    if m.isDeadly signal then throw (.killed signal)
    else if signal ≠ 0 then modify fun m => m.signalled number signal
    return true
  else if number ∈ m.outer || m.running.any fun p => p.number = number then
    if signal ≠ 0 then modify fun m => m.signalled number signal
    return true
  else return number ∈ strangers

/-- Sends a signal, or tells the names of signals. -/
def kill : Builtin := fun arguments => do
  match killArguments arguments with
  | .error text => abort text
  | .ok s =>
    if s.isList then
      match s.targets with
      | [] => output (Bytes.ofLines (['0'] :: (signalNames.drop 1).map String.toList))
      | text :: _ =>
        let number ← numberArgument text
        let signal := if number > 128 then number - 128 else number
        if 0 < signal && signal < signalNames.length then output (signalName signal ++ ['\n'])
        else abort ("invalid signal number or exit status: ".toList ++ text)
    else if s.targets = [] then abort killUsage
    else
      let mut status := 0
      for target in s.targets do
        let number : Int ← match target with
          | '%' :: _ =>
            match jobNamed? (← get) target with
            | some j => do pure ((j.number : Nat) : Int)
            | none => abort ("No such job: ".toList ++ target)
          | '-' :: digits => do pure (-((← numberArgument digits : Nat) : Int))
          | _ => do pure ((← numberArgument target : Nat) : Int)
        if !(← send (s.signal.getD 15) number) then
          report "No such process\n".toList
          status := 1
      return status

/-! ## Commands that are not waited for -/

/-- Waits for commands, and gives the status of the last one. A signal ends that. -/
def wait : Builtin := fun arguments => do
  let hasEnded (m : Machine) (number : Nat) : Bool := (m.ending? number).isSome
  let signals (m : Machine) : List Nat := (m.signals.filter fun s => s.1 = m.own).map (·.2)
  let close (number : Nat) : Action Unit := modify fun m =>
    { m with jobs := m.jobs.map fun j =>
        if j.number = number then { j with isNoticed := true, isAwaited := true } else j }
  let untilEnded (numbers : List Nat) : Action (Option Nat) := do
    pauseUntil fun m => numbers.all (hasEnded m) || signals m ≠ []
    return (signals (← get)).getLast?.map (128 + ·)
  match arguments with
  | [] => do
    match ← untilEnded ((← get).jobs.map Job.number) with
    | some status => return status
    | none => do
      for j in (← get).jobs do
        close j.number
      return 0
  | _ => do
    let mut status := 0
    for argument in arguments do
      let m ← get
      let job? : Option Job ← match argument with
        | '%' :: _ =>
          match jobNamed? m argument with
          | some j => pure (some j)
          | none => abort ("No such job: ".toList ++ argument)
        | _ => do
          let number ← numberArgument argument
          pure (m.jobs.find? fun j => j.number = number && j.slot.isSome)
      match job? with
      | none => status := 127
      | some j =>
        if let some interrupted ← untilEnded [j.number] then return interrupted
        close j.number
        match (← get).ending? j.number with
        | some (.killed signal) =>
          if !j.isNoticed then announce signal
          status := 128 + signal
        | some (.exited n) => status := n
        | none => status := 127
    return status

/-- Shows the commands that are not waited for. -/
def jobs : Builtin := fun arguments => withLetters "lp" arguments fun _ _ => do
  let m ← get
  let known := (m.jobs.filter fun j => j.slot.isSome).reverse
  let line (j : Job) (slot : Nat) (mark : Char) : Bytes :=
    let state : String := match m.ending? j.number with
      | none => "Running"
      | some (.exited 0) => "Done"
      | some (.exited n) => "Done(" ++ toString n ++ ")"
      | some (.killed signal) => signalText signal
    let start := '[' :: Bytes.ofInt slot ++ [']', ' ', mark, ' '] ++ state.toList
    start ++ List.replicate (33 - start.length) ' '
  let lines := known.zipIdx.filterMap fun (j, i) =>
    let before := (known.take i).filter fun j => (m.ending? j.number).isNone
    let mark := match before.length with
      | 0 => '+'
      | 1 => '-'
      | _ => ' '
    j.slot.map fun slot => line j slot mark
  let forget (j : Job) : Job :=
    if (m.ending? j.number).isNone then j else { j with slot := none, isNoticed := true }
  set { m with jobs := m.jobs.map forget }
  output (Bytes.ofLines lines)

/-! ## Traps -/

/-- Sets what is done at a signal or at the end. -/
def trap : Builtin := fun arguments => withLetters "" arguments fun _ operands => do
  let m ← get
  match operands with
  | [] =>
    let sorted := m.traps.mergeSort fun a b => a.1 ≤ b.1
    output (Bytes.ofLines (sorted.map fun (signal, action) =>
      "trap -- ".toList ++ quoted action ++ ' ' :: signalName signal))
  | first :: rest =>
    let isReset := rest = [] || (digitsValue? first).isSome
    let names := if isReset then operands else rest
    for name in names do
      match signalNumber? true name with
      | none =>
        complain ("trap: ".toList ++ name ++ ": bad trap".toList)
        return 1
      | some signal =>
        modify fun m =>
          let others := m.traps.filter fun t => t.1 ≠ signal
          { m with traps := if isReset || first = ['-'] then others
              else (signal, first) :: others }
    return 0

end TokenConformance.Sandbox.Shell.Builtin
