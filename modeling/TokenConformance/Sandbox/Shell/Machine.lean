import TokenConformance.Sandbox.FileTree
import TokenConformance.Sandbox.Shell.Pausing
import TokenConformance.Sandbox.Shell.Syntax

/-! # The state of a running shell

* `Channel`: what a descriptor is connected to.
* `Job`: a command that is not waited for.
* `Binding`, `Options`, `Context`: what one shell has for itself.
* `Start`, `Peer`: a command that is going to run beside others, and one that does; `Finish`: how it
  ends.
* `Machine`: all that commands can change.
* `Jump`: why the rest of a list of commands is not run.
* `Action`: something that a shell or a program does.
* `Machine.isDeadly`, `Machine.later`: signals and time.
* `openPath`: connects a path with a channel.
* `write`, `readAll`, `readLine`: input and output through descriptors.
* `report`, `abort`: messages of the shell itself.
* `Machine.lookup?`, `setVariable`: parameters and their values.
-/

namespace TokenConformance.Sandbox.Shell

open Sandbox.Text (Bytes)
open Sandbox (FileTree Place Node Kind Device)

/-- For what a file is open. -/
structure Access where
  reads : Bool
  writes : Bool
  /-- Whether everything is written at the end. -/
  appends : Bool
deriving DecidableEq, Inhabited

/-- What a descriptor is connected to. -/
inductive Channel where
  /-- A text that is read at its start and written at its end, whose last byte comes first. The size
  of what has been written is counted. -/
  | pipe (unread written : Bytes) (size : Nat)
  /-- A file, which is read and written from some position on. -/
  | file (number position : Nat) (access : Access)
  /-- A pipe with a name. -/
  | namedPipe (number : Nat)
  | directory (place : Place)
  | device (d : Device)
deriving Inhabited

/-- A pipe without anything in it. -/
def Channel.emptyPipe : Channel := .pipe [] [] 0

/-- A pipe with something to read. -/
def Channel.ofText (text : Bytes) : Channel := .pipe text [] 0

/-- What is known about a variable. -/
structure Binding where
  /-- A variable may be exported without having a value. -/
  value : Option Bytes
  isExported : Bool
  isReadOnly : Bool
deriving DecidableEq, Inhabited

/-- What `set` switches on and off. -/
structure Options where
  leavesOnFailure : Bool
  refusesUnset : Bool
  keepsPatterns : Bool
  traces : Bool
  keepsFiles : Bool
  exportsAll : Bool
  runsNothing : Bool
  showsInput : Bool
  /-- The letters of the options that change nothing here. -/
  others : Bytes
deriving DecidableEq, Inhabited

/-- The options that are on when a shell starts. -/
def Options.none : Options := ⟨false, false, false, false, false, false, false, false, []⟩

/-- Where a program has been found. -/
structure Tracked where
  path : Bytes
  /-- Whether it is looked up once more, as the working directory is another one since then. -/
  isDoubtful : Bool
deriving DecidableEq, Inhabited

/-- A command that is not waited for. -/
structure Job where
  /-- The number of the shell that runs it. -/
  number : Nat
  /-- The number by which it is called, unless it has been forgotten. -/
  slot : Option Nat
  /-- Whether it is known already how it has ended. -/
  isNoticed : Bool
  /-- Whether somebody has asked how it has ended. -/
  isAwaited : Bool
deriving DecidableEq, Inhabited

/-- What one shell has for itself. -/
structure Context where
  /-- The number that the shell gives as its own. -/
  process : Nat
  /-- The number of the shell, which is another one if it is inside the shell with that number. -/
  own : Nat
  /-- The numbers of the shells around it, starting with the innermost one. -/
  outer : List Nat
  /-- The number of the outermost one of them that runs beside others. -/
  thread : Nat
  /-- Whether the shell ends with the command that is running, so that a program takes its place. -/
  isLast : Bool
  /-- The channel of every open descriptor. -/
  descriptors : List (Nat × Nat)
  /-- The place of the working directory. -/
  here : Place
  /-- The permissions that new files do not get. -/
  mask : Nat
  /-- The path of the working directory, as it was entered. -/
  directory : Bytes
  name : Bytes
  parameters : List Bytes
  bindings : List (Bytes × Binding)
  functions : List (Bytes × Command)
  aliases : List (Bytes × Bytes)
  /-- The programs that have been looked up. -/
  tracked : List (Bytes × Tracked)
  /-- The actions for signals, and for the end of the shell, which counts as the signal zero. -/
  traps : List (Nat × Bytes)
  /-- The signals that do nothing, whatever is set for them. -/
  ignored : List Nat
  options : Options
  line : Nat
  /-- The line up to which the script has been read. -/
  readTo : Nat
  /-- The command of the shell itself, or the file of commands, that is running. -/
  command : Option Bytes
  status : Nat
  /-- The status of the last command substitution in a command. -/
  captured : Option Nat
  /-- Whether a failure is looked at by another command. -/
  isTested : Bool
  /-- How many loops are running. -/
  loops : Nat
  /-- The next argument that is looked at for options, counted from one. -/
  optionIndex : Nat
  /-- How much of the argument before it has been looked at, if it has more options. -/
  optionOffset : Option Nat
  /-- The number of the last command that the shell does not wait for. -/
  background : Option Nat
  /-- The commands that the shell does not wait for. -/
  jobs : List Job
  /-- What the program that is running has printed and not written yet, the last byte first. -/
  printed : Bytes
  /-- What the variables were before the functions that are running declared them. -/
  saved : List (List (Bytes × Option Binding))
deriving Inhabited

/-- A command that is going to run beside others. -/
structure Start where
  number : Nat
  command : Command
  context : Context
deriving Inhabited

/-- A shell that runs beside others. -/
structure Peer where
  number : Nat
  /-- The channels that it has at its start. -/
  first : List Nat
  /-- The channels that it has had when it last paused. -/
  last : List Nat
deriving DecidableEq, Inhabited

/-- Whether a shell has a channel. -/
def Peer.has (p : Peer) (channel : Nat) : Bool := channel ∈ p.first || channel ∈ p.last

/-- How a command ends that runs as a shell of its own. -/
inductive Finish where
  | exited (status : Nat)
  | killed (signal : Nat)
deriving DecidableEq, Inhabited

/-- All that commands can change. -/
structure Machine extends Context where
  files : FileTree
  channels : Array Channel
  /-- The commands that are going to run beside others. -/
  starts : List Start
  /-- The shells that run beside others or are going to. -/
  running : List Peer
  /-- How such shells have ended. -/
  endings : List (Nat × Finish)
  /-- The signals that have not reached a shell yet, each with the number of the shell. -/
  signals : List (Nat × Nat)
  /-- The last number that a shell has got. -/
  lastProcess : Nat
  /-- The milliseconds since the start. -/
  clock : Nat
deriving Inhabited

/-- Why the rest of a list of commands is not run. -/
inductive Jump where
  | leave
  /-- The shell ends, unless only one of its commands is at fault. -/
  | failed
  | killed (signal : Nat)
  /-- A program ends, as nobody reads what it writes. -/
  | brokenPipe
  /-- A program ends, as it cannot write. -/
  | unwritten (cause : SystemError)
  | endLoop (levels : Nat)
  | nextRound (levels : Nat)
  | endFunction
deriving DecidableEq, Inhabited

/-- Something that a shell or a program does. -/
abbrev Action (α : Type) := Pausing Jump Machine α

/-- Sets the exit status. -/
def setStatus (status : Nat) : Action Unit := modify fun m => { m with status := status }

/-- The number that digits stand for. -/
def digitsValue (digits : Bytes) : Nat :=
  digits.foldl (fun n c => n * 10 + (c.toNat - '0'.toNat)) 0

/-- The number that a text of digits stands for. -/
def digitsValue? (text : Bytes) : Option Nat :=
  if text ≠ [] && text.all Char.isDigit then some (digitsValue text) else none

/-! ## Paths -/

/-- The descriptor that a path of a device stands for. -/
def deviceDescriptor? (path : Bytes) : Option Nat :=
  match String.ofList path with
  | "/dev/stdin" => some 0
  | "/dev/stdout" => some 1
  | "/dev/stderr" => some 2
  | _ =>
    let directories := ["/dev/fd/", "/proc/self/fd/"]
    (directories.find? fun d => d.toList.isPrefixOf path).bind fun d =>
      digitsValue? (path.drop d.length)

/-- The channel of a descriptor. -/
def Machine.channel? (m : Machine) (descriptor : Nat) : Option Nat :=
  m.descriptors.lookup descriptor

/-- What a descriptor is connected to. -/
def Machine.connected? (m : Machine) (descriptor : Nat) : Option Channel :=
  (m.channel? descriptor).bind (m.channels[·]?)

/-- What a channel looks like as a file. -/
def Machine.kindOf (m : Machine) : Channel → Kind
  | .pipe unread _ _ => .pipe unread
  | .file n _ _ => (m.files.nodes.getD n default).kind
  | .namedPipe n => (m.files.nodes.getD n default).kind
  | .directory _ => .directory
  | .device d => .device d

/-- The node to which a path leads, with its number. -/
def Machine.nodeOf (m : Machine) (path : Bytes) : Except SystemError (Nat × Node) :=
  match deviceDescriptor? path with
  | some d =>
    match m.connected? d with
    | some (.file n _ _) => .ok (n, m.files.nodes.getD n default)
    | some c => .ok (m.files.nodes.size + d, ⟨m.kindOf c, 0o600, 0⟩)
    | none => .error .notFound
  | none => m.files.nodeOf m.here path

/-- What stands where a path leads. -/
def Machine.kind? (m : Machine) (path : Bytes) : Option Kind :=
  ((m.nodeOf path).toOption).map (·.2.kind)

/-- What stands where a path names it, which may be a link. -/
def Machine.kindNamed? (m : Machine) (path : Bytes) : Option Kind :=
  if (deviceDescriptor? path).isSome then some (.link [])
  else ((m.files.nodeNamed m.here path).toOption).map (·.2.kind)

/-- Whether a path leads to a directory. -/
def Machine.isDirectory (m : Machine) (path : Bytes) : Bool := m.kind? path = some .directory

/-- The place to which a path leads. -/
def Machine.find (m : Machine) (path : Bytes) : Except SystemError Place := m.files.find m.here path

/-- The place that a path names. -/
def Machine.findName (m : Machine) (path : Bytes) : Except SystemError Place :=
  m.files.findName m.here path

/-- The place of a file that is to be written. -/
def Machine.findForWriting (m : Machine) (path : Bytes) : Except SystemError Place :=
  m.files.findForWriting Sandbox.mostLinks m.here path

/-- The permissions that a new file or directory gets. -/
def Machine.masked (m : Machine) (mode : Nat) : Nat := mode - (mode &&& m.mask)

/-! ## Channels -/

/-- The machine with another channel, and its number. -/
def Machine.withChannel (m : Machine) (c : Channel) : Machine × Nat :=
  ({ m with channels := m.channels.push c }, m.channels.size)

/-- Opens a channel. -/
def openChannel (c : Channel) : Action Nat :=
  modifyGet fun m => let (m, n) := m.withChannel c; (n, m)

/-- Connects a descriptor with a channel, or closes it. -/
def connect (descriptor : Nat) (channel : Option Nat) : Action Unit :=
  modify fun m =>
    let others := m.descriptors.filter fun d => d.1 ≠ descriptor
    { m with descriptors := match channel with
        | some c => (descriptor, c) :: others
        | none => others }

/-! ### Time -/

/-- The machine at a later time. -/
def Machine.later (m : Machine) (time : Nat) : Machine :=
  let seconds := time / 1000 - m.clock / 1000
  { m with clock := max m.clock time, files := { m.files with time := m.files.time + seconds } }

/-- Pauses for some milliseconds. -/
def pauseFor (milliseconds : Nat) : Action Unit := do
  Pausing.pause (some ((← get).clock + milliseconds)) fun _ => false

/-- Pauses until something is the case. -/
def pauseUntil (isOver : Machine → Bool) : Action Unit := do
  if !isOver (← get) then Pausing.pause none isOver

/-- Whether no other shell runs beside this one. -/
def Machine.isAlone (m : Machine) : Bool := m.running.length ≤ 1

/-- Whether another shell has a pipe with a name open, given by its number. -/
def Machine.isSharedPipe (m : Machine) (n : Nat) : Bool :=
  m.running.any fun p =>
    p.number ≠ m.thread && p.last.any fun c =>
      match m.channels[c]? with
      | some (.namedPipe other) => other = n
      | _ => false

/-- Waits until there is somebody who writes to a pipe with a name, unless there can be nobody. -/
def awaitWriter (n : Nat) : Action Unit := do
  match ((← get).files.nodes.getD n default).kind with
  | .pipe _ =>
    pauseUntil fun m =>
      (match (m.files.nodes.getD n default).kind with
        | .pipe unread => unread ≠ []
        | _ => true) || m.isSharedPipe n || m.isAlone
  | _ => return ()

/-! ### Files -/

/-- How a file is opened. -/
inductive Opening where
  | reading
  /-- A new file, or an old one that is emptied. -/
  | writing
  | appending
  /-- A new file, which must not be there yet. -/
  | creating
  /-- A new file, or an old one as it is. -/
  | updating
deriving DecidableEq, Inhabited

/-- What can be done with a file that is opened. -/
def Opening.access : Opening → Access
  | .reading => ⟨true, false, false⟩
  | .writing | .creating => ⟨false, true, false⟩
  | .appending => ⟨false, true, true⟩
  | .updating => ⟨true, true, false⟩

/-- The machine with the file of a number open. -/
def Machine.opened (m : Machine) (how : Opening) (place : Place) (n : Nat) : Machine × Nat :=
  match (m.files.nodes.getD n default).kind with
  | .device d => m.withChannel (.device d)
  | .pipe _ => m.withChannel (.namedPipe n)
  | .directory => m.withChannel (.directory place)
  | _ =>
    let m := if how = .writing then { m with files := m.files.setContent n [] } else m
    m.withChannel (.file n 0 how.access)

/-- The machine with the file open to which a path leads, and the number of its channel. -/
def Machine.openPath (m : Machine) (how : Opening) (path : Bytes) :
    Except SystemError (Machine × Nat) :=
  match deviceDescriptor? path with
  | some d =>
    match m.channel? d, m.connected? d with
    | some _, some (.file n _ _) => .ok (m.opened how [] n)
    | some c, _ => .ok (m, c)
    | none, _ => .error .notFound
  | none =>
    if how = .reading then do
      let place ← m.find path
      match m.files.number? place with
      | some n => return m.opened how place n
      | none => throw .notFound
    else do
      let place ← m.findForWriting path
      match m.files.number? place with
      | some n => if how = .creating then throw .alreadyThere else return m.opened how place n
      | none =>
        let files := m.files.add place (.file []) (m.masked 0o666)
        return ({ m with files }).withChannel (.file (files.nodes.size - 1) 0 how.access)

/-- Opens the file to which a path leads. -/
def openPath (how : Opening) (path : Bytes) : Action (Except SystemError Nat) := do
  if how = .reading then
    match (← get).nodeOf path with
    | .ok (n, _) => awaitWriter n
    | .error _ => pure ()
  match (← get).openPath how path with
  | .ok (m, c) =>
    set m
    return .ok c
  | .error e => return .error e

/-- A content with a text at a position. A gap before it is filled with zeros. -/
def overwritten (content : Bytes) (position : Nat) (text : Bytes) : Bytes :=
  let before := content.take position
  before ++ List.replicate (position - before.length) '\x00' ++ text ++
    content.drop (position + text.length)

/-- The content of the file with a number. -/
def Machine.contentOf (m : Machine) (n : Nat) : Bytes :=
  match (m.files.nodes.getD n default).kind with
  | .file content => content
  | .pipe unread => unread
  | _ => []

/-- As many zeros as anyone reads. -/
def zeros : Bytes := List.replicate 1048576 '\x00'

/-- How much may be written to a pipe before its reader must have gone. -/
def largestPipe : Nat := 4194304

/-- The machine after a text has gone to a channel. -/
def Machine.written (m : Machine) (channel : Nat) (text : Bytes) : Except SystemError Machine :=
  match m.channels[channel]? with
  | some (.pipe ..) =>
    .ok { m with channels := m.channels.modify channel fun
      | .pipe unread written size =>
        .pipe unread (text.reverseAux written) (size + text.length)
      | c => c }
  | some (.file n position access) =>
    if !access.writes then .error .badDescriptor
    else if access.appends then
      .ok { m with files := m.files.setContent n (m.contentOf n ++ text) }
    else
      .ok { m with
        files := m.files.setContent n (overwritten (m.contentOf n) position text)
        channels := m.channels.setIfInBounds channel
          (.file n (position + text.length) access) }
  | some (.namedPipe n) =>
    let files := m.files.modify n fun node => { node with kind := .pipe (m.contentOf n ++ text) }
    .ok { m with files }
  | some (.device .full) => if text = [] then .ok m else .error .noSpace
  | some (.device _) => .ok m
  | _ => .error .badDescriptor

/-- Writes a text to a descriptor. A pipe that nobody can be reading any more ends the program. -/
def writeTo (descriptor : Nat) (text : Bytes) : Action (Except SystemError Unit) := do
  let m ← get
  match m.channel? descriptor with
  | none => return .error .badDescriptor
  | some c =>
    match m.written c text with
    | .error e => return .error e
    | .ok m =>
      set m
      match m.channels[c]? with
      | some (.pipe _ _ size) => if size > largestPipe then throw .brokenPipe
      | _ => pure ()
      return .ok ()

/-- Writes a text to a descriptor and tells whether that was possible. -/
def write (descriptor : Nat) (text : Bytes) : Action Bool := do
  return (← writeTo descriptor text).toOption.isSome

/-- Reads a part of what is left in a descriptor. The first function tells whether a text has such a
part whatever comes after it, and the second one tells the part from what is left after it. -/
def readWith {α : Type} (descriptor : Nat) (isEnough : Bytes → Bool) (part : Bytes → α × Bytes) :
    Action (Except SystemError α) := do
  match (← get).connected? descriptor with
  | some (.namedPipe n) => pauseUntil fun m => isEnough (m.contentOf n) || !m.isSharedPipe n
  | _ => pure ()
  let m ← get
  match m.channel? descriptor with
  | none => return .error .badDescriptor
  | some c =>
    match m.channels[c]? with
    | some (.pipe unread written size) =>
      let (found, rest) := part unread
      set { m with channels := m.channels.setIfInBounds c (.pipe rest written size) }
      return .ok found
    | some (.file n position access) =>
      if !access.reads then return .error .badDescriptor
      let content := m.contentOf n
      let (found, rest) := part (content.drop position)
      let position := max position (content.length - rest.length)
      set { m with channels := m.channels.setIfInBounds c (.file n position access) }
      return .ok found
    | some (.namedPipe n) =>
      let (found, rest) := part (m.contentOf n)
      set { m with files := m.files.modify n fun node => { node with kind := .pipe rest } }
      return .ok found
    | some (.device .zero) | some (.device .full) => return .ok (part zeros).1
    | some (.device _) => return .ok (part []).1
    | some (.directory _) => return .error .isADirectory
    | none => return .error .badDescriptor

/-- Reads all that is left in a descriptor. -/
def readAll (descriptor : Nat) : Action (Except SystemError Bytes) :=
  readWith descriptor (fun _ => false) fun rest => (rest, [])

/-- Reads a line, which may have no end. -/
def readLine (descriptor : Nat) : Action (Except SystemError Bytes) :=
  readWith descriptor (fun rest => '\n' ∈ rest) fun rest =>
    let line := rest.takeWhile (· ≠ '\n')
    match rest.dropWhile (· ≠ '\n') with
    | [] => (line, [])
    | _ :: rest => (line ++ ['\n'], rest)

/-- Whether reading from a descriptor can be taken back, as in a file. -/
def Machine.isSeekable (m : Machine) (descriptor : Nat) : Bool :=
  match m.connected? descriptor with
  | some (.file ..) => true
  | _ => false

/-- Leaves the end of what has been read from a descriptor for the next one who reads, if that is
possible. -/
def unread (descriptor : Nat) (rest : Bytes) : Action Unit :=
  modify fun m =>
    match m.channel? descriptor with
    | some c =>
      match m.channels[c]? with
      | some (.file n position access) =>
        let c' : Channel := .file n (position - rest.length) access
        { m with channels := m.channels.setIfInBounds c c' }
      | _ => m
    | none => m

/-- What has gone to a channel. -/
def Machine.outputOf (m : Machine) (channel : Nat) : Bytes :=
  match m.channels[channel]? with
  | some (.pipe _ written _) => written.reverse
  | _ => []

/-- The content of the file to which a path leads. -/
def readPath (path : Bytes) : Action (Except SystemError Bytes) := do
  match ← openPath .reading path with
  | .error e => return .error e
  | .ok c =>
    let before := (← get).descriptors
    modify fun m => { m with descriptors := (1000, c) :: m.descriptors }
    let found ← readAll 1000
    modify fun m => { m with descriptors := before }
    return found

/-! ## Messages -/

/-- The text of an error of the operating system. -/
def describe (e : SystemError) : Bytes := e.description.toList

/-- Writes a message of the shell. -/
def report (text : Bytes) : Action Unit := do
  let m ← get
  let command : Bytes := match m.command with
    | some c => c ++ ": ".toList
    | none => []
  let _ ← write 2
    (m.name ++ ": ".toList ++ Bytes.ofInt m.line ++ ": ".toList ++ command ++ text ++ ['\n'])

/-- Writes a message of the shell and fails. -/
def abort {α : Type} (text : Bytes) : Action α := do
  report text
  setStatus 2
  throw .failed

/-- Writes a line to the errors. -/
def complain (text : Bytes) : Action Unit := do
  let _ ← write 2 (text ++ ['\n'])

/-! ## Parameters -/

/-- The characters that separate fields. -/
def Machine.separators (m : Machine) : Bytes :=
  match m.bindings.lookup "IFS".toList with
  | some ⟨some value, _, _⟩ => value
  | _ => [' ', '\t', '\n']

/-- The letters of the options that are switched on, in the order in which they are told. -/
def Options.letters (o : Options) : Bytes :=
  let isOn (c : Char) : Bool :=
    match c with
    | 'e' => o.leavesOnFailure
    | 'f' => o.keepsPatterns
    | 'n' => o.runsNothing
    | 'x' => o.traces
    | 'v' => o.showsInput
    | 'C' => o.keepsFiles
    | 'a' => o.exportsAll
    | 'u' => o.refusesUnset
    | c => c ∈ o.others
  "pubaCEVvxsnmiIfe".toList.filter isOn

/-- The number of the first shell. -/
def firstProcess : Nat := 4242

/-- How the shell with a number has ended, which has run beside others. -/
def Machine.ending? (m : Machine) (number : Nat) : Option Finish := m.endings.lookup number

/-- Whether a command has ended and somebody has asked how. Its slot may be given away. -/
def Machine.isSpent (m : Machine) (j : Job) : Bool := j.isAwaited && (m.ending? j.number).isSome

/-- The lowest slot for a new process, which may be that of a command that is forgotten now. -/
def Machine.freeSlot (m : Machine) : Nat :=
  let isTaken (slot : Nat) : Bool := m.jobs.any fun j => j.slot = some slot && !m.isSpent j
  ((List.range (m.jobs.length + 1)).find? fun i => !isTaken (i + 1)).getD m.jobs.length + 1

/-- The jobs when a new process gets a slot. -/
def forgotten (slot : Nat) (js : List Job) : List Job :=
  js.map fun j => if j.slot = some slot then { j with slot := none } else j

/-! ## Time and signals -/

/-- A shell waits for a new process. Others get on meanwhile, and then it gets to know which ones have
ended. -/
def noteProcess : Action Unit := do
  modify fun m => { m with jobs := forgotten m.freeSlot m.jobs }
  if (← get).isAlone then modify fun m => m.later (m.clock + 1) else pauseFor 1
  modify fun m =>
    { m with jobs := m.jobs.map fun j =>
        if (m.ending? j.number).isSome then { j with isNoticed := true } else j }

/-- The signals that do nothing unless something is set for them. -/
def harmless : List Nat := [0, 17, 18, 23, 28]

/-- The signals that stop a shell until it is told to go on. -/
def stopping : List Nat := [19, 20, 21, 22]

/-- Whether a signal ends the shell. -/
def Machine.isDeadly (m : Machine) (signal : Nat) : Bool :=
  signal = 9 || (signal ∉ harmless && signal ∉ stopping && signal ∉ m.ignored &&
    (m.traps.lookup signal).isNone)

/-- The machine with a signal on its way to the shell with a number. -/
def Machine.signalled (m : Machine) (process signal : Nat) : Machine :=
  if m.signals.contains (process, signal) then m
  else { m with signals := m.signals ++ [(process, signal)] }

/-- The signal for the end of another process. -/
def endSignal : Nat := 17

/-! ## Values -/

/-- The value of a parameter that is a single text. -/
def Machine.lookup? (m : Machine) (name : Bytes) : Option Bytes :=
  match name with
  | ['?'] => some (Bytes.ofInt m.status)
  | ['#'] => some (Bytes.ofInt m.parameters.length)
  | ['$'] => some (Bytes.ofInt m.process)
  | ['-'] => some m.options.letters
  | ['!'] => m.background.map fun n => Bytes.ofInt n
  | _ =>
    if name ≠ [] && name.all Char.isDigit then
      match digitsValue name with
      | 0 => some m.name
      | n + 1 => m.parameters[n]?
    else
      match m.bindings.lookup name with
      | some b => b.value
      | none => if name = "LINENO".toList then some (Bytes.ofInt m.line) else none

/-- Bindings with another one of a name, in the place of the old one or at the end, or with none. -/
def rebound {α : Type} (name : Bytes) (binding : Option α) : List (Bytes × α) → List (Bytes × α)
  | [] => (binding.map (name, ·)).toList
  | b :: bs =>
    if b.1 = name then (binding.map (name, ·)).toList ++ bs else b :: rebound name binding bs

/-- The machine with another binding of a variable, or with none. -/
def Machine.bind (m : Machine) (name : Bytes) (binding : Option Binding) : Machine :=
  { m with bindings := rebound name binding m.bindings }

/-- The binding of a variable, which may be unknown yet. -/
def Machine.binding (m : Machine) (name : Bytes) : Binding :=
  (m.bindings.lookup name).getD ⟨none, false, false⟩

/-- How many shelves a shell has for its variables, and how many for its aliases. -/
def shelfCount : Nat := 39

/-- How many shelves a shell has for the programs that have been looked up. -/
def programShelfCount : Nat := 31

/-- The shelf on which a shell keeps what has a name, if it has some number of shelves. -/
def shelfOf (count : Nat) (name : Bytes) : Nat :=
  ((name.headD '\x00').toNat * 16 + (name.map Char.toNat).foldl (· + ·) 0) % 32768 % count

/-- What has names in the order in which a shell goes through it, shelf by shelf. -/
def byShelf {α : Type} (count : Nat) (bs : List (Bytes × α)) : List (Bytes × α) :=
  bs.mergeSort fun a b => shelfOf count a.1 ≤ shelfOf count b.1

/-- The variables that programs are started with. -/
def Machine.environment (m : Machine) : List (Bytes × Bytes) :=
  m.bindings.filterMap fun (name, b) => if b.isExported then b.value.map (name, ·) else none

/-- Gives a variable a value. -/
def setVariable (name value : Bytes) : Action Unit := do
  let m ← get
  let b := m.binding name
  if b.isReadOnly then abort (name ++ ": is read only".toList)
  else
    let isExported := b.isExported || m.options.exportsAll
    let m := m.bind name (some { b with value := some value, isExported })
    set (match String.ofList name with
      | "OPTIND" => { m with optionIndex := max 1 ((digitsValue? value).getD 1), optionOffset := none }
      | "PATH" => { m with tracked := [] }
      | _ => m)

/-- Runs an action and tells why it did not come to its end. -/
def attempt {α : Type} (a : Action α) : Action (Except Jump α) :=
  Pausing.attempt a

/-! ## Starting -/

/-- A variable that every shell has. -/
def startingBinding (name value : String) (isExported : Bool) : Bytes × Binding :=
  (name.toList, ⟨some value.toList, isExported, false⟩)

/-- The variables that every shell sets itself. -/
def ownBindings : List (Bytes × Binding) :=
  [startingBinding "IFS" " \t\n" false, startingBinding "OPTIND" "1" false,
    startingBinding "PPID" "4241" false, startingBinding "PS1" "# " false,
    startingBinding "PS2" "> " false, startingBinding "PS4" "+ " false]

/-- The directories in which programs are looked up. -/
def startingPath : String := "/usr/local/sbin:/usr/local/bin:/usr/sbin:/usr/bin:/sbin:/bin"

/-- The machine before a program starts with some variables and nothing to read. Its first channel is
the output, its second one the errors. -/
def Machine.start (files : FileTree) (given : List (Bytes × Bytes)) : Machine :=
  let exported : List (Bytes × Binding) := given.map fun (name, value) =>
    (name, ⟨some value, true, false⟩)
  { files
    process := firstProcess
    own := firstProcess
    outer := []
    thread := firstProcess
    isLast := false
    name := []
    parameters := []
    channels := #[.emptyPipe, .emptyPipe, .device .null]
    descriptors := [(0, 2), (1, 0), (2, 1)]
    here := files.home
    mask := 0o022
    directory := Sandbox.pathOf files.home
    bindings := [startingBinding "PATH" startingPath true, startingBinding "HOME" "/root" true,
      ("PWD".toList, ⟨some (Sandbox.pathOf files.home), true, false⟩)] ++ exported
    functions := []
    aliases := []
    tracked := []
    traps := []
    ignored := []
    options := .none
    line := 1
    readTo := 1
    command := none
    status := 0
    captured := none
    isTested := false
    loops := 0
    jobs := []
    printed := []
    starts := []
    running := [⟨firstProcess, [0, 1], []⟩]
    endings := []
    signals := []
    lastProcess := firstProcess
    clock := 0
    optionIndex := 1
    optionOffset := none
    background := none
    saved := [] }

end TokenConformance.Sandbox.Shell
