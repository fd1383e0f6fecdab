import TokenConformance.Sandbox.Shell.Builtins
import TokenConformance.Sandbox.Shell.Redirecting

/-! # Running scripts

* `isolated`: something that a shell of its own does, of which only the files and the output stay.
* `startProgram`: a program that is no part of the shell.
* `runSimple`: a simple command; its name may be one of the shell's own commands, a function or a
  program.
* `runPipeline`, `runLoop`, `runForEach`, `runChoice`: the other commands.
* `execute`: any command.
* `runText`: a script, line by line.
* `startShell`: a shell with its arguments.
* `startBeside`: starts a command that is not waited for.
-/

namespace TokenConformance.Sandbox.Shell

open Sandbox.Text (Bytes)
open Sandbox (FileTree)

/-- What runs the commands inside another one. -/
structure Inner where
  one : Command → Action Unit
  text : Bytes → Action Unit
  /-- Starts a program, whose name comes before its arguments. -/
  start : List Bytes → Action (Except SystemError Nat)

/-- Runs commands one after another. -/
def Inner.all (r : Inner) (commands : List Command) : Action Unit := commands.forM r.one

/-- Runs commands one after another, with the last of which the shell ends. -/
def Inner.allAtEnd (r : Inner) : List Command → Action Unit
  | [] => return ()
  | [last] => do
    modify fun m => { m with isLast := true }
    r.one last
  | first :: rest => do
    r.one first
    allAtEnd r rest

/-- Goes on to a line of the script. -/
def setLine (line : Nat) : Action Unit := modify fun m => { m with line }

/-- Does something whose failure is looked at. -/
def tested (a : Action Unit) : Action Unit := do
  let before := (← get).isTested
  modify fun m => { m with isTested := true }
  let result ← attempt a
  modify fun m => { m with isTested := before }
  match result with
  | .ok () => return ()
  | .error j => throw j

section

variable (r : Inner)

/-- Does something whose failure may end the shell. Before that, it takes the signals that have come. -/
def checked (a : Action Unit) : Action Unit := do
  a
  Builtin.receiveAll r.text
  let m ← get
  if m.options.leavesOnFailure && !m.isTested && m.status ≠ 0 then throw .leave

/-! ## Shells inside the shell -/

/-- Does what is set for the end of the shell. -/
def runExitTrap : Action Unit := do
  let m ← get
  match m.traps.lookup 0 with
  | none => return ()
  | some action =>
    set { m with traps := m.traps.filter fun t => t.1 ≠ 0 }
    match ← attempt (r.text action) with
    | .error (.killed signal) => throw (.killed signal)
    | .error .leave | .error .failed => return ()
    | _ => setStatus m.status

/-- Does something to its end as a shell of its own. -/
def toItsEnd (a : Action Unit) : Action Unit := do
  match ← attempt a with
  | .error (.killed signal) => throw (.killed signal)
  | .error .brokenPipe => throw (.killed 13)
  | _ => runExitTrap r

/-- The machine when another process has ended, which something may be done at. -/
def Machine.atEnd (m : Machine) : Machine :=
  if ((m.traps.lookup endSignal).getD []) ≠ [] then m.signalled m.own endSignal else m

/-- The machine after something has been done by another process. -/
def Machine.afterProcess (m after : Machine) : Machine :=
  { after with
    toContext := m.toContext
    channels := if after.isAlone then after.channels.shrink m.channels.size else after.channels
    signals := after.signals.filter fun s => s.1 ≠ after.own || after.own = m.own }

/-- Does something as a shell of its own, of which only the files and the output stay. The result is
how it ended. -/
def inSubshell (a : Action Unit) : Action Finish := do
  noteProcess
  let m ← get
  let own := m.lastProcess + 1
  set { m with
    own, lastProcess := own, outer := m.own :: m.outer, readTo := 1, jobs := [], printed := []
    traps := m.traps.filter fun t => t.2 = [] }
  let result ← attempt (toItsEnd r a)
  let after ← get
  set (m.afterProcess after).atEnd
  if after.starts ≠ [] then pauseFor 0
  match result with
  | .error (.killed signal) => return .killed signal
  | _ => return .exited after.status

/-- Does something as a shell that takes the place of the one that is running, if that ends with it. -/
def inPlace (isLast : Bool) (a : Action Unit) : Action Finish := do
  if !isLast then inSubshell r a
  else
    let m ← get
    set { m with jobs := [], printed := [] }
    let result ← attempt (toItsEnd r a)
    let after ← get
    set (m.afterProcess after)
    match result with
    | .error (.killed signal) => return .killed signal
    | _ => return .exited after.status

/-- Goes on after another process has ended. -/
def afterEnd : Finish → Action Unit
  | .killed signal => do
    Builtin.announce signal
    setStatus (128 + signal)
  | .exited status => setStatus status

/-- Does something as a shell of its own, of which only the files and the output stay. -/
def isolated (a : Action Unit) : Action Unit := do
  afterEnd (← inSubshell r a)

/-- Does something as a shell of its own whose output goes to a channel. All that can write there has
to end. -/
def toTheLast (c : Nat) (a : Action Unit) : Action Unit := do
  isolated r a
  pauseUntil fun m => m.running.all fun p => p.number = m.thread || !p.has c

/-- The output of a script. -/
def capture : Capture := fun script => do
  let before := (← get).status
  let c ← openChannel .emptyPipe
  toTheLast r c do
    connect 1 (some c)
    modify fun m => { m with isTested := false }
    if script.isEmpty then setStatus 0 else r.allAtEnd script
  modifyGet fun m =>
    (m.outputOf c, { m with
      captured := some m.status, status := before
      channels := if m.isAlone then m.channels.shrink c else m.channels })

/-- Where a shell gets its script from, as its options say. If they say nothing, its first operand
names a file. -/
structure Origin where
  isArgument : Bool
  isInput : Bool
deriving DecidableEq, Inhabited

/-- Takes the options that a shell is started with. The number bounds how many there are. -/
def takeOptions : Nat → Origin → List Bytes → Action (Origin × List Bytes)
  | 0, origin, arguments => return (origin, arguments)
  | _, origin, [] => return (origin, [])
  | n + 1, origin, argument :: rest => do
    match argument with
    | ['-'] | ['-', '-'] => return (origin, rest)
    | sign :: letters =>
      if sign = '-' || sign = '+' then
        let isOn := sign = '-'
        for c in letters.filter fun c => c ∉ ['c', 'l', 's', 'o'] do
          Builtin.switchOption isOn c
        let isNamed := 'o' ∈ letters
        if isNamed then
          Builtin.switchNamed isOn (rest.headD [])
        let origin := ⟨origin.isArgument || 'c' ∈ letters, origin.isInput || 's' ∈ letters⟩
        takeOptions n origin (if isNamed then rest.drop 1 else rest)
      else return (origin, argument :: rest)
    | [] => return (origin, argument :: rest)

/-- The context of a new shell in a machine. -/
def newContext (m : Machine) (name : Bytes) : Context :=
  let isOwn (b : Bytes × Binding) : Bool := ownBindings.any fun own => own.1 = b.1
  let given : List (Bytes × Binding) := m.bindings.filter fun b => b.2.isExported && !isOwn b
  let physical := Sandbox.pathOf m.here
  let directory := match m.lookup? "PWD".toList with
    | some path =>
      if Sandbox.isAbsolute path && (m.find path).toOption = some m.here then path else physical
    | none => physical
  let bindings := [("PWD".toList, ⟨some directory, true, false⟩),
    ("PPID".toList, ⟨some (Bytes.ofInt (m.outer.headD firstProcess)), false, false⟩)] ++
    ownBindings.filter (fun b => b.1 ≠ "PPID".toList) ++
    given.filter fun b => b.1 ≠ "PWD".toList
  { m.toContext with
    process := m.own, name, directory, bindings
    parameters := [], functions := [], aliases := [], tracked := [], loops := 0, saved := []
    command := none, options := .none, isTested := false, line := 0, status := 0
    optionIndex := 1, optionOffset := none, background := none }

/-- Starts a shell by a name with its arguments. -/
def startShell (name : Bytes) (arguments : List Bytes) : Action Nat := do
  modify fun m => { m with toContext := newContext m name }
  let (origin, operands) ← takeOptions (arguments.length + 1) ⟨false, false⟩ arguments
  let fault (text : Bytes) : Action Nat := do
    report text
    setStatus 2
    throw .leave
  let run (name : Bytes) (parameters : List Bytes) (text : Bytes) : Action Nat := do
    modify fun m => { m with name, parameters, line := 1 }
    r.text text
    return (← get).status
  let runInput (name : Bytes) (parameters : List Bytes) : Action Nat := do
    match ← readAll 0 with
    | .ok text => run name parameters text
    | .error _ => return 0
  match origin.isArgument, operands with
  | true, [] => fault "-c requires an argument".toList
  | true, script :: rest => do
    let status ← run (rest.headD name) (rest.drop 1) script
    if origin.isInput then runInput (rest.headD name) (rest.drop 1) else return status
  | false, [] => runInput name []
  | false, path :: rest =>
    if origin.isInput then runInput name operands
    else
      match ← readPath path with
      | .ok text => run path rest text
      | .error .isADirectory => return 0
      | .error e => fault (openFault path false e)

/-! ## Programs -/

/-- The status of a program that cannot write, and what it says. -/
def writeFault (name : Bytes) (e : SystemError) : Nat × Bytes :=
  let say (text : String) : Bytes := name ++ (": " ++ text).toList ++ describe e
  match String.ofList (Tool.lastPart name) with
  | "sed" => (4, say "couldn't flush stdout: ")
  | "sort" => (2, say "write failed: 'standard output': ")
  | "grep" | "egrep" | "fgrep" | "ls" | "cmp" | "diff" => (2, say "write error: ")
  | "cat" => (1, say (if e = .badDescriptor then "standard output: " else "write error: "))
  | "dd" => (1, say "error writing 'standard output': ")
  | _ => (1, say "write error: ")

/-- Runs a program by a name with its arguments. -/
def runTool (tool : Tool) (name : Bytes) (arguments : List Bytes) : Action Nat := do
  let m ← get
  set { m with printed := [] }
  let result ← attempt do
    let status ← tool ⟨name, arguments, r.start⟩
    Tool.flush
    return status
  modify fun after => m.afterProcess after
  match result with
  | .ok status => return status
  | .error (.unwritten e) => do
    let (status, text) := writeFault name e
    complain text
    return status
  | .error .brokenPipe => throw (.killed 13)
  | .error j => throw j

/-- Starts the program at a path under a name. A script is run by the program that it asks for, or
else by a shell if that is wanted. The number bounds how many scripts ask for others. -/
def startProgram (hasShell : Bool) : Nat → Bytes → Bytes → List Bytes →
    Action (Except SystemError Nat)
  | 0, _, _, _ => return .error .tooManyLinks
  | n + 1, path, name, arguments => do
    match programAt (← get) path with
    | .error e => return .error e
    | .ok (.program tool) =>
      if isShell tool then
        let isLast := (← get).isLast && (← get).traps.all fun t => t.2 = []
        match ← inPlace r isLast do setStatus (← startShell r name arguments) with
        | .killed signal => throw (.killed signal)
        | .exited status => return .ok status
      else
        match toolNamed? tool with
        | some t => return .ok (← runTool r t name arguments)
        | none => return .error .notFound
    | .ok (.file text) =>
      match interpreter? text with
      | some (interpreter :: extra) =>
        startProgram hasShell n interpreter interpreter (extra ++ path :: arguments)
      | _ =>
        let shell := "/bin/sh".toList
        if hasShell then startProgram hasShell n shell shell (path :: arguments)
        else return .error .notAProgram
    | .ok _ => return .error .permissionDenied

/-- How many scripts may ask for others one after another. -/
def mostScripts : Nat := 5

/-- Starts a program as other programs do it. -/
def startByName : List Bytes → Action (Except SystemError Nat)
  | [] | [] :: _ => return .error .notFound
  | name :: arguments => do
    match programPath (← get) name with
    | .error e => return .error e
    | .ok path => startProgram r true mostScripts path name arguments

/-! ## Simple commands -/

/-- What is said about a program that cannot be run. -/
def programFault (name : Bytes) (e : SystemError) : Bytes :=
  name ++ ": ".toList ++
    if e = .notFound || e = .notADirectory then "not found".toList else describe e

/-- Runs a program that is no part of the shell, which may end with it. -/
def runProgram (isLast : Bool) (word : Bytes) (arguments : List Bytes) : Action Nat := do
  modify fun m => { m with bindings := byShelf shelfCount m.bindings }
  match programPath (← get) word with
  | .error e =>
    report (programFault word e)
    return 127
  | .ok path =>
    noteProcess
    if '/' ∉ word then
      modify fun m => { m with tracked := rebound word (some ⟨path, false⟩) m.tracked }
    modify fun m => { m with isLast }
    let result ← attempt (startProgram r true mostScripts path word arguments)
    modify fun m => { m with isLast := false }.atEnd
    match result with
    | .ok (.ok status) => return status
    | .ok (.error e) =>
      report (programFault word e)
      return if [.notFound, .notADirectory, .tooManyLinks, .nameTooLong].contains e then 127
        else 126
    | .error (.killed signal) =>
      Builtin.announce signal
      return 128 + signal
    | .error j => throw j

/-- Does something as one of the shell's own commands. A fault of a special one ends the shell. -/
def asCommand (name : Bytes) (isSpecial : Bool) (a : Action Nat) : Action Unit := do
  let before := (← get).command
  modify fun m => { m with command := some name }
  let result ← attempt a
  modify fun m => { m with command := before }
  match result with
  | .ok status => setStatus status
  | .error .failed => if isSpecial then throw .failed
  | .error j => throw j

/-- How many functions may be running inside one another. -/
def mostCalls : Nat := 1000

/-- Calls a function. -/
def callFunction (body : Command) (arguments : List Bytes) : Action Unit := do
  let m ← get
  if m.saved.length ≥ mostCalls then
    abort ("Maximum function recursion depth (".toList ++ Bytes.ofInt mostCalls ++
      ") reached".toList)
  set { m with parameters := arguments, loops := 0, saved := [] :: m.saved }
  let result ← attempt (r.one body)
  modify fun after =>
    { Builtin.restored after (after.saved.headD []) with
      parameters := m.parameters, loops := m.loops, saved := m.saved }
  match result with
  | .ok () | .error .endFunction => return ()
  | .error j => throw j

/-- Does something while variables may have other values. -/
def withBindings (names : List Bytes) (a : Action Unit) : Action Unit := do
  let m ← get
  let result ← attempt a
  modify fun after =>
    names.foldl (fun after name => after.bind name (m.bindings.lookup name)) after
  match result with
  | .ok () => return ()
  | .error j => throw j

/-- Shows a command before it is run. Expansions take place in what stands before it, but no commands are
run for that. -/
def trace (channel : Option Nat) (values : List (Bytes × Bytes)) (words : List Bytes) :
    Action Unit := do
  let m ← get
  if m.options.traces then
    let assignments := values.map fun (name, value) => name ++ '=' :: value
    let start := (m.lookup? "PS4".toList).getD []
    let before ← match textParts start with
      | .ok parts => expandDocument (fun _ => pure []) (start.length + 1) parts
      | .error _ => pure start
    let text := before ++ Bytes.joined [' '] (assignments ++ words) ++ ['\n']
    match channel.map fun c => m.written c text with
    | some (.ok m) => set m
    | _ => return ()

/-- Runs a command by its name, but no function. -/
def runNamed (isLast : Bool) (name : Bytes) (arguments : List Bytes) : Action Unit := do
  let m ← get
  match (special? r.text name).or (regular? name) with
  | some builtin => asCommand name false (builtin arguments)
  | none =>
    match String.ofList name with
    | "type" => asCommand name false (typeOf arguments)
    | "hash" =>
      let path? (name : Bytes) : Option Bytes := (programPath m name).toOption
      asCommand name false (Builtin.hash isBuiltin path? arguments)
    | _ => setStatus (← runProgram r isLast name arguments)

variable (n : Nat)

/-- Runs a program in the place of the shell, or only keeps redirections. -/
def runExec (rs : List Redirection) (arguments : List Bytes) : Action Unit := do
  if !(← redirectAll (capture r) n rs) then
    setStatus 2
    throw .leave
  match arguments with
  | [] => setStatus 0
  | name :: arguments =>
    modify fun m => { m with traps := m.traps.filter fun t => t.2 = [] }
    asCommand "exec".toList true (runProgram r true name arguments)
    throw .leave

/-- Runs a command by its name, but no function, or tells what it is. -/
def runCommand (rs : List Redirection) (arguments : List Bytes) : Action Unit := do
  let own := asCommand "command".toList false
  let (letters, operands) := Builtin.lettersOf arguments
  let known : Bytes := ['p', 'v', 'V']
  match letters.find? fun c => c ∉ known, letters.filter (· ≠ 'p') with
  | some _, _ => own (Builtin.withLetters "pvV" arguments fun _ _ => return 2)
  | none, 'v' :: _ => own (whereIs operands)
  | none, _ :: _ => own (typeOf (operands.take 1))
  | none, [] =>
    match operands with
    | [] => setStatus 0
    | name :: arguments =>
      if name = "exec".toList then runExec r n rs arguments else runNamed r false name arguments

/-- The commands whose arguments may be assignments. -/
def declaringNames : List String := ["export", "readonly", "local"]

/-- Whether a command takes assignments as arguments. -/
def declares : List Bytes → Bool
  | name :: rest =>
    declaringNames.any (fun s => s.toList = name) || (name = "command".toList && declares rest)
  | [] => false

/-- The fields of the words of a command. An assignment among the arguments of some commands is one
field. -/
def fieldsOfCommand (words : List Word) : Action (List Bytes) :=
  words.foldlM
    (fun fields w => do
      match if declares fields then assignment? w else none with
      | some (name, value) =>
        return fields ++ [name ++ '=' :: (← expandValue (capture r) n value)]
      | none => return fields ++ (← expandFields (capture r) n w)) []

/-- Runs a simple command, with which the shell may end. -/
def runSimple (isLast : Bool) (line : Nat) (assignments : List (Bytes × Word)) (words : List Word)
    (rs : List Redirection) : Action Unit := do
  modify fun m => { m with line, captured := none }
  let fields ← fieldsOfCommand r n words
  let errors := (← get).channel? 2
  let assign (isExported : Bool) : Action Unit := do
    let values ← assignments.mapM fun (name, w) => do
      let value ← expandValue (capture r) n w
      setVariable name value
      if isExported then
        modify fun m => m.bind name (some { m.binding name with isExported })
      return (name, value)
    trace errors values fields
  let around (a : Action Unit) : Action Bool := withRedirections (capture r) n rs a
  let meanwhile (a : Action Unit) : Action Unit := do
    let _ ← around <| withBindings (assignments.map (·.1)) do
      assign true
      a
  match fields with
  | [] =>
    let _ ← around do
      assign false
      setStatus ((← get).captured.getD 0)
  | name :: arguments =>
    if name = "exec".toList then
      assign false
      runExec r n rs arguments
    else
      match special? r.text name, (← get).functions.lookup name with
      | some tool, _ =>
        let isDone ← around do
          assign false
          asCommand name true (tool arguments)
        if !isDone then throw .leave
      | none, some f => meanwhile (callFunction r f arguments)
      | none, none =>
        meanwhile <|
          if name = "command".toList then runCommand r n rs arguments else runNamed r isLast name arguments

/-! ## Other commands -/

/-- Runs commands of which each one reads what the one before it writes. -/
def runPipeline : List Command → Action Unit
  | [] => return ()
  | [last] => isolated r (r.allAtEnd [last])
  | first :: rest => do
    let c ← openChannel .emptyPipe
    toTheLast r c do
      connect 1 (some c)
      r.allAtEnd [first]
    modify fun m => { m with channels := m.channels.setIfInBounds c (.ofText (m.outputOf c)) }
    isolated r do
      connect 0 (some c)
      runPipeline rest
    modify fun m => if m.isAlone then { m with channels := m.channels.shrink c } else m

/-- Runs a round of a loop, and tells whether there may be another one. -/
def runRound (a : Action Unit) : Action Bool := do
  modify fun m => { m with loops := m.loops + 1 }
  let result ← attempt a
  modify fun m => { m with loops := m.loops - 1 }
  match result with
  | .ok () => return true
  | .error (.endLoop levels) => if levels ≤ 1 then return false else throw (.endLoop (levels - 1))
  | .error (.nextRound levels) =>
    if levels ≤ 1 then return true else throw (.nextRound (levels - 1))
  | .error j => throw j

/-- How many rounds of a loop take so long that others get on. -/
def roundsPerPause : Nat := 256

/-- Runs commands again and again, depending on others. The number bounds how often. -/
def runLoop (onSuccess : Bool) (test body : List Command) : Nat → Nat → Action Unit
  | 0, _ => throw .brokenPipe
  | rounds + 1, status => do
    let goesOn ← runRound do
      tested (r.all test)
      if ((← get).status = 0) = onSuccess then r.all body
      else
        setStatus status
        throw (.endLoop 1)
    if rounds % roundsPerPause = 0 then pauseFor 1
    if goesOn then runLoop onSuccess test body rounds (← get).status

/-- Runs commands for every one of some words. -/
def runForEach (name : Bytes) (body : List Command) : List Bytes → Action Unit
  | [] => return ()
  | w :: rest => do
    setVariable name w
    if ← runRound (r.all body) then runForEach name body rest

/-- Runs the commands of the first case with a pattern for a text. -/
def runChoice (text : Bytes) : List (List Word × List Command) → Action Unit
  | [] => setStatus 0
  | (patterns, body) :: rest => do
    let isMeant ← patterns.anyM fun p => do
      return (← expandPattern (capture r) n p).covers text
    if isMeant then
      if body.isEmpty then setStatus 0 else r.all body
    else runChoice text rest

end

/-- How many rounds a loop may have. -/
def mostRounds : Nat := 200000

/-- Runs the lines of a script, of which `whole` is the number of line ends. The second number
bounds how many lines there are. -/
def runLines (one : Command → Action Unit) (whole : Nat) : Nat → Bytes → Action Unit
  | 0, _ => return ()
  | _, [] => return ()
  | n + 1, cs => do
    if isFinished cs then return
    match nextLine (← get).aliases whole cs with
    | .error f =>
      setLine (f.lineIn whole)
      abort ("Syntax error: ".toList ++ f.reason.message.toList)
    | .ok (commands, rest) =>
      modify fun m => { m with readTo := lineAt whole rest }
      commands.forM one
      runLines one whole n rest

/-- Runs a text as a script. -/
def runText (one : Command → Action Unit) (text : Bytes) : Action Unit := do
  let m ← get
  runLines one (lineEnds text) (text.length + 1) text
  modify fun after => { after with readTo := m.readTo }

/-- What runs the commands inside another one, when it is known how one of them is run. The number
bounds how many programs start others. -/
def innerOf (one : Command → Action Unit) : Nat → Inner
  | 0 => ⟨one, runText one, fun _ => throw (.killed 9)⟩
  | n + 1 => ⟨one, runText one, fun words => startByName (innerOf one n) words⟩

/-- The shell for a command that is not waited for. It has nothing to read. -/
def Machine.contextBeside (m : Machine) (number input : Nat) : Context :=
  { m.toContext with
    own := number, outer := m.own :: m.outer, thread := number, isLast := true, readTo := 1
    jobs := [], printed := [], isTested := false
    descriptors := (0, input) :: m.descriptors.filter fun d => d.1 ≠ 0
    traps := m.traps.filter fun t => t.2 = []
    ignored := [2, 3] ++ m.ignored }

/-- What a shell does that runs nothing but a command. -/
def insideOf : Command → Command
  | .subshell _ commands => .sequence commands
  | .redirected line (.subshell _ commands) rs => .redirected line (.sequence commands) rs
  | c => c

/-- Starts a command that is not waited for. -/
def startBeside (c : Command) : Action Unit := do
  let input ← openChannel (.device .null)
  modify fun m =>
    let slot := m.freeSlot
    let number := m.lastProcess + 1
    let context := m.contextBeside number input
    { m with
      jobs := forgotten slot m.jobs ++ [⟨number, some slot, false, false⟩]
      starts := m.starts ++ [⟨number, insideOf c, context⟩]
      running := m.running ++ [⟨number, context.descriptors.map (·.2), []⟩]
      lastProcess := number
      background := some number
      status := 0 }

/-- Runs a command. The number bounds how deep commands are inside one another. -/
def execute : Nat → Command → Action Unit
  | 0, _ => throw (.killed 9)
  | n + 1, c => do
    if (← get).options.runsNothing then return
    let r : Inner := innerOf (execute n) n
    let isLast := (← get).isLast
    modify fun m => { m with isLast := false }
    match c with
    | .simple line assignments words rs => checked r (runSimple r n isLast line assignments words rs)
    | .sequence commands => if isLast then r.allAtEnd commands else r.all commands
    | .subshell line commands =>
      setLine line
      checked r (isolated r (r.allAtEnd commands))
    | .pipeline commands => checked r (runPipeline r commands)
    | .background c => startBeside c
    | .negated c =>
      tested (r.one c)
      modify fun m => { m with status := if m.status = 0 then 1 else 0 }
    | .andThen first second =>
      tested (r.one first)
      if (← get).status = 0 then r.one second
    | .orElse first second =>
      tested (r.one first)
      if (← get).status ≠ 0 then r.one second
    | .branch test whenTrue whenFalse =>
      tested (r.all test)
      if (← get).status = 0 then r.all whenTrue
      else if whenFalse.isEmpty then setStatus 0
      else r.all whenFalse
    | .loop onSuccess test body => runLoop r onSuccess test body mostRounds 0
    | .forEach line name words body =>
      setLine line
      let words ← match words with
        | some ws => expandAll (capture r) n ws
        | none => do pure (← get).parameters
      if words.isEmpty then setStatus 0
      runForEach r name body words
    | .choice line word cases =>
      setLine line
      runChoice r n (← expandText (capture r) n word) cases
    | .define name body =>
      modify fun m =>
        let others := m.functions.filter fun f => f.1 ≠ name
        { m with functions := (name, body) :: others, status := 0 }
    | .redirected line c rs =>
      setLine line
      let _ ← withRedirections (capture r) n rs (r.one c)
    Builtin.receiveAll r.text

/-- How deep commands may be inside one another. -/
def mostLevels : Nat := 8000

/-- What runs the commands of a script. -/
def outermost : Inner := innerOf (execute mostLevels) mostLevels

end TokenConformance.Sandbox.Shell
