import TokenConformance.Sandbox.Shell.Builtin.Signals
import TokenConformance.Sandbox.Shell.Tool.Basic

/-! # Programs that start others

* `Call.become`: goes on as another program.
* `Call.outputOf`, `Call.runOn`: run a command of the shell.
* `splitWords`: the arguments that are written in one text.
* `env`, `printenv`: the variables that programs are started with.
* `timeout`, `nice`, `nohup`, `stdbuf`, `setsid`: start a program in another way.
-/

namespace TokenConformance.Sandbox.Shell

open Sandbox.Text (Bytes)

/-- The status of a program that could not start another one. -/
def startStatus (e : SystemError) : Nat := if e = .notFound then 127 else 126

/-- Goes on as another program. The function tells what is said if that is not possible. -/
def Call.become (c : Call) (words : List Bytes) (fault : Bytes → Bytes) : Action Nat := do
  match ← c.start words with
  | .ok status => return status
  | .error e =>
    c.fail (startStatus e) (fault (words.headD []) ++ ": ".toList ++ describe e)

/-- The arguments with which a shell runs a command. -/
def shellWords (shell command : Bytes) : List Bytes := [shell, "-c".toList, command]

/-- What a command writes to its output, and its status. -/
def Call.outputOf (c : Call) (shell command : Bytes) : Action (Bytes × Nat) := do
  Tool.flush
  let before := (← get).descriptors
  let channel ← openChannel .emptyPipe
  connect 1 (some channel)
  let status ← c.start (shellWords shell command)
  modify fun m => { m with descriptors := before }
  return ((← get).outputOf channel, status.toOption.getD 127)

/-- Runs a command that reads a text. -/
def Call.runOn (c : Call) (shell command text : Bytes) : Action Nat := do
  let before := (← get).descriptors
  let channel ← openChannel (.ofText text)
  connect 0 (some channel)
  let status ← c.start (shellWords shell command)
  modify fun m => { m with descriptors := before }
  return status.toOption.getD 127

namespace Tool

/-- What is said about a program that cannot be started. -/
def runFault (name : Bytes) : Bytes := "failed to run command ".toList ++ inSingleQuotes name

/-! ## Variables -/

/-- A variable with its value, as it is written among arguments. -/
def assigned? (text : Bytes) : Option (Bytes × Bytes) :=
  if '=' ∈ text then
    let name := text.takeWhile (· ≠ '=')
    some (name, text.drop (name.length + 1))
  else none

/-- What is being read of a text with several arguments. -/
structure Splitting where
  /-- The arguments that are complete, the last one first. -/
  words : List Bytes
  /-- The argument that is being read, its last character first. -/
  current : Option Bytes
  /-- The quote that is open. -/
  quote : Option Char
deriving Inhabited

/-- More of the argument that is being read. -/
def Splitting.add (s : Splitting) (text : Bytes) : Splitting :=
  { s with current := some (text.reverseAux (s.current.getD [])) }

/-- The end of an argument. -/
def Splitting.close (s : Splitting) : Splitting :=
  match s.current with
  | some word => { s with words := word.reverse :: s.words, current := none }
  | none => s

/-- The character that a letter after a backslash stands for in a text of arguments. -/
def splitEscape? : Char → Option Char
  | 'f' => some '\x0c'
  | 'n' => some '\n'
  | 'r' => some '\r'
  | 't' => some '\t'
  | 'v' => some '\x0b'
  | c => if c ∈ ['#', '$', '"', '\'', '\\'] then some c else none

/-- The arguments that are written in one text. The number bounds its length. -/
def splitText (m : Machine) : Nat → Bytes → Splitting → Except Bytes (List Bytes)
  | 0, _, s => .ok s.close.words.reverse
  | _, [], s =>
    if s.quote.isSome then .error "no terminating quote in -S string".toList
    else .ok s.close.words.reverse
  | n + 1, c :: rest, s =>
    if s.quote = none && Text.isSpace c then splitText m n rest s.close
    else if s.quote = none && s.current = none && c = '#' then .ok s.words.reverse
    else if c = '\'' && s.quote ≠ some '"' || c = '"' && s.quote ≠ some '\'' then
      let s := s.add []
      splitText m n rest { s with quote := if s.quote = some c then none else some c }
    else if c = '\\' then
      match rest with
      | [] => .error "invalid backslash at end of string in -S".toList
      | e :: rest =>
        if s.quote = some '\'' then
          splitText m n rest (s.add (if e = '\'' || e = '\\' then [e] else ['\\', e]))
        else if e = '_' then
          if s.quote = some '"' then splitText m n rest (s.add [' '])
          else splitText m n rest s.close
        else if e = 'c' then
          if s.quote = some '"' then
            .error "'\\c' must not appear in double-quoted -S string".toList
          else .ok s.close.words.reverse
        else
          match splitEscape? e with
          | some found => splitText m n rest (s.add [found])
          | none => .error (filled "invalid sequence '\\%' in -S" [[e]])
    else if c = '$' && s.quote ≠ some '\'' then
      let name := (rest.drop 1).takeWhile fun c => c.isAlphanum || c = '_'
      let isUse := rest.head? = some '\x7b' && rest[name.length + 1]? = some '\x7d' &&
        (name.head?.map fun c => !c.isDigit).getD false
      if isUse then
        let s := match m.environment.lookup name with
          | some value => s.add value
          | none => s
        splitText m n (rest.drop (name.length + 2)) s
      else
        .error ("only $\x7bVARNAME\x7d expansion is supported, error at: ".toList ++ '$' :: rest)
    else splitText m n rest (s.add [c])

/-- The arguments that are written in one text. -/
def splitWords (m : Machine) (text : Bytes) : Except Bytes (List Bytes) :=
  splitText m (text.length + 1) text ⟨[], none, none⟩

/-- Arguments in which those that are written in one text stand for themselves. The number bounds how
many arguments there are before that. -/
def spliced (m : Machine) : Nat → List Bytes → Except Bytes (List Bytes)
  | 0, arguments => .ok arguments
  | _, [] => .ok []
  | n + 1, argument :: rest =>
    let splice (before : List Bytes) (text : Bytes) (rest : List Bytes) :
        Except Bytes (List Bytes) := do
      return before ++ (← spliced m n ((← splitWords m text) ++ rest))
    let keep : Except Bytes (List Bytes) := do return argument :: (← spliced m n rest)
    let long := "--split-string".toList
    match argument with
    | '-' :: '-' :: name =>
      if argument = long then splice [] (rest.headD []) (rest.drop 1)
      else if (long ++ ['=']).isPrefixOf argument then
        splice [] (argument.drop (long.length + 1)) rest
      else if name = [] then .ok (argument :: rest)
      else keep
    | '-' :: letters =>
      let plain := letters.takeWhile fun c => c ∈ ['i', 'v', '0']
      let before := if plain = [] then [] else ['-' :: plain]
      match letters.drop plain.length, rest with
      | ['S'], text :: rest => splice before text rest
      | 'S' :: text, _ => if text = [] then keep else splice before text rest
      | ['u'], value :: rest | ['C'], value :: rest => do
        return argument :: value :: (← spliced m n rest)
      | _, _ => keep
    | _ => .ok (argument :: rest)

/-- Shows the variables of a program, or starts one with others. -/
def env : Tool := fun c => do
  match spliced (← get) (c.arguments.length + 100) c.arguments with
  | .error text => c.fail 125 text
  | .ok arguments =>
    let c : Call := { c with arguments }
    let forms := [flag 'i' "ignore-environment", flag '0' "null", valued 'u' "unset",
      valued 'C' "chdir", valued 'S' "split-string", flag 'v' "debug",
      longVariant "block-signal", longVariant "default-signal", longVariant "ignore-signal",
      longFlag "list-signal-handling"]
    c.withOptionsUpTo true 125 forms fun g => do
      let kinds := ["block-signal", "default-signal", "ignore-signal"]
      let signals := (kinds.flatMap g.values).flatMap (·.splitOn ',')
      match signals.find? fun s => s ≠ [] && (Builtin.signalNumber? false s).isNone with
      | some s => return ← c.misused 125 (inSingleQuotes s ++ ": invalid signal".toList)
      | none => pure ()
      let tell (text : String) (arguments : List Bytes) : Action Unit := do
        if g.has "v" then complain (filled text arguments)
      let isDash := g.operands.head? = some ['-']
      let operands := if isDash then g.operands.drop 1 else g.operands
      if isDash || g.has "i" then
        tell "cleaning environ" []
        modify fun m =>
          { m with bindings := m.bindings.map fun b => (b.1, { b.2 with isExported := false }) }
      else
        for name in g.values "u" do
          tell "unset:    %" [name]
          if name = [] || '=' ∈ name then
            return ← c.fail 125 (filled "cannot unset %: %"
              [inSingleQuotes name, describe .invalid])
          modify fun m => m.bind name none
      let assignments := (operands.map assigned?).takeWhile Option.isSome
      for (name, value) in assignments.filterMap id do
        tell "setenv:   %=%" [name, value]
        modify fun m => m.bind name (some ⟨some value, true, false⟩)
      let words := operands.drop assignments.length
      let isList := words = []
      if g.has "0" && !isList then
        return ← c.misused 125 "cannot specify --null (-0) with command".toList
      match g.value? "C" with
      | some path =>
        if isList then return ← c.misused 125 "must specify command with --chdir (-C)".toList
        tell "chdir:    %" [inQuotes path]
        let m ← get
        let found : Except SystemError Sandbox.Place := do
          let (_, node) ← m.nodeOf path
          if node.kind = .directory then m.find path else throw .notADirectory
        match found with
        | .ok here => set { m with here }
        | .error e =>
          return ← c.fail 125 (filled "cannot change directory to %: %"
            [inQuotes path, describe e])
      | none => pure ()
      if isList then
        for (name, value) in (← get).environment do
          print (name ++ '=' :: value ++ [if g.has "0" then '\x00' else '\n'])
        return 0
      tell "executing: %" [words.headD []]
      for (word, i) in words.zipIdx do
        tell "   arg[%]= %" [Bytes.ofInt i, inSingleQuotes word]
      match ← c.start words with
      | .ok status => return status
      | .error e =>
        c.say (inSingleQuotes (words.headD []) ++ ": ".toList ++ describe e)
        if e = .notFound && (words.headD []).any Text.isSpace then
          c.say "use -[v]S to pass options in shebang lines".toList
        return startStatus e

/-- Shows the values of variables. -/
def printenv : Tool := fun c => c.withOptionsUpTo true 2 [flag '0' "null"] fun g => do
  let ending : Bytes := [if g.has "0" then '\x00' else '\n']
  let found := (← get).environment
  if g.operands = [] then
    for (name, value) in found do
      print (name ++ '=' :: value ++ ending)
    return 0
  let results := g.operands.map fun name => if '=' ∈ name then none else found.lookup name
  for value in results.filterMap id do
    print (value ++ ending)
  return Call.statusOf (results.all Option.isSome)

/-! ## Other ways to start -/

/-- The milliseconds that a text such as `1.5m` stands for. -/
def duration? (text : Bytes) : Option Nat :=
  let whole := text.takeWhile Char.isDigit
  let rest := text.drop whole.length
  let (part, unit) : Bytes × Bytes := match rest with
    | '.' :: rest => (rest.takeWhile Char.isDigit, rest.dropWhile Char.isDigit)
    | _ => ([], rest)
  let factor? : Option Nat := match unit with
    | [] | ['s'] => some 1
    | ['m'] => some 60
    | ['h'] => some 3600
    | ['d'] => some 86400
    | _ => none
  if text = "inf".toList || text = "infinity".toList then some (Nat.pow 10 12)
  else if whole = [] && part = [] then none
  else
    factor?.map fun factor =>
      let digits := part.take 9
      (digitsValue whole * Nat.pow 10 digits.length + digitsValue digits) * factor * 1000 /
        Nat.pow 10 digits.length

/-- Does something to which a signal comes at a time if it has not ended yet. The result is nothing
then. -/
def upTo {α : Type} (limit signal : Nat) : Turn Jump Machine α → Turn Jump Machine (Option α)
  | .done (.ok a) m => .done (.ok (some a)) m
  | .done (.error j) m => .done (.error j) m
  | .paused time isOver m rest =>
    .paused (some (min limit (time.getD limit))) isOver m fun m =>
      if m.clock < limit || (time.any (· ≤ limit)) || isOver m then upTo limit signal (rest m)
      else if m.isDeadly signal then .done (.ok none) m
      else
        let goOn : Action (Option α) := do
          if ((m.traps.lookup signal).getD []) ≠ [] then Builtin.announce signal
          let _ ← (show Action α from rest)
          return none
        goOn (m.signalled m.own signal)

/-- Starts a program and ends it after some time. -/
def timeout : Tool := fun c =>
  c.withOptionsUpTo true 125
    [valued 'k' "kill-after", valued 's' "signal", longFlag "foreground",
      longFlag "preserve-status", flag 'v' "verbose"] fun g => do
    for text in g.values "k" do
      if (duration? text).isNone then
        return ← c.misused 125 ("invalid time interval ".toList ++ inSingleQuotes text)
    let name := (g.value? "s").getD "TERM".toList
    match Builtin.signalNumber? false
      (if "SIG".toList.isPrefixOf name then name.drop 3 else name), g.operands with
    | none, _ => c.misused 125 (inSingleQuotes name ++ ": invalid signal".toList)
    | _, [] | _, [_] => c.misused 125 []
    | some signal, time :: words =>
      match duration? time with
      | none => c.misused 125 ("invalid time interval ".toList ++ inSingleQuotes time)
      | some limit =>
        if limit = 0 then return ← c.become words runFault
        let m ← get
        match ← (show Action (Option Nat) from fun m => upTo (m.clock + limit) signal (c.become words runFault m)) with
        | some status => return status
        | none =>
          modify fun after => { after with toContext := m.toContext }
          if g.has "v" then
            c.say (filled "sending signal % to command %"
              [Builtin.signalName signal, inSingleQuotes (words.headD [])])
          if signal = 9 then throw (.killed 9)
          return if g.has "preserve-status" then 128 + signal else 124

/-- Arguments in which a number alone stands for an option. -/
def withNumberOption (arguments : List Bytes) : List Bytes :=
  match arguments with
  | ('-' :: d :: ds) :: rest =>
    let digits := if d = '-' || d = '+' then ds else d :: ds
    if digits ≠ [] && digits.all Char.isDigit then "-n".toList :: (d :: ds) :: rest
    else arguments
  | _ => arguments

/-- Starts a program with another urgency. -/
def nice : Tool := fun c =>
  let c : Call := { c with arguments := withNumberOption c.arguments }
  c.withOptionsUpTo true 125 [valued 'n' "adjustment"] fun g => do
    let urgency := "NICENESS".toList
    let before := (((← get).lookup? urgency).bind integer?).getD 0
    match (g.value? "n").map fun text => (text, integer? text) with
    | some (text, none) => c.fail 125 ("invalid adjustment ".toList ++ inSingleQuotes text)
    | given =>
      match g.operands, given with
      | [], some _ => c.misused 125 "a command must be given with an adjustment".toList
      | [], none =>
        print (Bytes.ofInt before ++ ['\n'])
        return 0
      | words, given =>
        let after := max (-20) (min 19 (before + ((given.bind (·.2)).getD 10)))
        modify fun m => m.bind urgency (some ⟨some (Bytes.ofInt after), false, false⟩)
        c.become words inSingleQuotes

/-- Starts a program that goes on when its terminal is gone. -/
def nohup : Tool := fun c => c.withOptionsUpTo true 125 [] fun g =>
  if g.operands = [] then c.misused 125 "missing operand".toList
  else c.become g.operands runFault

/-- Starts a program with other blocks of input and output. -/
def stdbuf : Tool := fun c =>
  c.withOptionsUpTo true 125 [valued 'i' "input", valued 'o' "output", valued 'e' "error"] fun g => do
    let isMode (text : Bytes) : Bool := text = ['L'] || (digitsValue? text).isSome
    match g.options.find? fun o => !isMode o.2 with
    | some o => return ← c.fail 125 ("invalid mode ".toList ++ inSingleQuotes o.2)
    | none => pure ()
    if (g.values "i").contains ['L'] then
      return ← c.misused 125 "line buffering stdin is meaningless".toList
    if g.operands = [] then return ← c.misused 125 "missing operand".toList
    if g.options = [] then
      return ← c.misused 125 "you must specify a buffering mode option".toList
    c.become g.operands runFault

/-- Starts a program in a session of its own. -/
def setsid : Tool := fun c =>
  c.withOptionsUpTo true 1 [flag 'c' "ctty", flag 'f' "fork", flag 'w' "wait"] fun g =>
    if g.operands = [] then c.misused 1 "no command specified".toList
    else c.become g.operands fun name => "failed to execute ".toList ++ name

end Tool

end TokenConformance.Sandbox.Shell
