import TokenConformance.Sandbox.Shell.Builtin.Basic
import TokenConformance.Sandbox.Shell.Words

/-! # Commands of the shell for parameters

* `shift`, `setParameters`: the positional parameters and the options of the shell.
* `nextOption`: finds the options among arguments.
* `exportNames`, `protectNames`, `localNames`, `unsetNames`: what is known about variables.
-/

namespace TokenConformance.Sandbox.Shell.Builtin

open Sandbox.Text (Bytes)

/-- Leaves out the first parameters. -/
def shift : Builtin := fun arguments => do
  let count ← match arguments with
    | [] => pure 1
    | n :: _ => numberArgument n
  let m ← get
  if count > m.parameters.length then abort "can't shift that many".toList
  set { m with parameters := m.parameters.drop count }
  return 0

/-- The names of the options with their letters, in the order in which they are shown. -/
def optionNames : List (String × Option Char) :=
  [("errexit", some 'e'), ("noglob", some 'f'), ("ignoreeof", some 'I'), ("interactive", some 'i'),
    ("monitor", some 'm'), ("noexec", some 'n'), ("stdin", some 's'), ("xtrace", some 'x'),
    ("verbose", some 'v'), ("vi", some 'V'), ("emacs", some 'E'), ("noclobber", some 'C'),
    ("allexport", some 'a'), ("notify", some 'b'), ("nounset", some 'u'),
    ("privileged", some 'p'), ("nolog", none), ("debug", none)]

/-- The options with one of them switched on or off. -/
def optionSet? (isOn : Bool) (c : Char) (o : Options) : Option Options :=
  match c with
  | 'e' => some { o with leavesOnFailure := isOn }
  | 'u' => some { o with refusesUnset := isOn }
  | 'f' => some { o with keepsPatterns := isOn }
  | 'x' => some { o with traces := isOn }
  | 'v' => some { o with showsInput := isOn }
  | 'C' => some { o with keepsFiles := isOn }
  | 'a' => some { o with exportsAll := isOn }
  | 'n' => some { o with runsNothing := isOn }
  | _ =>
    if optionNames.any fun n => n.2 = some c then
      let others := o.others.filter (· ≠ c)
      some { o with others := if isOn then c :: others else others }
    else none

/-- The options that some letters switch on. -/
def optionsOf (letters : Bytes) : Options :=
  letters.foldl (fun o c => (optionSet? true c o).getD o) .none

/-- Switches an option. -/
def switchOption (isOn : Bool) (c : Char) : Action Unit := do
  let m ← get
  match optionSet? isOn c m.options with
  | some options =>
    if isOn && c = 'm' then report "can't access tty; job control turned off".toList
    else set { m with options }
  | none => abort ("Illegal option -".toList ++ [c])

/-- Switches the option with a name. -/
def switchNamed (isOn : Bool) (name : Bytes) : Action Unit := do
  match optionNames.find? fun o => o.1.toList = name with
  | some (_, some letter) => switchOption isOn letter
  | some (_, none) => return ()
  | none => abort ("Illegal option ".toList ++ [if isOn then '-' else '+', 'o', ' '] ++ name)

/-- The state of all options, as a table or as commands. -/
def optionTable (m : Machine) (asTable : Bool) : Bytes :=
  let line (o : String × Option Char) : Bytes :=
    let isOn := o.2.any fun c => c ∈ m.options.letters
    let name := o.1.toList
    if asTable then
      name ++ List.replicate (16 - name.length) ' ' ++ (if isOn then "on" else "off").toList
    else (if isOn then "set -o " else "set +o ").toList ++ name
  Bytes.ofLines ((if asTable then ["Current option settings".toList] else []) ++
    optionNames.map line)

/-- Switches options and gives the arguments after them. The number bounds how many there are. -/
def switchOptions : Nat → List Bytes → Action (List Bytes × Bool)
  | 0, arguments => return (arguments, false)
  | _, [] => return ([], false)
  | n + 1, argument :: rest => do
    match argument with
    | ['-', '-'] => return (rest, true)
    | ['-'] => do
      modify fun m => { m with options := { m.options with traces := false, showsInput := false } }
      return (rest, rest ≠ [])
    | sign :: cs =>
      if sign = '-' || sign = '+' then
        let isOn := sign = '-'
        for letter in cs.filter (· ≠ 'o') do
          switchOption isOn letter
        if 'o' ∈ cs then
          match rest with
          | [] => do
            let _ ← output (optionTable (← get) isOn)
            return ([], false)
          | name :: rest =>
            switchNamed isOn name
            switchOptions n rest
        else switchOptions n rest
      else return (argument :: rest, false)
    | _ => return (argument :: rest, false)

/-- The variables with their values, as commands. -/
def variableTable (m : Machine) (before : String) (isMeant : Binding → Bool) : Bytes :=
  let found := (m.bindings.filter fun b => isMeant b.2).mergeSort fun a b =>
    Bytes.isAtMost a.1 b.1
  Bytes.ofLines (found.map fun (name, b) =>
    before.toList ++ name ++ match b.value with
      | some value => '=' :: quoted value
      | none => [])

/-- Switches options and sets the parameters, or shows the variables. -/
def setParameters : Builtin := fun arguments => do
  if arguments = [] then return ← output (variableTable (← get) "" fun b => b.value.isSome)
  let (rest, isClosed) ← switchOptions (arguments.length + 1) arguments
  if isClosed || rest ≠ [] then
    modify fun m => { m with parameters := rest }
    modify fun m => { m with optionIndex := 1, optionOffset := none }
  return 0

/-! ## Options of scripts -/

/-- Where a search for options is. -/
structure Search where
  /-- The letter that has been found, or what is said instead. -/
  letter : Char
  value : Option Bytes
  /-- How many arguments have been used up. -/
  used : Nat
  /-- What is left of the last one of them, if there is more in it. -/
  left : Option Bytes
  isOver : Bool
  message : Bytes
deriving Inhabited

/-- Finds the next option. What is left of the argument before the next one is looked at first. The
letters that options may have are given, with a colon after those that take a value, and a colon in
front if nothing is to be said about faults. -/
def searched (letters : Bytes) (words : List Bytes) (used : Nat) (left : Option Bytes) : Search :=
  let finished (used : Nat) : Search := ⟨'?', none, used, none, true, []⟩
  let isSilent := letters.head? = some ':'
  let found (used : Nat) (c : Char) (rest : Bytes) : Search :=
    let fault (letter : Char) (text : Bytes) (value : Option Bytes) : Search :=
      ⟨letter, value, used, some rest, false, text⟩
    match if c = ':' then [] else letters.dropWhile (· ≠ c) with
    | [] =>
      if isSilent then fault '?' [] (some [c])
      else fault '?' ("Illegal option -".toList ++ [c]) none
    | _ :: ':' :: _ =>
      if rest ≠ [] then ⟨c, some rest, used, none, false, []⟩
      else
        match words[used]? with
        | some value => ⟨c, some value, used + 1, none, false, []⟩
        | none =>
          if isSilent then fault ':' [] (some [c])
          else fault '?' ("No arg for -".toList ++ c :: " option".toList) none
    | _ => ⟨c, some [], used, some rest, false, []⟩
  match left with
  | some (c :: rest) => found used c rest
  | _ =>
    match words[used]? with
    | some ('-' :: c :: rest) =>
      if c = '-' && rest = [] then finished (used + 1) else found (used + 1) c rest
    | _ => finished used

/-- Finds the next option among arguments. -/
def nextOption : Builtin := fun arguments => do
  match arguments with
  | letters :: name :: rest =>
    let m ← get
    let words := if rest = [] then m.parameters else rest
    let isPast := m.optionIndex > words.length + 1
    let used := if isPast then 0 else m.optionIndex - 1
    let left : Option Bytes :=
      if isPast || used = 0 then none
      else
        match m.optionOffset, words[used - 1]? with
        | some offset, some word => if word.length < offset then none else some (word.drop offset)
        | _, _ => none
    let s := searched letters words used left
    if s.message ≠ [] then complain s.message
    match s.value with
    | some value => setVariable "OPTARG".toList value
    | none => if !s.isOver then modify fun m => m.bind "OPTARG".toList none
    setVariable "OPTIND".toList (Bytes.ofInt (s.used + 1 : Nat))
    if !isName name then
      abort (name ++ ": bad variable name".toList)
    setVariable name [s.letter]
    let offset := s.left.map fun left => (words.getD (s.used - 1) []).length - left.length
    modify fun m => { m with optionIndex := s.used + 1, optionOffset := offset }
    return if s.isOver then 1 else 0
  | _ => abort "Usage: getopts optstring var [arg...]".toList

/-! ## Variables -/

/-- The name before an equals sign, and the value after it. -/
def nameAndValue (argument : Bytes) : Bytes × Option Bytes :=
  let name := argument.takeWhile (· ≠ '=')
  match argument.drop name.length with
  | [] => (name, none)
  | _ :: value => (name, some value)

/-- Does something for every name among arguments. Without names the variables are shown that are
meant. -/
def declare (command : String) (isMeant : Binding → Bool) (arguments : List Bytes)
    (f : Machine → Bytes → Machine) : Action Nat :=
  withLetters "p" arguments fun letters operands => do
    if operands = [] || letters ≠ [] then
      return ← output (variableTable (← get) (command ++ " ") isMeant)
    for argument in operands do
      let (name, value?) := nameAndValue argument
      if !isName name then
        abort (name ++ ": bad variable name".toList)
      match value? with
      | some value => setVariable name value
      | none => pure ()
      modify fun m => f m name
    return 0

/-- Makes variables known to the programs that are started. -/
def exportNames : Builtin := fun arguments =>
  declare "export" (·.isExported) arguments fun m name =>
    m.bind name (some { m.binding name with isExported := true })

/-- Makes variables that cannot be changed. -/
def protectNames : Builtin := fun arguments =>
  declare "readonly" (·.isReadOnly) arguments fun m name =>
    m.bind name (some { m.binding name with isReadOnly := true })

/-- Makes variables that keep their value only as long as a function runs. A hyphen stands for the
options. -/
def localNames : Builtin := fun arguments => do
  if (← get).saved = [] then abort "not in a function".toList
  for argument in arguments do
    let (name, value?) := nameAndValue argument
    let m ← get
    let frame := m.saved.headD []
    if name ≠ ['-'] && !isName name then
      abort (name ++ ": bad variable name".toList)
    let before : Option Binding :=
      if name = ['-'] then some ⟨some m.options.letters, false, false⟩ else m.bindings.lookup name
    let isNew := frame.all fun s => s.1 ≠ name
    let frame := if isNew then (name, before) :: frame else frame
    set { m with saved := frame :: m.saved.drop 1 }
    match value? with
    | some value => setVariable name value
    | none => pure ()
  return 0

/-- The machine with the variables, and maybe the options, as they were before a function. -/
def restored (m : Machine) (frame : List (Bytes × Option Binding)) : Machine :=
  frame.foldl
    (fun m (name, before) =>
      if name = ['-'] then { m with options := optionsOf ((before.bind (·.value)).getD []) }
      else m.bind name before) m

/-- Forgets variables or functions. -/
def unsetNames : Builtin := fun arguments => withLetters "vf" arguments fun letters operands => do
  for name in operands do
    let m ← get
    if 'f' ∈ letters then
      set { m with functions := m.functions.filter fun f => f.1 ≠ name }
    else
      if !isName name then
        abort (name ++ ": bad variable name".toList)
      if (m.binding name).isReadOnly then
        abort (name ++ ": is read only".toList)
      set (m.bind name none)
  return 0

end TokenConformance.Sandbox.Shell.Builtin
