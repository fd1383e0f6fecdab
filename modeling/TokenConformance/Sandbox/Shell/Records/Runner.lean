import TokenConformance.Sandbox.Shell.Records.Matching
import TokenConformance.Sandbox.Shell.Records.Values
import TokenConformance.Sandbox.Shell.Tool.Starting

/-! # Running scripts: what is kept

* `Runner`: how far a script has run; `Run` is something that changes that.
* `Run.failing`: ends a script at a fault.
* `valueOf`, `setVariable`, `field`, `setField`: what a script reads and changes.
* `Place`: where a value can be put.
* `emit`, `flushAll`, `close`: output.
* `nextRecord`, `recordFrom`: input.
-/

namespace TokenConformance.Sandbox.Shell.Records

open Sandbox.Text (Bytes Regex)
open Shell.Tool (filled print printDirectly flush)

/-- Something of a routine's own. -/
inductive Own where
  | value (v : Value)
  | table (n : Nat)
deriving Inhabited

/-- From where records are read besides the input: what is left of it, and the status of the command
that has written it. -/
structure Reader where
  isCommand : Bool
  name : Bytes
  rest : Bytes
  status : Nat
deriving Inhabited

/-- To what something is written besides the output. -/
inductive WriterKind where
  | channel (n : Nat)
  | command
  /-- The output itself, when it has been named. -/
  | output
deriving DecidableEq, Inhabited

/-- Something that is written to, with what has not been written yet, its last byte first. -/
structure Writer where
  kind : WriterKind
  name : Bytes
  waiting : Bytes
deriving Inhabited

/-- The record that is worked on. -/
structure Record where
  value : Value
  fields : Array Value
  /-- Whether the fields are those of the value. -/
  isSplit : Bool
  /-- Whether the value is that of the fields. -/
  isJoined : Bool
  /-- What separates fields. -/
  separator : Bytes
deriving Inhabited

/-- How far a script has run. -/
structure Runner where
  values : Array Value
  tables : Array Table
  own : Array Own
  record : Record
  regexes : List (Bytes × Regex)
  readers : List Reader
  writers : List Writer
  /-- What is left of the file that is read. -/
  input : Option Bytes
  /-- The number of the argument that comes next, and whether a file has been read. -/
  argument : Nat
  hasInput : Bool
  /-- The ranges that have started, by the numbers of their rules. -/
  ranges : List Nat
  status : Nat
  seed : Value
  random : Nat
  /-- How many calls of routines are open. -/
  depth : Nat
deriving Inhabited

/-- Why what is done goes on elsewhere. -/
inductive Leap where
  | next
  | nextFile
  | exit
  | giveBack (v : Value)
  | leave
  | goOn
  /-- A fault has been told. -/
  | failed
deriving Inhabited

/-- Something that changes how far a script has run. -/
abbrev Run := ExceptT Leap (StateT Runner Action)

/-- Does what a program does. -/
def act {α : Type} (a : Action α) : Run α := ExceptT.lift (StateT.lift a)

/-! ## Variables -/

/-- The value of a variable that every script has. -/
def known (name : String) : Run Value := do
  return (← get).values.getD (knownNumber name) .unset

/-- Changes a variable that every script has. -/
def setKnown (name : String) (v : Value) : Run Unit :=
  modify fun s => { s with values := s.values.setIfInBounds (knownNumber name) v }

/-- The format of numbers that become texts. -/
def numberFormat : Run Bytes := do return (← known "CONVFMT").toText []

/-- The text of a value. -/
def textOf (v : Value) : Run Bytes := do
  match v with
  | .number _ => return v.toText (← numberFormat)
  | _ => return v.toText []

/-- The text of a variable that every script has. -/
def knownText (name : String) : Run Bytes := do textOf (← known name)

/-- Tells a fault and ends the script. -/
def failing {α : Type} (c : Call) (text : Bytes) : Run α := do
  act (c.sayFirst text)
  modify fun s => { s with status := 2 }
  throw .failed

/-- Tells a fault with the place in the input, and ends the script. -/
def runFault {α : Type} (c : Call) (text : Bytes) : Run α := do
  let place := filled "\n\tFILENAME=\"%\" FNR=% NR=%"
    [← knownText "FILENAME", ← knownText "FNR", ← knownText "NR"]
  failing c ("run time error: ".toList ++ text ++ place)

/-- An expression that is written in a text. -/
def regexOf (c : Call) (text : Bytes) : Run Regex := do
  match (← get).regexes.lookup text with
  | some r => return r
  | none =>
    match readRegex text with
    | .ok r =>
      modify fun s => { s with regexes := (text, r) :: s.regexes }
      return r
    | .error why => runFault c (regexFault text why)

/-! ## Fields -/

/-- The parts of a text between separators. -/
def splitBy (c : Call) (separator text : Bytes) : Run (List Bytes) := do
  match separator with
  | [' '] => return splitBlank text
  | [] => return text.map fun c => [c]
  | [mark] => return if text = [] then [] else text.splitOn mark
  | _ => return splitAt (← regexOf c separator) text

/-- Makes another text the record. -/
def setRecord (v : Value) : Run Unit := do
  let separator ← knownText "FS"
  modify fun s => { s with record := ⟨v, #[], false, true, separator⟩ }

/-- Makes sure that the record is split into fields. -/
def splitRecord (c : Call) : Run Unit := do
  let r := (← get).record
  if !r.isSplit then
    let parts ← splitBy c r.separator (← textOf r.value)
    modify fun s => { s with
      record := { s.record with fields := (parts.map Value.input).toArray, isSplit := true } }
    setKnown "NF" (.number parts.length.toFloat)

/-- Makes sure that the record is that of its fields. -/
def joinRecord : Run Unit := do
  let r := (← get).record
  if !r.isJoined then
    let between ← knownText "OFS"
    let texts ← r.fields.toList.mapM textOf
    modify fun s => { s with
      record := { s.record with value := .input (Bytes.joined between texts), isJoined := true } }

/-- Makes sure that there are so many fields. -/
def setFieldCount (c : Call) (n : Nat) : Run Unit := do
  splitRecord c
  modify fun s =>
    let fields := s.record.fields
    let fields := if n < fields.size then fields.extract 0 n
      else fields ++ Array.replicate (n - fields.size) (Value.text [])
    { s with record := { s.record with fields, isJoined := false } }
  setKnown "NF" (.number n.toFloat)

/-- The record. -/
def wholeRecord : Run Value := do
  joinRecord
  return (← get).record.value

/-- A field by its number. -/
def field (c : Call) (n : Int) : Run Value := do
  if n = 0 then wholeRecord
  else if n < 0 then runFault c (filled "negative field index $%" [Bytes.ofInt n])
  else
    splitRecord c
    return (← get).record.fields.getD (n.toNat - 1) (.text [])

/-- Changes a field. -/
def setField (c : Call) (n : Int) (v : Value) : Run Unit := do
  if n = 0 then setRecord v
  else if n < 0 then runFault c (filled "negative field index $%" [Bytes.ofInt n])
  else
    splitRecord c
    let i := n.toNat
    if (← get).record.fields.size < i then setFieldCount c i
    modify fun s => { s with
      record := { s.record with
        fields := s.record.fields.setIfInBounds (i - 1) v, isJoined := false } }

/-- The value of a variable. -/
def valueOf (c : Call) : Slot → Run Value
  | .own i => do
    match (← get).own[i]? with
    | some (.value v) => return v
    | _ => return .unset
  | .shared i => do
    if i = knownNumber "NF" then splitRecord c
    return (← get).values.getD i .unset

/-- Changes a variable. -/
def setVariable (c : Call) (slot : Slot) (v : Value) : Run Unit := do
  match slot with
  | .own i => modify fun s => { s with own := s.own.setIfInBounds i (.value v) }
  | .shared i =>
    if i = knownNumber "NF" then
      let n := wholePart v.toNumber
      if n < 0 then runFault c "negative value assigned to NF".toList
      setFieldCount c n.toNat
    else modify fun s => { s with values := s.values.setIfInBounds i v }

/-! ## Tables -/

/-- The number of a table. -/
def tableNumber (slot : Slot) : Run Nat := do
  match slot with
  | .shared i => return i
  | .own i =>
    match (← get).own[i]? with
    | some (.table n) => return n
    | _ => return (← get).tables.size

/-- A table. -/
def tableAt (slot : Slot) : Run Table := do
  return (← get).tables.getD (← tableNumber slot) .empty

/-- Changes a table. -/
def changeTable (slot : Slot) (f : Table → Table) : Run Unit := do
  let n ← tableNumber slot
  modify fun s => { s with tables := s.tables.modify n f }

/-- The value of a key. -/
def elementOf (slot : Slot) (key : Key) : Run Value := do
  let (v, t) := (← tableAt slot).get key
  changeTable slot fun _ => t
  return v

/-! ## Places -/

/-- Where a value can be put. -/
inductive Place where
  | variable (slot : Slot)
  | field (n : Int)
  | element (slot : Slot) (key : Key)
  | nowhere
deriving Inhabited

/-- The value in a place. -/
def Place.get (c : Call) : Place → Run Value
  | .variable slot => valueOf c slot
  | .field n => Records.field c n
  | .element slot key => elementOf slot key
  | .nowhere => return .unset

/-- Puts a value into a place. -/
def Place.set (c : Call) (v : Value) : Place → Run Unit
  | .variable slot => setVariable c slot v
  | .field n => setField c n v
  | .element slot key => changeTable slot (·.set key v)
  | .nowhere => return ()

/-! ## Output -/

/-- Writes what waits to be written to a file. -/
def flushWriter (w : Writer) : Run Writer := do
  match w.kind with
  | .command | .output => return w
  | .channel n =>
    let m : Machine ← act MonadState.get
    match m.written n w.waiting.reverse with
    | .ok m => act (MonadState.set m)
    | .error _ => pure ()
    return { w with waiting := [] }

/-- Writes all that waits to be written. -/
def flushAll : Run Unit := do
  act flush
  let writers ← (← get).writers.mapM flushWriter
  modify fun s => { s with writers }

/-- The names that stand for the output. -/
def outputNames : List Bytes := ["-".toList, "/dev/stdout".toList]

/-- Makes sure that something can be written to. What has been used last comes first. -/
def openWriter (c : Call) (isCommand appends : Bool) (name : Bytes) : Run Writer := do
  let isMine (w : Writer) : Bool := w.name = name && (w.kind = .command) = isCommand
  match (← get).writers.find? isMine with
  | some w =>
    modify fun s => { s with writers := s.writers.filter fun w => !isMine w }
    return w
  | none =>
    if isCommand then
      flushAll
      return ⟨.command, name, []⟩
    else if outputNames.contains name then return ⟨.output, name, []⟩
    else
      match ← act (openPath (if appends then .appending else .writing) name) with
      | .ok n => return ⟨.channel n, name, []⟩
      | .error e => failing c (filled "cannot open \"%\" for output (%)" [name, describe e])

/-- Writes a text to something with a name. -/
def emit (c : Call) (isCommand appends : Bool) (name text : Bytes) : Run Unit := do
  if !isCommand && name = "/dev/stderr".toList then
    let _ ← act (write 2 text)
  else
    let name := if !isCommand && outputNames.contains name then "/dev/stdout".toList else name
    let w ← openWriter c isCommand appends name
    let waiting ← if w.kind = .output then do
        act (print text)
        pure []
      else pure (text.reverseAux w.waiting)
    modify fun s => { s with writers := { w with waiting } :: s.writers }

/-- Ends what is written to, or read from. The result is the status of a command, and nothing if
nothing has that name. -/
def close (c : Call) (name : Bytes) : Run (Option Nat) := do
  let s ← get
  let (mine, others) := s.writers.partition fun w => w.name = name && w.kind ≠ .output
  let (readers, otherReaders) := s.readers.partition fun r => r.name = name
  set { s with writers := others, readers := otherReaders }
  let statuses ← mine.mapM fun w => do
    match w.kind with
    | .command => act (c.runOn "/bin/sh".toList w.name w.waiting.reverse)
    | .channel _ | .output =>
      let _ ← flushWriter w
      return 0
  return (statuses ++ readers.map Reader.status).getLast?

/-- Ends everything that is written to, what has been used last first. -/
def closeAll (c : Call) : Run Unit := do
  let writers := (← get).writers
  modify fun s => { s with writers := [] }
  for w in writers do
    match w.kind with
    | .command =>
      let _ ← act (c.runOn "/bin/sh".toList w.name w.waiting.reverse)
    | .channel _ =>
      let _ ← flushWriter w
    | .output => act flush
  act flush

/-! ## Records -/

/-- The first record of a text that is not empty, and what follows it. -/
def firstRecord (c : Call) (text : Bytes) : Run (Bytes × Bytes) := do
  match ← knownText "RS" with
  | [] =>
    let text := text.dropWhile (· = '\n')
    let rec paragraph : Bytes → Bytes × Bytes
      | [] => ([], [])
      | '\n' :: '\n' :: rest => ([], rest.dropWhile (· = '\n'))
      | c :: rest =>
        let (line, rest) := paragraph rest
        (c :: line, rest)
    let (record, rest) := paragraph text
    return (if rest = [] then Tool.withoutMark '\n' record else record, rest)
  | [mark] =>
    let record := text.takeWhile (· ≠ mark)
    return (record, text.drop (record.length + 1))
  | separator =>
    let r ← regexOf c separator
    let s : Text.Subject := ⟨text.toArray, false⟩
    match r.findSpan? s (fun span => span.1 < span.2) (text.length + 1) 0 with
    | some (start, finish) => return (text.take start, text.drop finish)
    | none => return (text, [])

/-- The record that comes next in a text, and what follows it. -/
def recordFrom (c : Call) (text : Bytes) : Run (Option (Bytes × Bytes)) := do
  let isOver := if (← knownText "RS") = [] then text.all (· = '\n') else text = []
  if isOver then return none else return some (← firstRecord c text)

/-- A variable with a value among the arguments. -/
def namedValue? (text : Bytes) : Option (Bytes × Bytes) :=
  let name := text.takeWhile Text.isWordChar
  match text.drop name.length with
  | '=' :: value =>
    if name = [] || (name.head?.map Char.isDigit).getD false then none else some (name, value)
  | _ => none

/-- Gives a variable its value from the arguments. -/
def assignNamed (c : Call) (names : Array Bytes) (name value : Bytes) : Run Unit := do
  match names.toList.idxOf? name with
  | some i => setVariable c (.shared i) (.input (unescaped value.length value))
  | none => return ()

/-- Opens the file that comes next among the arguments. The number bounds how many there are. -/
def openNext (c : Call) (names : Array Bytes) : Nat → Run Bool
  | 0 => return false
  | n + 1 => do
    let s ← get
    let count := wholePart (← known "ARGC").toNumber
    if count ≤ (s.argument : Int) then
      if s.hasInput then return false
      openFile ['-']
      return true
    else
      set { s with argument := s.argument + 1 }
      let (found, arguments) := (← tableAt arguments).has (.number s.argument)
      let path ← if found then textOf (arguments.get (.number s.argument)).1 else pure []
      match path, namedValue? path with
      | [], _ => openNext c names n
      | _, some (name, value) =>
        assignNamed c names name value
        openNext c names n
      | _, none =>
        openFile path
        return true
where
  /-- The table of the arguments. -/
  arguments : Slot := .shared (knownNumber "ARGV")
  /-- Opens a file. -/
  openFile (path : Bytes) : Run Unit := do
    let path' := if path = "/dev/stdin".toList then ['-'] else path
    match ← act (Call.contentOf path') with
    | .ok content =>
      modify fun s => { s with input := some content, hasInput := true }
      setKnown "FILENAME" (.text path)
      setKnown "FNR" (.number 0)
    | .error .isADirectory => failing c "read error (Is a directory)".toList
    | .error e => failing c (filled "cannot open \"%\" (%)" [path, describe e])

/-- How many files may be opened for one record. -/
def mostFiles : Nat := 100000

/-- Counts one more record of the input. -/
def countRecord : Run Unit := do
  for name in ["NR", "FNR"] do
    setKnown name (.number ((← known name).toNumber + 1))

/-- The next record of the input. The number bounds how many files are opened. -/
def nextRecord (c : Call) (names : Array Bytes) : Nat → Run (Option Bytes)
  | 0 => return none
  | n + 1 => do
    match (← get).input with
    | some text =>
      match ← recordFrom c text with
      | some (record, rest) =>
        modify fun s => { s with input := some rest }
        countRecord
        return some record
      | none =>
        modify fun s => { s with input := none }
        nextRecord c names n
    | none => if ← openNext c names mostFiles then nextRecord c names n else return none

/-- The next record of a file or of the output of a command. There is none at its end, and the first
result says whether it could be read at all. -/
def recordOf (c : Call) (isCommand : Bool) (name : Bytes) : Run (Bool × Option Bytes) := do
  let isMine (r : Reader) : Bool := r.name = name && r.isCommand = isCommand
  let found : Option Reader ← match (← get).readers.find? isMine with
    | some r => pure (some r)
    | none =>
      if isCommand then
        let (text, status) ← act (c.outputOf "/bin/sh".toList name)
        pure (some ⟨true, name, text, status⟩)
      else
        let path := if name = "/dev/stdin".toList then ['-'] else name
        match ← act (Call.contentOf path) with
        | .ok text => pure (some ⟨false, name, text, 0⟩)
        | .error .isADirectory => failing c "read error (Is a directory)".toList
        | .error _ => pure none
  match found with
  | none => return (false, none)
  | some r =>
    let next ← recordFrom c r.rest
    let rest := (next.map (·.2)).getD []
    modify fun s => { s with
      readers := { r with rest } :: s.readers.filter fun r => !isMine r }
    return (true, next.map (·.1))

end TokenConformance.Sandbox.Shell.Records
