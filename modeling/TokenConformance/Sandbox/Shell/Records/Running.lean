import TokenConformance.Sandbox.Shell.Records.Reader
import TokenConformance.Sandbox.Shell.Records.Runner

/-! # Running scripts that work on records

* `substituted`: a text with matches replaced.
* `evaluate`, `perform`: the value of an expression, and what a statement does.
* `runRules`: does what is done for a record.
* `runScript`: runs a script.
-/

namespace TokenConformance.Sandbox.Shell.Records

open Sandbox.Text (Bytes Regex Subject)
open Shell.Tool (filled print flush)

/-! ## Substitutions -/

/-- What is put in the place of a match. -/
def replacement (found : Bytes) : Bytes → Bytes
  | [] => []
  | '\\' :: '\\' :: '&' :: rest => '\\' :: found ++ replacement found rest
  | '\\' :: '&' :: rest => '&' :: replacement found rest
  | '&' :: rest => found ++ replacement found rest
  | c :: rest => c :: replacement found rest

/-- A text with matches replaced from a position on, the last byte first, and how many there were.
`previous` is where the last match ended. The number bounds how many positions there are. -/
def replacedFrom (r : Regex) (s : Subject) (isGlobal : Bool) (by' : Bytes) :
    Nat → Nat → Option Nat → Bytes → Nat → Bytes × Nat
  | 0, _, _, done, count => (done, count)
  | n + 1, i, previous, done, count =>
    let size := s.text.size
    let rest : Bytes := s.slice (i, size)
    if size < i then (done, count)
    else
      match r.findSpan? s (fun _ => true) (size + 1 - i) i with
      | none => (rest.reverseAux done, count)
      | some (start, finish) =>
        let before := (s.slice (i, start)).reverseAux done
        let written := (replacement (s.slice (start, finish)) by').reverseAux before
        if start = finish then
          let isNew := previous ≠ some start
          let written := if isNew then written else before
          let next := (s.slice (start, start + 1)).reverseAux written
          if isGlobal then
            replacedFrom r s isGlobal by' n (start + 1) previous next
              (if isNew then count + 1 else count)
          else ((s.slice (start, size)).reverseAux written, 1)
        else if isGlobal then
          replacedFrom r s isGlobal by' n finish (some finish) written (count + 1)
        else ((s.slice (finish, size)).reverseAux written, 1)

/-- A text with matches replaced, and how many there were. -/
def substituted (r : Regex) (isGlobal : Bool) (by' text : Bytes) : Bytes × Nat :=
  let (done, count) :=
    replacedFrom r ⟨text.toArray, false⟩ isGlobal by' (text.length + 2) 0 none [] 0
  (done.reverse, count)

/-- Where a text is found in another one, counted from one, and zero if it is not. The first number is
the place where the text starts that is left. -/
def indexFrom (i : Nat) (part : Bytes) : Bytes → Nat
  | [] => if part = [] then i else 0
  | c :: cs => if part.isPrefixOf (c :: cs) then i else indexFrom (i + 1) part cs

/-! ## Values -/

/-- What runs a script. -/
structure Scene where
  call : Call
  script : Script

/-- A number as a value. -/
def ofNat (n : Nat) : Value := .number n.toFloat

/-- A condition as a value. -/
def ofBool (b : Bool) : Value := .number (if b then 1 else 0)

/-- The key that some values are. -/
def keyOf (vs : List Value) : Run Key := do
  match vs with
  | [v] => return v.toKey (← numberFormat)
  | _ => return .text (Bytes.joined (← knownText "SUBSEP") (← vs.mapM textOf))

/-- What a routine of numbers gives. -/
def numberRoutine? (name : String) : Option (Float → Float) :=
  match name with
  | "sin" => some Float.sin
  | "cos" => some Float.cos
  | "exp" => some Float.exp
  | "log" => some Float.log
  | "sqrt" => some Float.sqrt
  | "int" => some fun x => if x < 0 then x.ceil else x.floor
  | _ => none

/-- How many calls of routines may be open. -/
def mostCalls : Nat := 1000

/-- The next random number. -/
def nextRandom (n : Nat) : Nat := (n * 1103515245 + 12345) % 2147483648

/-- The text and the format of values. The fault ends the script after what has been written. -/
def formatted (c : Call) (name : String) (vs : List Value) : Run (Bytes × Option Bytes) := do
  let f := format (← numberFormat) name (← textOf (vs.headD .unset)) vs.tail
  if name = "sprintf" then
    match f.fault with
    | some why => runFault c why
    | none => pure ()
  return (f.written.reverse, f.fault)

/-- Ends a loop where it is left, and goes on where it is gone on with. -/
def goesOn (body : Run Unit) : Run Bool := do
  tryCatch (do body; return true) fun
    | .leave => return false
    | .goOn => return true
    | leap => throw leap

/-- The place that an expression names. -/
def placeOf (value : Expr → Run Value) : Expr → Run Place
  | .variable slot => return .variable slot
  | .field e => do return .field (wholePart (← value e).toNumber)
  | .element table es => do return .element table (← keyOf (← es.mapM value))
  | _ => return .nowhere

mutual

/-- The value of an expression. The number bounds how much is done. -/
def evaluate (sc : Scene) : Nat → Expr → Run Value
  | 0, _ => failing sc.call "too much to do".toList
  | n + 1, e => do
    let c := sc.call
    let value (e : Expr) : Run Value := evaluate sc n e
    let keys (es : List Expr) : Run Key := do keyOf (← es.mapM value)
    match e with
    | .number x => return .number x
    | .text t => return .text t
    | .regex r => return ofBool (r.isIn (← textOf (← wholeRecord)))
    | .variable slot => valueOf c slot
    | .field e => field c (wholePart (← value e).toNumber)
    | .element table es => elementOf table (← keys es)
    | .inside e => value e
    | .several _ => return .unset
    | .assign o target e =>
      let place ← placeOf value target
      let v ← value e
      let v ← match o with
        | none => pure v
        | some o => do pure (.number (o.apply (← place.get c).toNumber v.toNumber))
      place.set c v
      return v
    | .step o isBefore target =>
      let place ← placeOf value target
      let x := (← place.get c).toNumber
      let v : Value := .number (o.apply x 1)
      place.set c v
      return if isBefore then .number x else v
    | .negative e => return .number (-(← value e).toNumber)
    | .positive e => return .number (← value e).toNumber
    | .not e => return ofBool !(← value e).isTrue
    | .operation o a b =>
      let x := (← value a).toNumber
      return .number (o.apply x (← value b).toNumber)
    | .comparison o a b =>
      let x ← value a
      let y ← value b
      return ofBool (x.compare (← numberFormat) o y)
    | .join a b =>
      let s ← textOf (← value a)
      return .text (s ++ (← textOf (← value b)))
    | .matching isNegated a b =>
      let text ← textOf (← value a)
      let r ← match b with
        | .regex r => pure r
        | _ => regexOf c (← textOf (← value b))
      return ofBool (r.isIn text != isNegated)
    | .member es table =>
      let key ← keys es
      let (isThere, t) := (← tableAt table).has key
      changeTable table fun _ => t
      return ofBool isThere
    | .both a b =>
      if (← value a).isTrue then return ofBool (← value b).isTrue else return ofBool false
    | .either a b =>
      if (← value a).isTrue then return ofBool true else return ofBool (← value b).isTrue
    | .choice e a b => if (← value e).isTrue then value a else value b
    | .call name es => callRoutine sc n name es
    | .known name es => callKnown sc n name es
    | .read source target =>
      let put (record : Bytes) : Run Unit := do
        match target with
        | some target => (← placeOf value target).set c (.input record)
        | none => setRecord (.input record)
      match source with
      | .input =>
        match ← nextRecord c sc.script.names mostFiles with
        | some record =>
          put record
          return .number 1
        | none => return .number 0
      | .file e | .command e =>
        let isCommand := match source with
          | .command _ => true
          | _ => false
        match ← recordOf c isCommand (← textOf (← value e)) with
        | (_, some record) =>
          put record
          return .number 1
        | (true, none) => return .number 0
        | (false, none) => return .number (-1)

/-- What a routine of the script gives back. -/
def callRoutine (sc : Scene) : Nat → Bytes → List Expr → Run Value
  | 0, _, _ => failing sc.call "too much to do".toList
  | n + 1, name, es => do
    match sc.script.routines.find? fun r => r.name = name with
    | none => failing sc.call (filled "function % never defined" [name])
    | some r =>
      if mostCalls < (← get).depth then
        runFault sc.call (filled "function call nesting too deep in %" [name])
      let count := (← get).tables.size
      let mut own : Array Own := #[]
      let mut fresh := 0
      for (isTable, i) in r.areTables.zipIdx do
        match isTable, es[i]? with
        | true, some (.variable slot) => own := own.push (.table (← tableNumber slot))
        | true, _ =>
          own := own.push (.table (count + fresh))
          fresh := fresh + 1
        | false, some e => own := own.push (.value (← evaluate sc n e))
        | false, none => own := own.push (.value .unset)
      let before := (← get).own
      modify fun s => { s with
        own, depth := s.depth + 1, tables := s.tables ++ Array.replicate fresh .empty }
      let result : Value ← tryCatch
        (do
          perform sc n r.body
          return .unset) fun
        | .giveBack v => return v
        | leap => throw leap
      modify fun s => { s with
        own := before, depth := s.depth - 1, tables := s.tables.extract 0 count }
      return result

/-- What a routine gives back that every script has. -/
def callKnown (sc : Scene) : Nat → String → List Expr → Run Value
  | 0, _, _ => failing sc.call "too much to do".toList
  | n + 1, name, es => do
    let c := sc.call
    let value (e : Expr) : Run Value := evaluate sc n e
    let text (e : Expr) : Run Bytes := do textOf (← value e)
    let regex (e : Expr) : Run Regex := do
      match e with
      | .regex r => return r
      | e => regexOf c (← text e)
    match name, es with
    | "length", [] => return ofNat (← textOf (← wholeRecord)).length
    | "length", [.variable slot] =>
      let isTable : Bool ← match slot with
        | .shared i => pure (((← get).tables.getD i .empty).size ≠ 0)
        | .own i => pure (match (← get).own[i]? with
          | some (.table _) => true
          | _ => false)
      if isTable then return ofNat (← tableAt slot).size
      else return ofNat (← textOf (← valueOf c slot)).length
    | "length", [e] => return ofNat (← text e).length
    | "index", [a, b] =>
      let s ← text a
      return ofNat (indexFrom 1 (← text b) s)
    | "substr", [a, b] =>
      let s ← text a
      return .text (partFrom s (wholePart (← value b).toNumber) none)
    | "substr", [a, b, e] =>
      let s ← text a
      let start := wholePart (← value b).toNumber
      return .text (partFrom s start (some (wholePart (← value e).toNumber)))
    | "sprintf", es => return .text (← formatted c name (← es.mapM value)).1
    | "split", a :: .variable table :: rest =>
      let s ← text a
      let parts ← match rest with
        | [.regex r] => pure (splitAt r s)
        | [e] => splitBy c (← text e) s
        | _ => splitBy c (← knownText "FS") s
      changeTable table fun _ => .ofValues (parts.map .input)
      return ofNat parts.length
    | "sub", e :: by' :: rest | "gsub", e :: by' :: rest =>
      let r ← regex e
      let by' ← text by'
      let target := rest.headD (.field (.number 0))
      let (done, count) := substituted r (name = "gsub") by' (← text target)
      if 0 < count then (← placeOf value target).set c (.text done)
      return ofNat count
    | "match", [a, e] =>
      let s ← text a
      let r ← regex e
      let found := r.findSpan? ⟨s.toArray, false⟩ (fun _ => true) (s.length + 1) 0
      let (start, length) : Nat × Value := match found with
        | some (i, j) => (i + 1, ofNat (j - i))
        | none => (0, .number (-1))
      setKnown "RSTART" (ofNat start)
      setKnown "RLENGTH" length
      return ofNat start
    | "atan2", [a, b] =>
      let y := (← value a).toNumber
      return .number (Float.atan2 y (← value b).toNumber)
    | "rand", _ =>
      let next := nextRandom (← get).random
      modify fun s => { s with random := next }
      return .number (next.toFloat / 2147483648)
    | "srand", es =>
      let old := (← get).seed
      let new ← match es with
        | [e] => value e
        | _ => pure (.number 0)
      modify fun s => { s with seed := new, random := (wholePart new.toNumber).natAbs }
      return old
    | "system", [e] =>
      let command ← text e
      flushAll
      let status ← act (c.start (shellWords "sh".toList command))
      return ofNat (status.toOption.getD 127)
    | "close", [e] =>
      match ← close c (← text e) with
      | some status => return ofNat status
      | none => return .number (-1)
    | "fflush", [] =>
      flushAll
      return .number 0
    | "fflush", [e] =>
      let name ← text e
      let isThere := name ∈ outputNames || name = "/dev/stderr".toList ||
        (← get).writers.any fun w => w.name = name
      if isThere then flushAll
      return .number (if isThere then 0 else -1)
    | "tolower", [e] => return .text ((← text e).map Char.toLower)
    | "toupper", [e] => return .text ((← text e).map Char.toUpper)
    | name, [e] =>
      match numberRoutine? name with
      | some f => return .number (f (← value e).toNumber)
      | none => return .unset
    | _, _ => return .unset

/-- Does what a statement says. The number bounds how much is done. -/
def perform (sc : Scene) : Nat → Statement → Run Unit
  | 0, _ => failing sc.call "too much to do".toList
  | n + 1, st => do
    let c := sc.call
    let value (e : Expr) : Run Value := evaluate sc n e
    let holds (e : Expr) : Run Bool := do return (← value e).isTrue
    let put (t : Target) (text : Bytes) : Run Unit := do
      match t with
      | .output => act (print text)
      | .file e => emit c false false (← textOf (← value e)) text
      | .append e => emit c false true (← textOf (← value e)) text
      | .command e => emit c true false (← textOf (← value e)) text
    match st with
    | .expr e =>
      let _ ← value e
    | .print es t =>
      let numbers ← knownText "OFMT"
      let texts : List Bytes ← match es with
        | [] => do pure [← textOf (← wholeRecord)]
        | es => es.mapM fun e => do return (← value e).toText numbers
      put t (Bytes.joined (← knownText "OFS") texts ++ (← knownText "ORS"))
    | .format es t =>
      let (text, fault) ← formatted c "printf" (← es.mapM value)
      put t text
      match fault with
      | some why => runFault c why
      | none => return ()
    | .block ss =>
      for s in ss do
        perform sc n s
    | .condition e a b =>
      if ← holds e then perform sc n a
      else
        match b with
        | some b => perform sc n b
        | none => return ()
    | .loop e body =>
      if ← holds e then
        if ← goesOn (perform sc n body) then perform sc n (.loop e body)
    | .loopOnce body e =>
      if ← goesOn (perform sc n body) then
        if ← holds e then perform sc n (.loopOnce body e)
    | .count start e step body =>
      match start with
      | some start =>
        let _ ← value start
        perform sc n (.count none e step body)
      | none =>
        let isWanted ← match e with
          | some e => holds e
          | none => pure true
        if isWanted then
          if ← goesOn (perform sc n body) then
            match step with
            | some step =>
              let _ ← value step
            | none => pure ()
            perform sc n (.count none e step body)
    | .each slot table body =>
      let (keys, t) := (← tableAt table).keys
      changeTable table fun _ => t
      for key in keys do
        setVariable c slot (.text key)
        if !(← goesOn (perform sc n body)) then break
    | .next => throw .next
    | .nextFile => throw .nextFile
    | .exit e =>
      match e with
      | some e =>
        let status := (wholePart (← value e).toNumber % 256).toNat
        modify fun s => { s with status }
      | none => pure ()
      throw .exit
    | .giveBack e =>
      match e with
      | some e => throw (.giveBack (← value e))
      | none => throw (.giveBack .unset)
    | .leave => throw .leave
    | .goOn => throw .goOn
    | .delete table keys =>
      match keys with
      | some es =>
        let key ← keyOf (← es.mapM value)
        changeTable table (·.remove key)
      | none => changeTable table fun _ => .empty

end

/-! ## Scripts -/

/-- How much a script may do. -/
def mostSteps : Nat := 1000000000

/-- Whether something is done for the record. -/
def isSelected (sc : Scene) (i : Nat) : Selection → Run Bool
  | .atStart | .atEnd => return false
  | .always => return true
  | .where e => do return (← evaluate sc mostSteps e).isTrue
  | .range start finish => do
    let holds (e : Expr) : Run Bool := do return (← evaluate sc mostSteps e).isTrue
    let isInside ← if i ∈ (← get).ranges then pure true else holds start
    if isInside then
      let isOver ← holds finish
      modify fun s =>
        let others := s.ranges.filter (· ≠ i)
        { s with ranges := if isOver then others else i :: others }
    return isInside

/-- Does what is done for a record. -/
def runRules (sc : Scene) : Run Unit := do
  for (r, i) in sc.script.rules.zipIdx do
    if ← isSelected sc i r.selection then perform sc mostSteps r.body

/-- Does what is done for all records that are left. The number bounds how many there are. -/
def runRecords (sc : Scene) : Nat → Run Unit
  | 0 => return ()
  | n + 1 => do
    match ← nextRecord sc.call sc.script.names mostFiles with
    | none => return ()
    | some record =>
      setRecord (.input record)
      tryCatch (runRules sc) fun
        | .next => return ()
        | .nextFile => modify fun s => { s with input := none }
        | leap => throw leap
      runRecords sc n

/-- Does what is done before or after the records. -/
def runSpecial (sc : Scene) (isMine : Selection → Bool) : Run Unit := do
  for r in sc.script.rules do
    if isMine r.selection then perform sc mostSteps r.body

/-- Whether something is done before all records. -/
def Selection.isStart : Selection → Bool
  | .atStart => true
  | _ => false

/-- Whether something is done after all records. -/
def Selection.isEnd : Selection → Bool
  | .atEnd => true
  | _ => false

/-- How far a script has run in the beginning. -/
def Runner.start (sc : Scene) (environment : List (Bytes × Bytes)) (arguments : List Bytes) :
    Runner :=
  let count := sc.script.names.size
  let known (name : String) : Value :=
    match name with
    | "FS" | "OFS" => .text [' ']
    | "ORS" | "RS" => .text ['\n']
    | "SUBSEP" => .text ['\x1c']
    | "CONVFMT" | "OFMT" => .text "%.6g".toList
    | "FILENAME" => .text []
    | "ENVIRON" | "ARGV" | "RSTART" | "RLENGTH" => .unset
    | "ARGC" => ofNat arguments.length
    | _ => .number 0
  let outside := environment.foldl
    (fun t (name, value) => t.set (.text name) (.input value)) Table.empty
  let argv := arguments.zipIdx.foldl
    (fun t (a, i) => t.set (.number i) (.input a)) Table.empty
  { values := (knownNames.map known).toArray ++
      Array.replicate (count - knownNames.length) Value.unset
    tables := ((Array.replicate count Table.empty).setIfInBounds (knownNumber "ENVIRON") outside)
      |>.setIfInBounds (knownNumber "ARGV") argv
    own := #[], record := ⟨.unset, #[], false, true, [' ']⟩, regexes := [], readers := []
    writers := [], input := none, argument := 1, hasInput := false, ranges := [], status := 0
    seed := .number 0, random := 0, depth := 0 }

/-- Runs a script. The values are given to variables before that. -/
def runScript (c : Call) (script : Script) (values : List (Bytes × Bytes))
    (arguments : List Bytes) : Action Nat := do
  let sc : Scene := ⟨c, script⟩
  let environment := (← get).environment
  let hasEnd := script.rules.any (·.selection.isEnd)
  let hasRecords := script.rules.any fun r => !r.selection.isStart
  let untilExit (a : Run Unit) : Run Bool :=
    tryCatch (do a; return true) fun
      | .exit => return false
      | leap => throw leap
  let run : Run Unit := do
    for (name, value) in values do
      assignNamed c script.names name value
    let _ ← untilExit do
      runSpecial sc Selection.isStart
      if hasRecords then runRecords sc mostSteps
    if hasEnd then
      let _ ← untilExit (runSpecial sc Selection.isEnd)
  let (_, s) ← (ExceptT.run run).run (Runner.start sc environment arguments)
  let close : Run Unit := closeAll c
  let (_, s) ← (ExceptT.run close).run s
  return s.status

end TokenConformance.Sandbox.Shell.Records
