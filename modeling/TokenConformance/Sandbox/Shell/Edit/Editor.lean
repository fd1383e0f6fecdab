import TokenConformance.Sandbox.Shell.Edit.Reader
import TokenConformance.Sandbox.Shell.Tool.Starting

/-! # Editing texts line by line

* `Buffer`: a text that is worked on.
* `Editor`: how far the input has been edited; `Editing` is something that changes that.
* `holds`: whether an order is meant for a line.
* `substituted`: a text with matches replaced.
* `runOrders`: runs the orders of a script for a line.
* `edit`: runs a script for all lines of the input.
* `Tool.scriptTexts`: the texts of the script that a call gives.
* `Tool.sed`: the program that runs a script for the lines of files.
-/

namespace TokenConformance.Sandbox.Shell.Edit

open Sandbox.Text (Bytes Regex Subject)
open Shell.Tool (print printDirectly flush)

/-- A text that is worked on, and whether its last line has an end. -/
structure Buffer where
  text : Bytes
  hasEnd : Bool
deriving DecidableEq, Inhabited

/-- How far an order is that is meant for lines in a row. -/
inductive Range where
  | idle
  /-- Up to a line. -/
  | upTo (line : Nat)
  | untilMatch
deriving DecidableEq, Inhabited

/-- What is written after a line. -/
inductive Addition where
  | text (t : Bytes)
  | file (name : Bytes)
  | lineOf (name : Bytes)
deriving DecidableEq, Inhabited

/-- Something that is written to: its text, whose last byte comes first, and whether the end of its
last line is missing. -/
structure Target where
  text : Bytes
  lacksEnd : Bool
deriving Inhabited

/-- How lines are edited. -/
structure Style where
  isQuiet : Bool
  /-- Whether every file has lines of its own. -/
  isSeparate : Bool
  /-- Whether files are changed, and the ending of the names of what they were before. -/
  inPlace : Option Bytes
  mark : Char
  width : Nat
deriving Inhabited

/-- How far the input has been edited. -/
structure Editor where
  /-- The files that have not been opened yet. -/
  files : List Bytes
  /-- The file that is open, and the rest of it. -/
  current : Option Bytes
  rest : Bytes
  line : Nat
  pattern : Buffer
  held : Buffer
  hasChanged : Bool
  additions : List Addition
  ranges : Array Range
  lastRegex : Option Expression
  /-- What is written to the output, or to the file that is changed. -/
  output : Target
  targets : List (Bytes × Target)
  /-- Files of which lines have been read, and what is left of them. -/
  sources : List (Bytes × Bytes)
  hasFailed : Bool
deriving Inhabited

/-- Why editing ends at once. -/
structure Failure where
  status : Nat
  message : Bytes

/-- Something that changes how far the input has been edited. -/
abbrev Editing := StateT Editor (ExceptT Failure Action)

/-- Does what a program does. -/
def act {α : Type} (a : Action α) : Editing α := liftM a

/-- Ends editing. -/
def failing {α : Type} (status : Nat) (message : Bytes) : Editing α := throw ⟨status, message⟩

/-! ## Output -/

/-- The name that stands for the output, and the one that stands for the errors. -/
def outputName : Bytes := "/dev/stdout".toList

/-- The target with a text after it, whose last line may have no end. -/
def Target.add (t : Target) (text : Bytes) (lacksEnd : Bool) (mark : Char) : Target :=
  ⟨text.reverseAux (if t.lacksEnd then mark :: t.text else t.text), lacksEnd⟩

/-- Writes a text to the output, or to the file that is changed. -/
def put (s : Style) (text : Bytes) (lacksEnd : Bool) : Editing Unit := do
  let e ← get
  if s.inPlace.isSome then set { e with output := e.output.add text lacksEnd s.mark }
  else
    set { e with output := ⟨[], lacksEnd⟩ }
    act (print (if e.output.lacksEnd then s.mark :: text else text))

/-- Writes a line. -/
def putBuffer (s : Style) (b : Buffer) : Editing Unit :=
  put s (if b.hasEnd then b.text ++ [s.mark] else b.text) (!b.hasEnd)

/-- Writes a line to something with a name. -/
def putTo (s : Style) (name : Bytes) (b : Buffer) : Editing Unit := do
  let text := if b.hasEnd then b.text ++ [s.mark] else b.text
  if name = outputName then
    if s.inPlace.isSome then act (print text) else putBuffer s b
  else
    let e ← get
    let change (t : Bytes × Target) : Bytes × Target :=
      if t.1 = name then (name, t.2.add text (!b.hasEnd) s.mark) else t
    set { e with targets := e.targets.map change }

/-- Writes what is written after a line. -/
def putAdditions (s : Style) : Editing Unit := do
  let e ← get
  set { e with additions := [] }
  for addition in e.additions do
    match addition with
    | .text t => put s t false
    | .file name =>
      match ← act (Call.contentOf (if name = "/dev/stdin".toList then ['-'] else name)) with
      | .ok text => if text ≠ [] then put s text false
      | .error _ => pure ()
    | .lineOf name =>
      let e ← get
      let rest ← match e.sources.lookup name with
        | some rest => pure rest
        | none => do pure ((← act (Call.contentOf name)).toOption.getD [])
      let line := rest.takeWhile (· ≠ s.mark)
      let after := rest.drop (line.length + 1)
      let hasEnd := line.length < rest.length
      modify fun e => { e with
        sources := (name, after) :: e.sources.filter fun f => f.1 ≠ name }
      if rest ≠ [] then putBuffer s ⟨line, hasEnd⟩

/-! ## Input -/

/-- The machine in which a file has a new content, and maybe its old one under another name. -/
def withChanged (m : Machine) (path ending content : Bytes) : Except SystemError Machine := do
  let place ← m.findName path
  let mode := ((m.files.node? place).map (·.mode)).getD 0o644
  let files ← do
    if ending = [] then pure (m.files.remove place)
    else
      let base := Tool.lastPart path
      let name := if '*' ∈ ending then ending.flatMap fun c => if c = '*' then base else [c]
        else base ++ ending
      let around := path.take (path.length - base.length)
      let older ← m.findName (if '/' ∈ name then name else around ++ name)
      pure (m.files.move place older)
  return { m with files := files.add place (.file content) mode }

/-- Ends the work on the file that is open. -/
def closeFile (s : Style) : Editing Unit := do
  let e ← get
  match e.current, s.inPlace with
  | some path, some ending =>
    match withChanged (← act MonadState.get) path ending e.output.text.reverse with
    | .ok m => act (MonadState.set m)
    | .error err => failing 4 (Tool.filled "cannot rename %: %" [path, describe err])
  | _, _ => pure ()
  modify fun e => { e with
    current := none
    rest := []
    output := if s.inPlace.isSome then ⟨[], false⟩ else e.output }

/-- The state of an order before the first line. -/
def Range.start (o : Order) : Range :=
  match o.address.start with
  | some (.line 0) => .untilMatch
  | _ => .idle

/-- Opens the next file that can be opened. The number bounds how many there are. -/
def openFile (c : Call) (script : Script) (s : Style) : Nat → Editing Bool
  | 0 => return false
  | n + 1 => do
    let e ← get
    match e.files with
    | [] => return false
    | path :: files =>
      set { e with files }
      let m : Machine ← act MonadState.get
      let isPlain := match m.kind? path with
        | some (.file _) | some (.program _) => true
        | _ => false
      match ← act (Call.contentOf path) with
      | .error .isADirectory =>
        if s.inPlace.isSome then
          act (c.sayFirst (Tool.filled "couldn't edit %: not a regular file" [path]))
          failing 4 []
        else failing 4 (Tool.filled "read error on %: %" [path, describe .isADirectory])
      | .error err =>
        act (c.sayFirst (Tool.filled "can't read %: %" [path, describe err]))
        modify fun e => { e with hasFailed := true }
        openFile c script s n
      | .ok content =>
        if s.inPlace.isSome && !isPlain then
          act (c.sayFirst (Tool.filled "couldn't edit %: not a regular file" [path]))
          failing 4 []
        modify fun e => { e with current := some path, rest := content }
        if s.isSeparate then
          modify fun e => { e with line := 0, ranges := script.orders.map Range.start }
        return true

/-- Whether a file has something in it. -/
def hasContent (path : Bytes) : Editing Bool := do
  if path = ['-'] then return true
  return ((← act (readPath path)).toOption.getD []) ≠ []

/-- Whether no line comes after the one that is worked on. -/
def isAtEnd (s : Style) : Editing Bool := do
  let e ← get
  if e.rest ≠ [] then return false
  if s.isSeparate then return true
  for path in e.files do
    if ← hasContent path then return false
  return true

/-- Whether there is no line left, in any file. -/
def isOver : Editing Bool := do
  let e ← get
  if e.rest ≠ [] then return false
  for path in e.files do
    if ← hasContent path then return false
  return true

/-- Reads the next line. The number bounds how many files there are. -/
def readLine (c : Call) (script : Script) (s : Style) : Nat → Editing (Option Buffer)
  | 0 => return none
  | n + 1 => do
    let e ← get
    if e.rest = [] then
      if e.current.isSome then closeFile s
      if ← openFile c script s (e.files.length + 1) then readLine c script s n else return none
    else
      let line := e.rest.takeWhile (· ≠ s.mark)
      let hasEnd := line.length < e.rest.length
      set { e with rest := e.rest.drop (line.length + 1), line := e.line + 1, hasChanged := false }
      return some ⟨line, hasEnd⟩

/-- Reads the next line after what is written after the last one. -/
def nextLine (c : Call) (script : Script) (s : Style) : Editing (Option Buffer) := do
  putAdditions s
  readLine c script s ((← get).files.length + 2)

/-! ## Addresses -/

/-- The expression that is meant, which is the one that was used last if it is empty. -/
def meant (s : Style) (e : Expression) : Editing (Regex × Bool) := do
  match e.regex with
  | some r =>
    modify fun ed => { ed with lastRegex := some e }
    return (r, e.hasLines && s.mark = '\n')
  | none =>
    match (← get).lastRegex with
    | some ⟨some r, hasLines⟩ => return (r, hasLines && s.mark = '\n')
    | _ => failing 1 "-e expression #1, char 0: no previous regular expression".toList

/-- Whether a line matches an expression. -/
def isMatch (s : Style) (e : Expression) : Editing Bool := do
  let (r, hasLines) ← meant s e
  let text := (← get).pattern.text
  return (r.findSpan? ⟨text.toArray, hasLines⟩ (fun _ => true) (text.length + 1) 0).isSome

/-- Whether the line is the one that is meant. -/
def isAt (s : Style) : Point → Editing Bool
  | .line n => return (← get).line = n
  | .last => isAtEnd s
  | .step first every => do
    let n := (← get).line
    return if every = 0 then n = first else first ≤ n && (n - first) % every = 0
  | .matching e => isMatch s e

/-- The state of an order from its first line on, and whether this is not its last line too. -/
def rangeFrom (line : Nat) : Stop → Range
  | .point (.line n) => if n ≤ line then .idle else .upTo n
  | .point _ => .untilMatch
  | .after n => if n = 0 then .idle else .upTo (line + n)
  | .multiple n => if n = 0 then .idle else .upTo (line + (n - line % n))

/-- Whether an order is meant for the line, if it is not negated. -/
def isWithin (s : Style) (i : Nat) (a : Address) : Editing Bool := do
  match a.start, a.stop with
  | none, _ => return true
  | some start, none => isAt s start
  | some start, some stop =>
    let line := (← get).line
    let become (r : Range) : Editing Unit :=
      modify fun e => { e with ranges := e.ranges.setIfInBounds i r }
    match (← get).ranges.getD i .idle with
    | .idle =>
      if ← isAt s start then
        become (rangeFrom line stop)
        return true
      else return false
    | .upTo n =>
      if n ≤ line then become .idle
      return line ≤ n
    | .untilMatch =>
      match stop with
      | .point p => if ← isAt s p then become .idle
      | _ => become .idle
      return true

/-- Whether an order is meant for the line. -/
def holds (s : Style) (i : Nat) (a : Address) : Editing Bool := do
  return (← isWithin s i a) != a.isNegated

/-! ## Substitutions -/

/-- A letter in a case. -/
def LetterCase.apply : LetterCase → Char → Char
  | .asItIs, c => c
  | .upper, c => c.toUpper
  | .lower, c => c.toLower

/-- A text in a case; its first letter may have another one. -/
def inCase (all : LetterCase) (first? : Option LetterCase) : Bytes → Bytes
  | [] => []
  | c :: cs => (first?.getD all).apply c :: cs.map all.apply

/-- What is put in the place of a match. -/
def replacement (s : Subject) (m : Regex.Match) : LetterCase → Option LetterCase → List Piece → Bytes
  | _, _, [] => []
  | all, first?, p :: ps =>
    let write (t : Bytes) : Bytes :=
      inCase all first? t ++ replacement s m all (if t = [] then first? else none) ps
    match p with
    | .text t => write t
    | .group 0 => write (s.slice m.span)
    | .group n => write ((m.groups.lookup n).elim [] s.slice)
    | .letterCase c => replacement s m c none ps
    | .nextCase c => replacement s m all (some c) ps

/-- A text with matches replaced from a position on, the last byte first, and whether there were any.
`count` is how many matches were before, `previous` where the last one ended. The number bounds how
many positions there are. -/
def replacedFrom (r : Regex) (s : Subject) (sub : Substitution) :
    Nat → Nat → Nat → Option Nat → Bytes → Bool → Bytes × Bool
  | 0, _, _, _, done, found => (done, found)
  | n + 1, i, count, previous, done, found =>
    let size := s.text.size
    let rest : Bytes := s.slice (i, size)
    if size < i then (done, found)
    else
      match r.findSpan? s (fun _ => true) (size + 1 - i) i with
      | none => (rest.reverseAux done, found)
      | some (start, finish) =>
        let before := (s.slice (i, start)).reverseAux done
        let step (written : Bytes) : Bytes :=
          if start = finish then (s.slice (start, start + 1)).reverseAux written else written
        let next := if start = finish then finish + 1 else finish
        if start = finish && previous = some start then
          replacedFrom r s sub n next count previous (step before) found
        else if count + 1 < sub.number then
          let kept := (s.slice (start, finish)).reverseAux before
          replacedFrom r s sub n next (count + 1) (some finish) (step kept) found
        else
          let m := r.matchAt s (start, finish)
          let written := (replacement s m .asItIs none sub.pieces).reverseAux before
          if sub.isGlobal then
            replacedFrom r s sub n next (count + 1) (some finish) (step written) true
          else ((s.slice (finish, size)).reverseAux written, true)

/-- A text with matches replaced, if there are any. -/
def substituted (r : Regex) (hasLines : Bool) (sub : Substitution) (text : Bytes) : Option Bytes :=
  let s : Subject := ⟨text.toArray, hasLines⟩
  let (done, found) := replacedFrom r s sub (text.length + 2) 0 0 none [] false
  if found then some done.reverse else none

/-! ## Orders -/

/-- A text as it is shown with its escapes, in lines of some width. `used` is how much of the line is
written. -/
def shownText (width : Nat) : Nat → Bytes → Bytes
  | _, [] => ['$']
  | used, c :: rest =>
    let own : Bytes := match c with
      | '\\' => ['\\', '\\']
      | '\x08' => ['\\', 'b']
      | c => if Tool.isShowable c then [c] else Tool.escapeOf c
    if 0 < width && width - 1 < used + own.length then
      '\\' :: '\n' :: own ++ shownText width own.length rest
    else own ++ shownText width (used + own.length) rest

/-- What a command writes to its output. -/
def outputOf (c : Call) (command : Bytes) : Editing Bytes := do
  return (← act (c.outputOf "sh".toList command)).1

/-- How the work on a line ends. -/
inductive Ending where
  | cycle (prints : Bool)
  /-- What is left is worked on as if it had been read. -/
  | again
  | quit (status : Nat) (prints : Bool)
deriving DecidableEq, Inhabited

/-- Runs the orders of a script for a line from one of them on. The number bounds how many are run. -/
def runOrders (c : Call) (script : Script) (s : Style) : Nat → Nat → Editing Ending
  | 0, _ => return .quit 0 false
  | n + 1, i => do
    match script.orders[i]? with
    | none => return .cycle true
    | some o =>
      let go (i : Nat) : Editing Ending := runOrders c script s n i
      let onwards := go (i + 1)
      let isMeant ← holds s i o.address
      let e ← get
      let become (b : Buffer) : Editing Unit := modify fun e => { e with pattern := b }
      let firstLine := e.pattern.text.takeWhile (· ≠ s.mark)
      if !isMeant then
        match o.deed with
        | .opening finish => go finish
        | _ => onwards
      else
        match o.deed with
        | .opening _ | .nothing => onwards
        | .change text =>
          let isInside := match e.ranges.getD i .idle with
            | .upTo _ | .untilMatch => o.address.stop.isSome && !o.address.isNegated
            | _ => false
          if !isInside then put s text false
          return .cycle false
        | .append text =>
          set { e with additions := e.additions ++ [Addition.text text] }
          onwards
        | .insert text =>
          put s text false
          onwards
        | .leap kind label =>
          let leaps := match kind with
            | .always => true
            | .ifChanged => e.hasChanged
            | .unlessChanged => !e.hasChanged
          if kind ≠ .always then modify fun e => { e with hasChanged := false }
          if leaps then go ((script.labels.lookup label).getD script.orders.size) else onwards
        | .delete => return .cycle false
        | .deleteFirst =>
          if firstLine.length = e.pattern.text.length then return .cycle false
          become { e.pattern with text := e.pattern.text.drop (firstLine.length + 1) }
          return .again
        | .run command =>
          if command = [] then
            let text ← outputOf c e.pattern.text
            become { e.pattern with text := Tool.withoutMark '\n' text }
          else
            let text ← outputOf c command
            if text ≠ [] then put s text false
          onwards
        | .fileName =>
          put s ((e.current.getD ['-']) ++ [s.mark]) false
          onwards
        | .get =>
          become e.held
          onwards
        | .getMore =>
          become ⟨e.pattern.text ++ s.mark :: e.held.text, e.held.hasEnd⟩
          onwards
        | .hold =>
          set { e with held := e.pattern }
          onwards
        | .holdMore =>
          set { e with held := ⟨e.held.text ++ s.mark :: e.pattern.text, e.pattern.hasEnd⟩ }
          onwards
        | .list width =>
          put s (shownText (width.getD s.width) 0 e.pattern.text ++ ['\n']) false
          onwards
        | .next =>
          if ← isOver then return .quit 0 true
          if !s.isQuiet then putBuffer s e.pattern
          match ← nextLine c script s with
          | some b =>
            become b
            onwards
          | none => return .quit 0 false
        | .nextMore =>
          if ← isOver then return .quit 0 true
          match ← nextLine c script s with
          | some b =>
            become ⟨e.pattern.text ++ s.mark :: b.text, b.hasEnd⟩
            onwards
          | none => return .quit 0 true
        | .print =>
          putBuffer s e.pattern
          onwards
        | .printFirst =>
          put s (firstLine ++ [s.mark]) false
          onwards
        | .quit status isSilent => return .quit status (!isSilent)
        | .putFile name =>
          set { e with additions := e.additions ++ [Addition.file name] }
          onwards
        | .putLine name =>
          set { e with additions := e.additions ++ [Addition.lineOf name] }
          onwards
        | .substitute sub =>
          let (r, hasLines) ← meant s sub.expression
          match substituted r hasLines sub e.pattern.text with
          | none => onwards
          | some text =>
            modify fun e => { e with hasChanged := true }
            let text ← if sub.runs then do
                pure (Tool.withoutMark '\n' (← outputOf c text))
              else pure text
            let b : Buffer := { e.pattern with text }
            become b
            if sub.prints then putBuffer s b
            match sub.target with
            | some name => putTo s name b
            | none => pure ()
            onwards
        | .write name =>
          putTo s name e.pattern
          onwards
        | .writeFirst name =>
          putTo s name ⟨firstLine, true⟩
          onwards
        | .exchange =>
          set { e with pattern := e.held, held := e.pattern }
          onwards
        | .translate pairs =>
          let text := e.pattern.text.map fun c => (pairs.lookup c).getD c
          become { e.pattern with text }
          onwards
        | .clear =>
          become { e.pattern with text := [] }
          onwards
        | .number =>
          put s (Bytes.ofInt e.line ++ ['\n']) false
          onwards

/-- How many orders are run for one line at most. -/
def mostOrders : Nat := 2000000

/-- Runs a script for the lines that are left. The result is the status with which the script ends.
The number bounds how many lines there are; the flag tells whether a line has been read. -/
def runScript (c : Call) (script : Script) (s : Style) : Nat → Bool → Editing Nat
  | 0, _ => return 0
  | n + 1, hasLine => do
    let isReady ← do
      if hasLine then pure true
      else
        match ← nextLine c script s with
        | some b =>
          modify fun e => { e with pattern := b }
          pure true
        | none => pure false
    if !isReady then return 0
    match ← runOrders c script s mostOrders 0 with
    | .cycle prints =>
      if prints && !s.isQuiet then putBuffer s (← get).pattern
      putAdditions s
      runScript c script s n false
    | .again =>
      putAdditions s
      runScript c script s n true
    | .quit status prints =>
      if prints && !s.isQuiet then putBuffer s (← get).pattern
      putAdditions s
      return status

/-- How many lines are edited at most. -/
def mostLines : Nat := 1000000

/-- The names of the files to which a script writes. -/
def Script.targets (script : Script) : List Bytes :=
  let names := script.orders.toList.filterMap fun o =>
    match o.deed with
    | .write name | .writeFirst name => some name
    | .substitute sub => sub.target
    | _ => none
  names.eraseDups

/-- Runs a script for all lines of some files. -/
def edit (c : Call) (script : Script) (s : Style) (files : List Bytes) : Action Nat := do
  let names := script.targets.filter (· ≠ outputName)
  for name in names do
    match ← Call.putPath .writing name [] with
    | .ok () => pure ()
    | .error e =>
      return ← c.fail 4 (Tool.filled "couldn't open file %: %" [name, describe e])
  let start : Editor :=
    { files, current := none, rest := [], line := 0, pattern := ⟨[], true⟩, held := ⟨[], true⟩
      hasChanged := false, additions := [], ranges := script.orders.map Range.start
      lastRegex := none, output := ⟨[], false⟩, targets := names.map (·, ⟨[], false⟩)
      sources := [], hasFailed := false }
  let run : Editing Nat := do
    let status ← runScript c script s mostLines false
    let e ← get
    if e.current = some ['-'] then act (unread 0 e.rest)
    if e.current.isSome then closeFile s
    return status
  match ← (run.run start).run with
  | .error f =>
    if f.message ≠ [] then c.sayFirst f.message
    return f.status
  | .ok (status, e) =>
    for (name, t) in e.targets do
      if t.text ≠ [] then
        let _ ← Call.putPath .writing name t.text.reverse
    return if status = 0 && e.hasFailed then 2 else status

end TokenConformance.Sandbox.Shell.Edit

namespace TokenConformance.Sandbox.Shell.Tool

open Sandbox.Text (Bytes)

/-- The options of the program. -/
def editForms : List OptionForm :=
  [flag 'n' "quiet", ⟨some 'n', "silent", .nothing⟩, valued 'e' "expression", valued 'f' "file",
    flag 'E' "regexp-extended", flag 'r' "", variant 'i' "in-place", valued 'l' "line-length",
    flag 's' "separate", flag 'u' "unbuffered", flag 'z' "null-data", longFlag "zero-terminated",
    longFlag "posix", longFlag "debug", longFlag "sandbox", longFlag "follow-symlinks",
    flag 'b' "binary"]

/-- How to call the program. -/
def editUsage (c : Call) : Action Nat := do
  complain (filled "Usage: % [OPTION]... \x7bscript-only-if-no-other-script\x7d [input-file]...\n"
    [c.name])
  return 1

/-- The texts of the script that a call gives, and its other operands. Nothing is read if none is
given. -/
def scriptTexts (c : Call) (g : Given) :
    Action (Except Nat (List (Edit.Origin × Bytes) × List Bytes)) := do
  let sources := g.options.filter fun o => o.1 = "e" || o.1 = "f"
  if sources = [] then
    match g.operands with
    | [] => return .error (← editUsage c)
    | text :: rest => return .ok ([(.argument 1, text)], rest)
  let mut texts : List (Edit.Origin × Bytes) := []
  let mut count := 0
  for (key, value) in sources do
    if key = "e" then
      count := count + 1
      texts := texts ++ [(.argument count, value)]
    else
      match ← Call.contentOf value with
      | .ok content => texts := texts ++ [(.file value, withoutMark '\n' content)]
      | .error e =>
        return .error (← c.fail 4 (filled "couldn't open file %: %" [value, describe e]))
  return .ok (texts, g.operands)

/-- The first label that is gone to and is not there. -/
def missingLabel? (script : Edit.Script) : Option Bytes :=
  script.orders.toList.findSome? fun o =>
    match o.deed with
    | .leap _ label =>
      if label = [] || (script.labels.lookup label).isSome then none else some label
    | _ => none

/-- Edits the lines of files. -/
def sed : Tool := fun c => do
  let given := Given.ofArguments (editForms ++ Call.commonForms) false (c.arguments.length + 1)
    c.arguments
  match given.fault with
  | some text =>
    c.say text
    return ← editUsage c
  | none => pure ()
  c.withOptions editForms fun g => do
    match ← scriptTexts c g with
    | .error status => return status
    | .ok (texts, operands) =>
      match Edit.readScript ⟨g.has "E" || g.has "r", g.has "sandbox"⟩ texts with
      | .error text => c.fail 1 text
      | .ok script =>
        match missingLabel? script with
        | some label => c.fail 4 (filled "can't find label for jump to `%'" [label])
        | none =>
          let width := ((g.value? "l").bind digitsValue?).getD 70
          let s : Edit.Style :=
            { isQuiet := g.has "n" || script.isQuiet
              isSeparate := g.has "s" || g.has "i"
              inPlace := g.value? "i"
              mark := if g.has "z" || g.has "zero-terminated" then '\x00' else '\n'
              width := if width = 1 then 0 else width }
          Edit.edit c script s (Call.orInput operands)

end TokenConformance.Sandbox.Shell.Tool
