import TokenConformance.Sandbox.Shell.Tool.Sorting

/-! # Programs that go through two sorted files

* `Remark`: a line that is printed, or what is said about a line that is not in its place.
* `Call.tellAll`: prints remarks.
* `columnsOf`: the lines of two files in columns, which `comm` shows.
* `Row`: a line with its fields; `Row.ofLine` tells them apart.
* `Relation`: which fields are joined and what is shown; `Relation.joined` joins the rows of two files.
* `join`: joins the lines of two files that have a field in common.
-/

namespace TokenConformance.Sandbox.Shell

open Sandbox.Text (Bytes)

namespace Tool

/-- When the order of lines is looked at. -/
inductive OrderCheck where
  | never
  /-- After some line has had no partner. -/
  | afterUnpaired
  | always
deriving DecidableEq, Inhabited

/-- Whether the order is looked at, given whether some line has had no partner. -/
def OrderCheck.isOn (k : OrderCheck) (hasUnpaired : Bool) : Bool :=
  match k with
  | .never => false
  | .afterUnpaired => hasUnpaired
  | .always => true

/-- What is found on the way through two files. -/
inductive Remark where
  | line (text : Bytes)
  /-- A line is not in its place. -/
  | disorder (text : Bytes)
deriving DecidableEq, Inhabited

/-- The options that say when the order is looked at. -/
def orderForms : List OptionForm := [longFlag "check-order", longFlag "nocheck-order"]

/-- When the order is looked at, as options say. -/
def orderCheckOf (g : Given) : OrderCheck :=
  match g.lastOf? ["check-order", "nocheck-order"] with
  | some "check-order" => .always
  | some _ => .never
  | none => .afterUnpaired

/-- The lines of a text that end with a mark, without it. -/
def markedLines (mark : Char) (text : Bytes) : List Bytes :=
  (endedBy mark text).map (withoutMark mark)

end Tool

namespace Call

open Shell.Tool

/-- Prints remarks. A line that is not in its place is the last thing that is told if the order is
always looked at, and otherwise it is told once more at the end. -/
def tellAll (c : Call) (check : OrderCheck) (remarks : List Remark) : Action Nat := do
  let mut isOrdered := true
  for remark in remarks do
    match remark with
    | .line text => print text
    | .disorder text =>
      c.say text
      isOrdered := false
      if check = .always then return 1
  if isOrdered then return 0 else c.fail 1 "input is not in sorted order".toList

/-- Goes on with the two operands that there have to be. -/
def withTwo (c : Call) (operands : List Bytes) (f : Bytes → Bytes → Action Nat) : Action Nat :=
  match operands with
  | [] => c.misused 1 "missing operand".toList
  | [a] => c.misused 1 ("missing operand after ".toList ++ inSingleQuotes a)
  | [a, b] => f a b
  | _ :: _ :: extra :: _ => c.misused 1 ("extra operand ".toList ++ inSingleQuotes extra)

/-- Goes on with the contents of two files. Either can be what there is to read. -/
def withTwoContents (c : Call) (first second : Bytes) (unreadable : Complaint)
    (f : Bytes → Bytes → Action Nat) : Action Nat := do
  for path in [first, second] do
    if path ≠ ['-'] then
      match (← get).openPath .reading path with
      | .error e => return ← c.fail 1 (plainComplaint path e)
      | .ok _ => pure ()
  match ← contentOf first with
  | .error e => c.fail 1 (unreadable first e)
  | .ok a =>
    match ← contentOf second with
    | .error e => c.fail 1 (unreadable second e)
    | .ok b => f a b

end Call

namespace Tool

/-! ## Columns -/

/-- The lines of a file that is gone through, the first of which is the current one. -/
structure Side where
  lines : List Bytes
  /-- The line before the current one. -/
  last : Option Bytes
  /-- Whether it has been said that a line is not in its place. -/
  isBlamed : Bool
deriving Inhabited

/-- The side after its current line, and whether a line was found that is not in its place. At the end
the last two lines are looked at once more. -/
def Side.next (s : Side) (isChecked : Bool) : Side × Bool :=
  match s.lines with
  | [] => (s, false)
  | line :: rest =>
    let (before, after) := match rest with
      | next :: _ => (some line, next)
      | [] => (s.last, line)
    let isWrong := isChecked && !s.isBlamed && before.any fun b => compareBytes b after = .gt
    (⟨rest, some line, s.isBlamed || isWrong⟩, isWrong)

/-- How many lines only the first file has, only the second one, and both. -/
structure Totals where
  first : Nat
  second : Nat
  both : Nat
deriving DecidableEq, Inhabited

/-- What `comm` shows. -/
structure Columns where
  check : OrderCheck
  showsFirst : Bool
  showsSecond : Bool
  showsBoth : Bool
  separator : Bytes
  mark : Char

namespace Columns

/-- What is said about a file whose lines are not in order. -/
def blame (isFound : Bool) (file : Nat) : List Remark :=
  if isFound then [.disorder (filled "file % is not in sorted order" [Bytes.ofInt file])] else []

/-- The remarks on the lines of two files, and how many lines there are of each kind. The number bounds
how many lines there are. -/
def compared (k : Columns) : Nat → Bool → Side → Side → Totals → List Remark × Totals
  | 0, _, _, _, n => ([], n)
  | fuel + 1, hasUnpaired, a, b, n =>
    let go (order : Ordering) (line : Bytes) : List Remark × Totals :=
      let hasUnpaired := hasUnpaired || order ≠ .eq
      let isChecked := k.check.isOn hasUnpaired
      let (a', isWrongA) := if order ≠ .gt then a.next isChecked else (a, false)
      let (b', isWrongB) := if order ≠ .lt then b.next isChecked else (b, false)
      let first := if k.showsFirst then k.separator else []
      let second := if k.showsSecond then k.separator else []
      let (isShown, before, n) : Bool × Bytes × Totals := match order with
        | .lt => (k.showsFirst, [], { n with first := n.first + 1 })
        | .gt => (k.showsSecond, first, { n with second := n.second + 1 })
        | .eq => (k.showsBoth, first ++ second, { n with both := n.both + 1 })
      let (rest, n) := compared k fuel hasUnpaired a' b' n
      ((if isShown then [.line (before ++ line ++ [k.mark])] else []) ++
        blame isWrongA 1 ++ blame isWrongB 2 ++ rest, n)
    match a.lines, b.lines with
    | [], [] => ([], n)
    | x :: _, [] => go .lt x
    | [], y :: _ => go .gt y
    | x :: _, y :: _ => let o := compareBytes x y; go o (if o = .gt then y else x)

end Columns

/-- The options of `comm`. -/
def commForms : List OptionForm :=
  letters "123" ++ orderForms ++
    [longValued "output-delimiter", longFlag "total", flag 'z' "zero-terminated"]

/-- Shows in columns which lines two files have. -/
def comm : Tool := fun c => c.withOptions commForms fun g => do
  let separators := g.values "output-delimiter"
  if separators.any fun s => some s ≠ separators.head? then
    return ← c.fail 1 "multiple output delimiters specified".toList
  c.withTwo g.operands fun first second =>
    c.withTwoContents first second Call.plainComplaint fun a b => do
      let separator := match separators.head? with
        | some [] => ['\x00']
        | some s => s
        | none => ['\t']
      let mark := if g.has "z" then '\x00' else '\n'
      let check := orderCheckOf g
      let k : Columns := ⟨check, !g.has "1", !g.has "2", !g.has "3", separator, mark⟩
      let (x, y) := (markedLines mark a, markedLines mark b)
      let (remarks, n) :=
        k.compared (x.length + y.length + 1) false ⟨x, none, false⟩ ⟨y, none, false⟩ ⟨0, 0, 0⟩
      let numbers := [n.first, n.second, n.both].map fun i => Bytes.ofInt (i : Nat)
      let total := Bytes.joined separator (numbers ++ ["total".toList]) ++ [mark]
      c.tellAll check (remarks ++ if g.has "total" then [.line total] else [])

/-! ## Rows -/

/-- A line with its fields. -/
structure Row where
  text : Bytes
  fields : List Bytes
deriving DecidableEq, Inhabited

/-- Whether a character separates fields when no other one is given. -/
def isFieldGap (c : Char) : Bool := c = ' ' || c = '\t' || c = '\n'

/-- The fields of a line between gaps. A gap at the end is followed by a field without characters. The
number bounds how many fields there are. -/
def gappedFields : Nat → Bytes → List Bytes
  | 0, _ => []
  | _, [] => []
  | n + 1, text =>
    let field := text.takeWhile fun c => !isFieldGap c
    match text.drop field.length with
    | [] => [field]
    | gap =>
      match gap.dropWhile isFieldGap with
      | [] => [field, []]
      | rest => field :: gappedFields n rest

/-- A line with the fields that a separator, or gaps, tell apart. -/
def Row.ofLine (separator : Option Char) (text : Bytes) : Row :=
  let fields := match separator with
    | none => gappedFields (text.length + 1) (text.dropWhile isFieldGap)
    | some c => if text = [] then [] else if c = '\n' then [text] else text.splitOn c
  ⟨text, fields⟩

/-- A field that is shown. -/
inductive Shown where
  | common
  | ofFirst (i : Nat)
  | ofSecond (i : Nat)
deriving DecidableEq, Inhabited

/-- How rows are joined. -/
structure Relation where
  /-- The fields of either side that have to be the same, counted from zero. -/
  firstKey : Nat
  secondKey : Nat
  ignoresCase : Bool
  separator : Option Char
  mark : Char
  /-- What stands for a field that is missing or has no characters. -/
  filler : Bytes
  /-- What is shown, if it is not the common field with all others. -/
  format : Option (List Shown)
  /-- Whether all rows are shown with as many fields as the first ones have. -/
  isUniform : Bool
  showsPairs : Bool
  showsFirst : Bool
  showsSecond : Bool
  check : OrderCheck
  names : Bytes × Bytes

/-- A file whose rows are gone through. -/
structure Reading where
  rest : List Row
  /-- How many rows have been read. -/
  number : Nat
  last : Option Row
  isBlamed : Bool
deriving Inhabited

namespace Relation

/-- Compares fields of rows. -/
def compare (k : Relation) (a : Row) (i : Nat) (b : Row) (j : Nat) : Ordering :=
  let shown (r : Row) (i : Nat) : Bytes :=
    let field := r.fields.getD i []
    if k.ignoresCase then field.map Char.toUpper else field
  compareBytes (shown a i) (shown b j)

/-- Compares the fields that are joined. -/
def comparePair (k : Relation) (a b : Row) : Ordering := k.compare a k.firstKey b k.secondKey

/-- A field as it is shown. -/
def field (k : Relation) (r : Option Row) (i : Nat) : Bytes :=
  match (r.bind (·.fields[i]?)).getD [] with
  | [] => k.filler
  | text => text

/-- A pair of rows, one of which may be missing, as it is shown. `counts` are how many fields are shown
of either row when all rows are shown alike. -/
def pair (k : Relation) (counts : Nat × Nat) (a b : Option Row) : Remark :=
  let common := if a.isNone then k.field b k.secondKey else k.field a k.firstKey
  let others (r : Option Row) (key count : Nat) : List Bytes :=
    let size := if k.isUniform then count else (r.map (·.fields.length)).getD 0
    ((List.range size).filter (· ≠ key)).map (k.field r)
  let texts := match k.format with
    | some format => format.map fun
      | .common => common
      | .ofFirst i => k.field a i
      | .ofSecond i => k.field b i
    | none => common :: others a k.firstKey counts.1 ++ others b k.secondKey counts.2
  .line (Bytes.joined [k.separator.getD ' '] texts ++ [k.mark])

/-- Reads a row. The flags say whether the file is the first one and whether the order is looked at. -/
def read (k : Relation) (isFirst isChecked : Bool) (s : Reading) :
    Option Row × Reading × List Remark :=
  match s.rest with
  | [] => (none, s, [])
  | row :: rest =>
    let key := if isFirst then k.firstKey else k.secondKey
    let isWrong := isChecked && !s.isBlamed &&
      s.last.any fun last => k.compare last key row key = .gt
    let name := if isFirst then k.names.1 else k.names.2
    let remarks : List Remark := if isWrong then
        [.disorder (filled "%:%: is not sorted: %"
          [name, Bytes.ofInt (s.number + 1 : Nat), row.text])]
      else []
    (some row, ⟨rest, s.number + 1, some row, s.isBlamed || isWrong⟩, remarks)

/-- Reads rows as long as they pass a test. The results are those rows, the one after them, the file
after it and what is said on the way. -/
def readWhile (k : Relation) (isFirst isChecked : Bool) (test : Row → Bool) :
    Nat → Reading → List Row × Option Row × Reading × List Remark
  | 0, s => ([], none, s, [])
  | n + 1, s =>
    match k.read isFirst isChecked s with
    | (some row, s, remarks) =>
      if test row then
        let (rows, next, s, more) := readWhile k isFirst isChecked test n s
        (row :: rows, next, s, remarks ++ more)
      else ([], some row, s, remarks)
    | (none, s, remarks) => ([], none, s, remarks)

/-- What is told about the rows that are left of one file when the other one has come to its end. -/
def leftOver (k : Relation) (isFirst isChecked isShown : Bool) (shown : Row → Remark) :
    Nat → Reading → List Remark
  | 0, _ => []
  | n + 1, s =>
    match k.read isFirst isChecked s with
    | (none, _, _) => []
    | (some row, s, remarks) =>
      remarks ++ (if isShown then [shown row] else []) ++
        if s.isBlamed && !isShown then [] else leftOver k isFirst isChecked isShown shown n s

/-- Joins the rows of two files from their current ones on. The number bounds how many rows there
are. -/
def joinedFrom (k : Relation) (counts : Nat × Nat) : Nat → Bool → Option Row → Option Row →
    Reading → Reading → List Remark
  | 0, _, _, _, _, _ => []
  | n + 1, hasUnpaired, some a, some b, s, t =>
    let isChecked := k.check.isOn hasUnpaired
    match k.comparePair a b with
    | .lt =>
      let (a', s, remarks) := k.read true isChecked s
      (if k.showsFirst then [k.pair counts (some a) none] else []) ++ remarks ++
        joinedFrom k counts n true a' (some b) s t
    | .gt =>
      let (b', t, remarks) := k.read false isChecked t
      (if k.showsSecond then [k.pair counts none (some b)] else []) ++ remarks ++
        joinedFrom k counts n true (some a) b' s t
    | .eq =>
      let (as, a', s, remarks) :=
        k.readWhile true isChecked (fun r => k.comparePair r b = .eq) (s.rest.length + 1) s
      let (bs, b', t, more) :=
        k.readWhile false isChecked (fun r => k.comparePair a r = .eq) (t.rest.length + 1) t
      let pairs := if k.showsPairs then
          (a :: as).flatMap fun x => (b :: bs).map fun y => k.pair counts (some x) (some y)
        else []
      remarks ++ more ++ pairs ++ joinedFrom k counts n hasUnpaired a' b' s t
  | _ + 1, hasUnpaired, a, b, s, t =>
    let checksEnd := k.check ≠ .never && !(s.isBlamed && t.isBlamed)
    let rest (isFirst isShown : Bool) (row other : Option Row) (r : Reading) : List Remark :=
      let shown (r : Row) : Remark :=
        if isFirst then k.pair counts (some r) none else k.pair counts none (some r)
      match row with
      | some row =>
        if isShown || checksEnd then
          (if isShown then [shown row] else []) ++
            k.leftOver isFirst (k.check.isOn (hasUnpaired || other.isSome)) isShown shown
              (r.rest.length + 1) r
        else []
      | none => []
    rest true k.showsFirst a b s ++ rest false k.showsSecond b a t

/-- What is told about the rows of two files. -/
def joined (k : Relation) (hasHeader : Bool) (a b : List Row) : List Remark :=
  let fuel := a.length + b.length + 2
  let count (rows : List Row) : Nat := (rows.head?.map (·.fields.length)).getD 0
  let counts := (count a, count b)
  let start (rows : List Row) : Reading := ⟨rows, 0, none, false⟩
  let isChecked := k.check = .always
  let (x, s, before) := k.read true isChecked (start a)
  let (y, t, more) := k.read false isChecked (start b)
  before ++ more ++
    if hasHeader && (x.isSome || y.isSome) then
      let header := Relation.pair k counts (some (x.getD default)) (some (y.getD default))
      let (x, s, before) := k.read true isChecked { s with last := none }
      let (y, t, more) := k.read false isChecked { t with last := none }
      header :: before ++ more ++ k.joinedFrom counts fuel false x y s t
    else k.joinedFrom counts fuel false x y s t

/-! ## Options -/

/-- The number of a field. -/
def key (text : Bytes) : Except Bytes Nat :=
  match digitsValue? text with
  | some (n + 1) => .ok n
  | _ => .error ("invalid field number: ".toList ++ inSingleQuotes text)

/-- A field that is shown, from its text. -/
def shownOf (text : Bytes) : Except Bytes Shown :=
  let invalid := "invalid field specifier: ".toList ++ inSingleQuotes text
  match text with
  | ['0'] => .ok .common
  | '1' :: '.' :: rest => (key rest).map .ofFirst
  | '2' :: '.' :: rest => (key rest).map .ofSecond
  | '0' :: _ | '1' :: _ | '2' :: _ => .error invalid
  | _ => .error ("invalid file number in field spec: ".toList ++ inSingleQuotes text)

/-- One key of all that are given for a file. -/
def keyOf (texts : List Bytes) : Except Bytes Nat := do
  let keys ← texts.mapM key
  let n := keys.headD 0
  match keys.find? (· ≠ n) with
  | some other =>
    .error (filled "incompatible join fields %, %"
      [Bytes.ofInt (n : Nat), Bytes.ofInt (other : Nat)])
  | none => return n

/-- How rows are joined, as options say. -/
def ofGiven (g : Given) (names : Bytes × Bytes) : Except Bytes Relation := do
  let sides (letter : String) : Except Bytes (List Bool) :=
    (g.values letter).mapM fun text =>
      match text with
      | ['1'] => .ok true
      | ['2'] => .ok false
      | text => .error ("invalid field number: ".toList ++ inSingleQuotes text)
  let extra := (← sides "a") ++ (← sides "v")
  let fillers := g.values "e"
  if fillers.any fun f => fillers.head?.any fun first => first ≠ f && first ≠ [] then
    throw "conflicting empty-field replacement strings".toList
  let lists := (g.values "o").filter (· ≠ "auto".toList)
  let format ← (lists.flatMap fun list =>
    list.splitOnP fun c => c = ',' || c = ' ' || c = '\t').mapM shownOf
  let ofKey (letter : String) : List Bytes :=
    g.options.filterMap fun o => if o.1 = letter || o.1 = "j" then some o.2 else none
  let firstKey ← keyOf (ofKey "1")
  let secondKey ← keyOf (ofKey "2")
  let separators ← (g.values "t").mapM fun text =>
    match text with
    | [] => .ok '\n'
    | [c] => .ok c
    | ['\\', '0'] => .ok '\x00'
    | text => .error ("multi-character tab ".toList ++ inSingleQuotes text)
  if separators.any fun c => some c ≠ separators.head? then throw "incompatible tabs".toList
  return {
    firstKey, secondKey
    ignoresCase := g.has "i"
    separator := separators.head?
    mark := if g.has "z" then '\x00' else '\n'
    filler := fillers.getLast?.getD []
    format := if format = [] then none else some format
    isUniform := (g.values "o").contains "auto".toList
    showsPairs := !g.has "v"
    showsFirst := extra.contains true
    showsSecond := extra.contains false
    check := orderCheckOf g
    names }

end Relation

/-- The options of `join`. -/
def joinForms : List OptionForm :=
  [valued 'a' "", valued 'e' "", flag 'i' "ignore-case", valued '1' "", valued '2' "",
    valued 'j' "", valued 'o' "", valued 't' "", valued 'v' "", flag 'z' "zero-terminated",
    longFlag "header"] ++ orderForms

/-- Joins the lines of two files that have a field in common. -/
def join : Tool := fun c => c.withOptions joinForms fun g =>
  match Relation.ofGiven g (g.operands.headD [], (g.operands.drop 1).headD []) with
  | .error text => c.fail 1 text
  | .ok k =>
    c.withTwo g.operands fun first second => do
      if first = ['-'] && second = ['-'] then
        return ← c.fail 1 "both files cannot be standard input".toList
      let unreadable : Call.Complaint := fun _ e => "read error: ".toList ++ describe e
      c.withTwoContents first second unreadable fun a b =>
        let rows (text : Bytes) : List Row := (markedLines k.mark text).map (Row.ofLine k.separator)
        c.tellAll k.check (k.joined (g.has "header") (rows a) (rows b))

end Tool

end TokenConformance.Sandbox.Shell
