import TokenConformance.Sandbox.Calendar.Format
import TokenConformance.Sandbox.Shell.Comparison
import TokenConformance.Sandbox.Shell.Pattern
import TokenConformance.Sandbox.Shell.Tool.Placing
import TokenConformance.Sandbox.Shell.Tool.Removing

/-! # The program that tells how files differ

* `Comparing`: how files are compared; `comparingOf` reads it from options.
* `compareTexts`: compares two texts.
* `comparePaths`: compares what stands at two paths.
* `diff`: tells how files or directories differ.
-/

namespace TokenConformance.Sandbox.Shell.Tool

open Sandbox.Text (Bytes Regex)
open Sandbox (Kind Node)
open Comparison (Blanks Layout Pair Sameness Side Style)

/-- How files are compared. -/
structure Comparing where
  sameness : Sameness
  layout : Layout
  /-- Whether it is only told that files differ. -/
  isBrief : Bool
  /-- Whether it is told that files are the same. -/
  tellsSame : Bool
  isDeep : Bool
  /-- Whether a file that is missing counts as an empty one. -/
  takesMissing : Bool
  isText : Bool
  /-- Whether a carriage return at the end of a line is taken away. -/
  stripsReturns : Bool
  followsLinks : Bool
  labels : List Bytes
  excluded : List Bytes
  /-- The options as they were given. -/
  switches : Bytes
deriving Inhabited

/-- What stands at a path that is compared. -/
inductive Compared where
  | missing
  | there (number : Nat) (node : Node)
deriving Inhabited

/-- A name in quotes if it has blanks or characters that cannot be shown in it. -/
def headerName (name : Bytes) : Bytes :=
  let isPlain (c : Char) : Bool := c ≠ ' ' && c ≠ '\\' && c ≠ '"' && 32 < c.toNat && c.toNat ≠ 127
  if name.all isPlain then name
  else
    '"' :: (name.flatMap fun c =>
      if c = '\\' || c = '"' then ['\\', c]
      else if c.toNat < 32 || c.toNat = 127 then escapeOf c else [c]) ++ ['"']

/-- The label of one of two files, or its path. -/
def Comparing.labelOr (d : Comparing) (i : Nat) (path : Bytes) : Bytes := (d.labels[i]?).getD path

/-- The time behind the name of a file that has no label. -/
def Comparing.remark (d : Comparing) (i : Nat) (time : Int) : Bytes :=
  if d.labels.length ≤ i then
    '\t' :: (Calendar.Moment.ofSeconds time).format "%Y-%m-%d %H:%M:%S.%N %z".toList
  else []

/-- Whether a text is not made of lines. -/
def isBinary (text : Bytes) : Bool := (text.take 4096).contains '\x00'

/-- A text without carriage returns at the ends of lines. -/
def withoutReturns : Bytes → Bytes
  | [] => []
  | '\r' :: '\n' :: rest => '\n' :: withoutReturns rest
  | c :: rest => c :: withoutReturns rest

/-- Compares two texts with their paths and times. The result is the status. -/
def compareTexts (c : Call) (d : Comparing) (isInside : Bool) (first second : Bytes × Bytes × Int) :
    Action Nat := do
  let (path1, text1, time1) := first
  let (path2, text2, time2) := second
  let names := [d.labelOr 0 path1, d.labelOr 1 path2]
  let tell (isSame : Bool) : Action Nat := do
    if isSame && d.tellsSame then print (filled "Files % and % are identical\n" names)
    return if isSame then 0 else 1
  if !d.isText && (isBinary text1 || isBinary text2) then
    if text1 = text2 then return ← tell true
    print (filled (if d.isBrief then "Files % and % differ\n" else "Binary files % and % differ\n")
      names)
    return 1
  let clean (text : Bytes) : Bytes := if d.stripsReturns then withoutReturns text else text
  let side (i : Nat) (path text : Bytes) (time : Int) : Side :=
    .ofText (if d.labels.length ≤ i then headerName path else d.labelOr i path) (d.remark i time)
      (clean text)
  let first := side 0 path1 text1 time1
  let second := side 1 path2 text2 time2
  let horizon := if d.layout.style = .unified || d.layout.style = .context then d.layout.around else 0
  let pair := Pair.ofSides d.sameness horizon first second
  if d.isBrief then
    if pair.differs then print (filled "Files % and % differ\n" names)
    return ← tell (!pair.differs)
  let text := pair.text d.layout
  if isInside && text ≠ [] then
    print ("diff".toList ++ d.switches ++ ' ' :: headerName (d.labelOr 0 path1) ++
      ' ' :: headerName (d.labelOr 1 path2) ++ ['\n'])
  print text
  let open' := if d.sameness.seesEnds then [] else
    [(path1, first), (path2, second)].filter fun s => s.2.isOpen
  for (path, _) in open' do
    c.say (path ++ ": No newline at end of file\n".toList)
  if open' ≠ [] then return 2
  tell (!pair.differs)

/-- What stands at a path. A hyphen names what there is to read. -/
def comparedAt (d : Comparing) (path : Bytes) : Action (Except SystemError Compared) := do
  let m ← get
  let found :=
    if path = ['-'] then m.nodeOf "/dev/stdin".toList
    else if d.followsLinks then m.nodeOf path
    else m.files.nodeNamed m.here path
  match found with
  | .ok (n, node) => return .ok (.there n node)
  | .error e => return .error e

/-- The content of what is compared. -/
def comparedText (path : Bytes) : Compared → Action (Except SystemError (Bytes × Bytes × Int))
  | .missing => return .ok (path, [], 0)
  | .there _ node => do
    match ← Call.contentOf path with
    | .ok text => return .ok (path, text, node.time)
    | .error e => return .error e

/-- Compares two files. The result is the status. -/
def compareFiles (c : Call) (d : Comparing) (isInside : Bool) (path1 path2 : Bytes)
    (first second : Compared) : Action Nat := do
  match ← comparedText path1 first with
  | .error e => c.fail 2 (path1 ++ ": ".toList ++ describe e)
  | .ok one =>
    match ← comparedText path2 second with
    | .error e => c.fail 2 (path2 ++ ": ".toList ++ describe e)
    | .ok two => compareTexts c d isInside one two

/-- Whether something is a file with lines. -/
def isRegular : Kind → Bool
  | .file _ | .program _ => true
  | _ => false

/-- Compares what stands at two paths below others, of which one may be missing. The number bounds how
deep directories are. -/
def comparePaths (c : Call) (d : Comparing) : Nat → Bool → (Bytes × Compared) → (Bytes × Compared) →
    Action Nat
  | 0, _, _, _ => return 0
  | n + 1, isInside, (path1, first), (path2, second) => do
    let kindOf : Compared → Option Kind
      | .missing => none
      | .there _ node => some node.kind
    let isDirectory (k : Compared) (other : Compared) : Bool :=
      kindOf k = some .directory || ((kindOf k).isNone && kindOf other = some .directory)
    let tellSame : Action Nat := do
      if d.tellsSame then
        print (filled "Files % and % are identical\n" [d.labelOr 0 path1, d.labelOr 1 path2])
      return 0
    match isDirectory first second, isDirectory second first with
    | true, true =>
      if isInside && !d.isDeep then
        print (filled "Common subdirectories: % and %\n" [path1, path2])
        return 0
      let m ← get
      let namesAt (path : Bytes) (k : Compared) : List Bytes :=
        match k with
        | .missing => []
        | .there .. => m.files.names ((m.find path).toOption.getD [])
      let isExcluded (name : Bytes) : Bool := d.excluded.any fun p => Pattern.fits p name
      let names1 := (namesAt path1 first).filter fun name => !isExcluded name
      let names2 := (namesAt path2 second).filter fun name => !isExcluded name
      let all := (names1 ++ names2.filter fun name => !names1.contains name).mergeSort Bytes.isAtMost
      let mut status := 0
      for name in all do
        let inner1 := pathIn path1 name
        let inner2 := pathIn path2 name
        let hasBoth := names1.contains name && names2.contains name
        if !hasBoth && !d.takesMissing then
          let directory := if names1.contains name then path1 else path2
          print (filled "Only in %: %\n" [directory, name])
          status := max status 1
        else
          let found (own : Bool) (path : Bytes) : Action (Except SystemError Compared) :=
            if own then comparedAt d path else return .ok .missing
          let one ← found (names1.contains name) inner1
          let two ← found (names2.contains name) inner2
          match one, two with
          | .ok one, .ok two =>
            status := max status (← comparePaths c d n true (inner1, one) (inner2, two))
          | one, two =>
            for (path, k) in [(inner1, one), (inner2, two)] do
              match k with
              | .error e => c.say (path ++ ": ".toList ++ describe e)
              | .ok _ => pure ()
            status := 2
      return status
    | _, _ =>
      match first, second with
      | .there i node1, .there j node2 =>
        if i = j && d.layout.style ≠ .columns then return ← tellSame
        match node1.kind, node2.kind with
        | .link target1, .link target2 =>
          if target1 = target2 then return ← tellSame
          print (filled "Symbolic links % and % differ\n" [path1, path2])
          return 1
        | kind1, kind2 =>
          let isPlain := isRegular kind1 && isRegular kind2
          if kind1 = .directory || kind2 = .directory || (isInside && !isPlain) then
            print (filled "File % is a % while file % is a %\n"
              [d.labelOr 0 path1, (kindText kind1).toList, d.labelOr 1 path2, (kindText kind2).toList])
            return 1
          compareFiles c d isInside path1 path2 first second
      | _, _ => compareFiles c d isInside path1 path2 first second

/-- The options of the program. -/
def comparingForms : List OptionForm :=
  letters "0123456789" ++
    [flag 'a' "text", flag 'b' "ignore-space-change", flag 'B' "ignore-blank-lines", flag 'c' "",
      valued 'C' "", longVariant "context", longVariant "color", flag 'd' "minimal", flag 'e' "ed",
      flag 'E' "ignore-tab-expansion", flag 'f' "forward-ed", valued 'F' "show-function-line",
      flag 'h' "", flag 'H' "speed-large-files", flag 'i' "ignore-case",
      longFlag "ignore-file-name-case", valued 'I' "ignore-matching-lines", valued 'L' "label",
      flag 'n' "rcs", flag 'N' "new-file", longFlag "normal", longFlag "no-dereference",
      flag 'p' "show-c-function", flag 'P' "unidirectional-new-file", flag 'q' "brief",
      flag 'r' "recursive", flag 's' "report-identical-files", longFlag "strip-trailing-cr",
      longFlag "suppress-common-lines", flag 't' "expand-tabs", flag 'T' "initial-tab", flag 'u' "",
      valued 'U' "", longVariant "unified", flag 'v' "", flag 'w' "ignore-all-space",
      valued 'W' "width", valued 'x' "exclude", flag 'y' "side-by-side",
      longFlag "left-column", flag 'Z' "ignore-trailing-space", longValued "horizon-lines"]

/-- The styles that options ask for. -/
def styleOf? (key : String) : Option Style :=
  match key with
  | "c" | "C" | "context" => some .context
  | "u" | "U" | "unified" => some .unified
  | "e" => some .script
  | "f" => some .forward
  | "n" => some .counted
  | "y" => some .columns
  | "normal" => some .plain
  | _ => none

/-- The options as they were given, each after a blank. Operands are looked for from the end on. -/
def switchesOf (arguments operands : List Bytes) : Bytes :=
  let (kept, _) := arguments.reverse.foldl
    (fun (kept, left) a =>
      match left with
      | o :: left => if o = a then (kept, left) else (a :: kept, o :: left)
      | [] => (a :: kept, [])) (([] : List Bytes), operands.reverse)
  (kept.filter (· ≠ ['-', '-'])).flatMap fun a => ' ' :: named a

/-- Reads an expression that lines are compared with. -/
def lineExpression (text : Bytes) : Except Bytes Regex :=
  match Regex.read ⟨false, false, false, false⟩ text with
  | .ok (r, _) => .ok r
  | .error fault =>
    let fault := if "Unmatched [".isPrefixOf fault then "Invalid regular expression" else fault
    .error (text ++ ": ".toList ++ fault.toList)

/-- How files are compared as options say. An error tells what is wrong, and whether it is told how to
find out about options. -/
def comparingOf (g : Given) (arguments : List Bytes) : Except (Bytes × Bool) Comparing := do
  let styles := g.options.filterMap fun o => styleOf? o.1
  if 1 < styles.eraseDups.length then throw ("conflicting output style options".toList, true)
  let lengths ← (g.options.filter fun o => ["C", "U", "context", "unified"].contains o.1).mapM fun o =>
    if o.2 = [] && o.1.length ≠ 1 then pure 3
    else
      match digitsValue? o.2 with
      | some n => pure n
      | none => throw ("invalid context length ".toList ++ inSingleQuotes o.2, true)
  let lengths := lengths ++ if g.has "u" || g.has "c" then [3] else []
  let digits := g.options.filterMap fun o => if (o.1.toList).all Char.isDigit then some o.1.toList else none
  let lengths := if digits = [] then lengths else digitsValue digits.flatten :: lengths
  let width ← match g.value? "W" with
    | none => pure 130
    | some text =>
      match digitsValue? text with
      | some n => if 0 < n then pure n else throw ("invalid width ".toList ++ inSingleQuotes text, true)
      | none => throw ("invalid width ".toList ++ inSingleQuotes text, true)
  if 2 < (g.values "L").length then throw ("too many file label options".toList, false)
  let read (text : Bytes) : Except (Bytes × Bool) Regex := (lineExpression text).mapError (·, false)
  let skipped ← (g.values "I").mapM read
  let heading ← (g.value? "F").mapM read
  let functions : Option Regex :=
    if g.has "p" then (lineExpression "^[[:alpha:]$_]".toList).toOption else none
  let style := (styles.head?).getD (if g.has "p" then .context else .plain)
  let around := lengths.foldl max (if g.has "p" && styles = [] && lengths = [] then 3 else 0)
  let blanks : Blanks :=
    if g.has "w" then .none else if g.has "b" then .presence
    else if g.has "Z" then .inside (g.has "E") else .all (g.has "E")
  return {
    sameness := {
      blanks
      ignoresCase := g.has "i"
      skipsBlank := g.has "B"
      skipped := match skipped with
        | [] => none
        | r :: rs => some (rs.foldl .either r)
      seesEnds := style ≠ .script && style ≠ .forward }
    layout := {
      style, around, width
      expandsTabs := g.has "t"
      startsWithTab := g.has "T"
      isLeftOnly := g.has "left-column"
      hidesCommon := g.has "suppress-common-lines"
      heading := if heading.isSome then heading else functions }
    isBrief := g.has "q"
    tellsSame := g.has "s"
    isDeep := g.has "r"
    takesMissing := g.has "N"
    isText := g.has "a"
    stripsReturns := g.has "strip-trailing-cr"
    followsLinks := !g.has "no-dereference"
    labels := g.values "L"
    excluded := g.values "x"
    switches := switchesOf arguments g.operands }

/-- How deep directories may be. -/
def mostCompared : Nat := 1000

/-- Tells how files or directories differ. -/
def diff : Tool := fun c =>
  c.withOptionsUpTo false 2 comparingForms fun g => do
    if g.has "v" then
      print (c.versionLine ++ ['\n'])
      return 0
    match comparingOf g c.arguments with
    | .error (text, isMisused) => if isMisused then c.misused 2 text else c.fail 2 text
    | .ok d =>
      let last := (c.name :: c.arguments).getLast?.getD []
      match g.operands with
      | [] | [_] => c.misused 2 ("missing operand after ".toList ++ inSingleQuotes last)
      | _ :: _ :: extra :: _ => c.misused 2 ("extra operand ".toList ++ inSingleQuotes extra)
      | [path1, path2] =>
        let found1 ← comparedAt d path1
        let found2 ← comparedAt d path2
        let isDirectory : Except SystemError Compared → Bool
          | .ok (.there _ node) => node.kind = .directory
          | _ => false
        let isHyphen := path1 = ['-'] || path2 = ['-']
        if isHyphen && (isDirectory found1 || isDirectory found2) then
          return ← c.fail 2 "cannot compare '-' to a directory".toList
        let isThere : Except SystemError Compared → Bool
          | .ok _ => true
          | .error _ => false
        let bothThere := isThere found1 && isThere found2
        let (path1, path2) : Bytes × Bytes :=
          if bothThere && isDirectory found1 && !isDirectory found2 then
            (pathIn path1 (baseOf path2), path2)
          else if bothThere && isDirectory found2 && !isDirectory found1 then
            (path1, pathIn path2 (baseOf path1))
          else (path1, path2)
        let found1 ← comparedAt d path1
        let found2 ← comparedAt d path2
        let orMissing (own other : Except SystemError Compared) : Except SystemError Compared :=
          match own with
          | .error .notFound => if d.takesMissing && isThere other then .ok .missing else own
          | _ => own
        match orMissing found1 found2, orMissing found2 found1 with
        | .ok one, .ok two => comparePaths c d mostCompared false (path1, one) (path2, two)
        | one, two =>
          for (path, k) in [(path1, one), (path2, two)] do
            match k with
            | .error e => c.say (path ++ ": ".toList ++ describe e)
            | .ok _ => pure ()
          return 2

end TokenConformance.Sandbox.Shell.Tool
