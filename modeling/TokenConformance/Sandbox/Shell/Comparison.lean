import TokenConformance.Sandbox.Text.Difference
import TokenConformance.Sandbox.Text.Regex.Reader
import TokenConformance.Sandbox.Text.Bytes

/-! # Two texts that are compared

* `Side`: one of the texts, line by line.
* `Sameness`: what counts as the same in two lines, and which changes do not count.
* `Pair`: two sides with the changes between them; `Pair.ofSides` finds them.
* `Style`: how changes are written; `Layout`: what else there is to know about that.
* `plainChange`, `scriptChange`, `countedChange`: changes one by one.
* `hunks`: changes that are near each other; `unifiedHunk`, `contextHunk` write them with the lines
  around them.
* `inTwoColumns`: both sides next to each other.
* `Pair.text`: all changes.
-/

namespace TokenConformance.Sandbox.Shell.Comparison

open Sandbox.Text (Bytes Regex)
open Sandbox.Text.Difference (Change)

/-- One of two texts. -/
structure Side where
  /-- What it is called where it is shown. -/
  name : Bytes
  /-- What stands behind the name, such as a time. -/
  remark : Bytes
  /-- The lines without their ends. -/
  lines : Array Bytes
  /-- Whether the last line has no end. -/
  isOpen : Bool
deriving Inhabited

/-- The side of a text. -/
def Side.ofText (name remark text : Bytes) : Side :=
  ⟨name, remark, (Bytes.lines text).toArray, text ≠ [] && text.getLast? ≠ some '\n'⟩

/-- A line of a side. -/
def Side.line (s : Side) (i : Nat) : Bytes := s.lines.getD i []

/-- Whether a line of a side has no end. -/
def Side.isOpenAt (s : Side) (i : Nat) : Bool := s.isOpen && i + 1 = s.lines.size

/-- Which blanks in lines count. -/
inductive Blanks where
  | none
  /-- How many there are between words counts for nothing, nor do those at the end. -/
  | presence
  | inside (expands : Bool)
  | all (expands : Bool)
deriving DecidableEq, Inhabited

/-- What counts as the same in two lines, and which changes do not count. -/
structure Sameness where
  ignoresCase : Bool
  blanks : Blanks
  /-- Whether changes of blank lines do not count. -/
  skipsBlank : Bool
  /-- Changes of lines that all match this do not count. -/
  skipped : Option Regex
  /-- Whether it counts that the last line has no end. -/
  seesEnds : Bool
deriving Inhabited

/-- A line with blanks instead of tabs, up to every eighth column. -/
def expanded : Nat → Bytes → Bytes
  | _, [] => []
  | column, '\t' :: rest =>
    let blanks := 8 - column % 8
    List.replicate blanks ' ' ++ expanded (column + blanks) rest
  | column, c :: rest => c :: expanded (column + 1) rest

/-- A line without the blanks at its end. -/
def trimmedRight (line : Bytes) : Bytes := (line.reverse.dropWhile Text.isSpace).reverse

/-- A line with one blank instead of several. -/
def squeezed : Bytes → Bytes
  | [] => []
  | c :: rest =>
    if Text.isSpace c then
      if rest.head?.any Text.isSpace then squeezed rest else ' ' :: squeezed rest
    else c :: squeezed rest

namespace Sameness

/-- Whether blanks at the ends of lines do not count. -/
def forgetsEnds (s : Sameness) : Bool :=
  match s.blanks with
  | .all _ => false
  | _ => true

/-- A form of a line that is equal for lines that count as the same. -/
def key (s : Sameness) (line : Bytes) : Bytes :=
  let line := match s.blanks with
    | .none => line.filter fun c => !Text.isSpace c
    | .presence => squeezed (trimmedRight line)
    | .inside expands => trimmedRight (if expands then expanded 0 line else line)
    | .all expands => if expands then expanded 0 line else line
  if s.ignoresCase then line.map Char.toLower else line

/-- Whether changes of a line do not count. -/
def isTrivial (s : Sameness) (line : Bytes) : Bool :=
  let bare := match s.blanks with
    | .all _ => line
    | .inside _ => if line.all Text.isSpace then [] else line
    | _ => line.dropWhile Text.isSpace
  (s.skipsBlank && bare = []) || s.skipped.any (·.isIn line)

end Sameness

/-- Two sides with the changes between them. -/
structure Pair where
  first : Side
  second : Side
  changes : List Change
  sameness : Sameness
deriving Inhabited

/-- How many elements two lists have in common at their beginnings. -/
def commonStart {α : Type} [BEq α] : List α → List α → Nat
  | a :: as, b :: bs => if a == b then commonStart as bs + 1 else 0
  | _, _ => 0

/-- The numbers of elements, the same for equal ones. -/
def numbered (keys : List Bytes) : List Nat :=
  let sorted := (keys.zipIdx.mergeSort fun a b => Bytes.isAtMost a.1 b.1)
  let start : Nat × Option Bytes × List (Nat × Nat) := (0, none, [])
  let (_, _, found) := sorted.foldl
    (fun (n, last, found) (key, i) =>
      let n := if last = some key then n else n + 1
      (n, some key, (i, n) :: found)) start
  let numbers := found.foldl (fun ns (i, n) => ns.setIfInBounds i n) (Array.replicate keys.length 0)
  numbers.toList

namespace Pair

/-- Two sides with the changes between them. Up to some lines of what is the same at the beginning and at
the end are looked at. -/
def ofSides (s : Sameness) (horizon : Nat) (first second : Side) : Pair :=
  let own (side : Side) (mark : Bool) : List Bytes := side.lines.toList.zipIdx.map fun (line, i) =>
    if mark && side.isOpenAt i then '\n' :: line else line
  let xs := own first s.seesEnds
  let ys := own second s.seesEnds
  let before := commonStart xs ys - horizon
  let room := min xs.length ys.length - commonStart xs ys
  let same := min room (commonStart xs.reverse ys.reverse)
  let after := if s.seesEnds && first.isOpen ≠ second.isOpen then 0 else same - horizon
  let marksEnds := s.seesEnds && !s.forgetsEnds
  let keys (side : Side) : List Bytes := side.lines.toList.zipIdx.map fun (line, i) =>
    if marksEnds && side.isOpenAt i then '\n' :: s.key line else s.key line
  let numbers := numbered (keys first ++ keys second)
  ⟨first, second,
    Text.Difference.changes before after (numbers.take xs.length).toArray
      (numbers.drop xs.length).toArray, s⟩

/-- Whether a change does not count. -/
def isTrivial (p : Pair) (c : Change) : Bool :=
  (p.sameness.skipsBlank || p.sameness.skipped.isSome) &&
    (List.range c.deleted).all (fun i => p.sameness.isTrivial (p.first.line (c.first + i))) &&
    (List.range c.inserted).all fun i => p.sameness.isTrivial (p.second.line (c.second + i))

/-- Whether there are changes that count. -/
def differs (p : Pair) : Bool := p.changes.any fun c => !p.isTrivial c

end Pair

/-! ## How changes are written -/

/-- How changes are written. -/
inductive Style where
  | plain
  | unified
  | context
  /-- As commands for an editor, from the end on. -/
  | script
  /-- As commands for an editor, from the beginning on. -/
  | forward
  /-- As commands with the counts of lines. -/
  | counted
  | columns
deriving DecidableEq, Inhabited

/-- How changes are written, with all that options say about it. -/
structure Layout where
  style : Style
  /-- How many lines are shown around changes. -/
  around : Nat
  expandsTabs : Bool
  /-- Whether a tab stands before lines, so that tabs in them look as usual. -/
  startsWithTab : Bool
  width : Nat
  /-- Whether only the left one of two equal lines is shown. -/
  isLeftOnly : Bool
  hidesCommon : Bool
  /-- What the lines look like that start a part of the text, of which the last one is shown. -/
  heading : Option Regex
deriving Inhabited

/-! ## Lines -/

/-- A line with its end. It is said if there is none. -/
def Layout.ended (l : Layout) (s : Side) (i : Nat) : Bytes :=
  let line := if l.expandsTabs then expanded 0 (s.line i) else s.line i
  line ++ if s.isOpenAt i then "\n\\ No newline at end of file\n".toList else ['\n']

/-- Some lines from one on, each after a mark. -/
def Layout.marked (l : Layout) (s : Side) (mark : Bytes) (start count : Nat) : Bytes :=
  (List.range count).flatMap fun i => mark ++ l.ended s (start + i)

/-- A mark and what stands between it and a line. -/
def Layout.mark (l : Layout) (c : Char) : Bytes := [c, if l.startsWithTab then '\t' else ' ']

/-- The numbers of some lines, which are counted from zero here. Where there are none, it is the number of
the line before them. -/
def rangeText (between : Char) (start count : Nat) : Bytes :=
  if count ≤ 1 then Bytes.ofInt (start + count)
  else Bytes.ofInt (start + 1 : Nat) ++ between :: Bytes.ofInt (start + count)

/-- The letter of a change. -/
def changeLetter (c : Change) : Char :=
  if c.deleted = 0 then 'a' else if c.inserted = 0 then 'd' else 'c'

/-! ## Changes one by one -/

/-- A change with its lines. -/
def plainChange (l : Layout) (p : Pair) (c : Change) : Bytes :=
  rangeText ',' c.first c.deleted ++ changeLetter c :: rangeText ',' c.second c.inserted ++ ['\n'] ++
    l.marked p.first (l.mark '<') c.first c.deleted ++
    (if c.deleted ≠ 0 && c.inserted ≠ 0 then "---\n".toList else []) ++
    l.marked p.second (l.mark '>') c.second c.inserted

/-- Lines for an editor, which reads them up to a line with a point. Such a line itself is entered with
another point, which is taken away. -/
def enteredLines : Bool → List Bytes → Bytes
  | isEntering, [] => if isEntering then ['.', '\n'] else []
  | isEntering, line :: rest =>
    (if isEntering then [] else ['a', '\n']) ++
      if line = ['.'] then "..\n.\ns/.//\n".toList ++ enteredLines false rest
      else line ++ '\n' :: enteredLines true rest

/-- The lines of a side that a change brings. -/
def insertedLines (l : Layout) (p : Pair) (c : Change) : List Bytes :=
  (List.range c.inserted).map fun i =>
    let line := p.second.line (c.second + i)
    if l.expandsTabs then expanded 0 line else line

/-- A change as a command for an editor that works from the end on. -/
def scriptChange (l : Layout) (p : Pair) (c : Change) : Bytes :=
  rangeText ',' c.first c.deleted ++ [changeLetter c, '\n'] ++
    if c.inserted = 0 then [] else enteredLines true (insertedLines l p c)

/-- A change as a command for an editor that works from the beginning on. -/
def forwardChange (l : Layout) (p : Pair) (c : Change) : Bytes :=
  changeLetter c :: rangeText ' ' c.first c.deleted ++ ['\n'] ++
    if c.inserted = 0 then []
    else (insertedLines l p c).flatMap (· ++ ['\n']) ++ ['.', '\n']

/-- A change as commands with the counts of lines. -/
def countedChange (l : Layout) (p : Pair) (c : Change) : Bytes :=
  let command (letter : Char) (line count : Nat) : Bytes :=
    letter :: Bytes.ofInt line ++ ' ' :: Bytes.ofInt count ++ ['\n']
  let lines := (insertedLines l p c).zipIdx.flatMap fun (line, i) =>
    if p.second.isOpenAt (c.second + i) then line else line ++ ['\n']
  (if c.deleted = 0 then [] else command 'd' (c.first + 1) c.deleted) ++
    if c.inserted = 0 then [] else command 'a' (c.first + c.deleted) c.inserted ++ lines

/-! ## Changes with the lines around them -/

/-- Changes that are shown together, as few lines are between them. -/
def hunks (p : Pair) (around : Nat) : List Change → List (List Change)
  | [] => []
  | c :: rest =>
    match hunks p around rest with
    | (d :: ds) :: others =>
      let between := d.first - (c.first + c.deleted)
      let least := if p.isTrivial d then around else 2 * around + 1
      if between < least then (c :: d :: ds) :: others else [c] :: (d :: ds) :: others
    | others => [c] :: others

/-- The lines of both sides that are shown for some changes: the first one and how many there are. -/
structure Extent where
  first : Nat
  firstCount : Nat
  second : Nat
  secondCount : Nat
deriving DecidableEq, Inhabited

/-- The lines that are shown for changes. -/
def extentOf (p : Pair) (around : Nat) (cs : List Change) : Extent :=
  let start := cs.headD default
  let stop := cs.getLastD default
  let before := min around (min start.first start.second)
  let firstStop := min p.first.lines.size (stop.first + stop.deleted + around)
  let secondStop := min p.second.lines.size (stop.second + stop.inserted + around)
  ⟨start.first - before, firstStop - (start.first - before), start.second - before,
    secondStop - (start.second - before)⟩

/-- The last line before some line that starts a part of the text. -/
def headingText (l : Layout) (p : Pair) (start : Nat) : Bytes :=
  match l.heading with
  | none => []
  | some r =>
    match ((List.range start).reverse.find? fun i => r.isIn (p.first.line i)) with
    | none => []
    | some i =>
      let line := ((p.first.line i).dropWhile Text.isSpace).take 40
      ' ' :: trimmedRight line

/-- The lines of changes, with a function for those of each change. The lines between them come first in
each step; what is shown after the last change is given. -/
def withLinesBetween (common : Nat → Nat → Bytes) (own : Change → Bytes) (stop : Nat) :
    Nat → List Change → Bytes
  | place, [] => common place (stop - place)
  | place, c :: rest =>
    common place (c.first - place) ++ own c ++
      withLinesBetween common own stop (c.first + c.deleted) rest

/-- Changes with the lines around them, once for both sides. -/
def unifiedHunk (l : Layout) (p : Pair) (cs : List Change) : Bytes :=
  let e := extentOf p l.around cs
  let range (start count : Nat) : Bytes :=
    if count = 1 then Bytes.ofInt (start + 1 : Nat)
    else if count = 0 then Bytes.ofInt start ++ [',', '0']
    else Bytes.ofInt (start + 1 : Nat) ++ ',' :: Bytes.ofInt count
  let mark (c : Char) : Bytes := if l.startsWithTab then [c, '\t'] else [c]
  let shared : Bytes := if l.startsWithTab then ['\t'] else [' ']
  "@@ -".toList ++ range e.first e.firstCount ++ " +".toList ++ range e.second e.secondCount ++
    " @@".toList ++ headingText l p e.first ++ ['\n'] ++
    withLinesBetween (l.marked p.first shared)
      (fun c => l.marked p.first (mark '-') c.first c.deleted ++
        l.marked p.second (mark '+') c.second c.inserted)
      (e.first + e.firstCount) e.first cs

/-- A change as seen from the other side. -/
def turned (c : Change) : Change := ⟨c.second, c.first, c.inserted, c.deleted⟩

/-- Changes with the lines around them, for each side on its own. -/
def contextHunk (l : Layout) (p : Pair) (cs : List Change) : Bytes :=
  let e := extentOf p l.around cs
  let side (s : Side) (own : Char) (start count : Nat) (cs : List Change) : Bytes :=
    if cs.all fun c => c.deleted = 0 then []
    else
      withLinesBetween (l.marked s (l.mark ' '))
        (fun c => l.marked s (l.mark (if c.inserted = 0 then own else '!')) c.first c.deleted)
        (start + count) start cs
  "***************".toList ++ headingText l p e.first ++ "\n*** ".toList ++
    rangeText ',' e.first e.firstCount ++ " ****\n".toList ++
    side p.first '-' e.first e.firstCount cs ++ "--- ".toList ++
    rangeText ',' e.second e.secondCount ++ " ----\n".toList ++
    side p.second '+' e.second e.secondCount (cs.map turned)

/-- The lines that tell which sides are compared. -/
def headerText (first second : String) (p : Pair) : Bytes :=
  first.toList ++ ' ' :: p.first.name ++ p.first.remark ++ ['\n'] ++
    second.toList ++ ' ' :: p.second.name ++ p.second.remark ++ ['\n']

/-! ## Two columns -/

/-- The blanks that lead from one column to another. -/
def blanksTo (usesTabs : Bool) : Nat → Nat → Nat → Bytes
  | 0, _, _ => []
  | n + 1, column, stop =>
    let tab := column + 8 - column % 8
    if usesTabs && tab ≤ stop then '\t' :: blanksTo usesTabs n tab stop
    else List.replicate (stop - column) ' '

/-- As much of a line as there is room for, and the column after it. Columns that the line has and that are
written are counted apart. -/
def halfLine (usesTabs : Bool) (room : Nat) : Nat → Nat → Bytes → Bytes × Nat
  | _, written, [] => ([], written)
  | place, written, c :: rest =>
    if c = '\t' then
      let blanks := 8 - place % 8
      let (own, after) : Bytes × Nat :=
        if place ≠ written then ([], written)
        else if usesTabs then
          if written + blanks < room then (['\t'], written + blanks) else ([], written)
        else (List.replicate (min blanks (room - written)) ' ', min room (written + blanks))
      let (text, stop) := halfLine usesTabs room (place + blanks) after rest
      (own ++ text, stop)
    else if c.toNat < 32 || c.toNat = 127 then
      let (text, stop) := halfLine usesTabs room place written rest
      (if place < room then c :: text else text, stop)
    else
      let isShown := place < room
      let (text, stop) := halfLine usesTabs room (place + 1) (if isShown then place + 1 else written) rest
      (if isShown then c :: text else text, stop)

/-- Two lines next to each other, with a sign between them. -/
def twoLines (l : Layout) (p : Pair) (left : Option Nat) (sign : Char) (right : Option Nat) : Bytes :=
  let tab := if l.expandsTabs then 1 else 8
  let sum := tab + 3
  let raw := l.width / 2 + sum / 2 + (if l.width % 2 = 1 && sum % 2 = 1 then 1 else 0)
  let aligned := raw - raw % tab
  let half := min (aligned - 3) (l.width - aligned)
  let column := if half = 0 then l.width else aligned
  let usesTabs := !l.expandsTabs
  let isEnded (s : Side) (i : Option Nat) : Bool := i.any fun i => !s.isOpenAt i
  let leftEnded := isEnded p.first left
  let rightEnded := isEnded p.second right
  let (leftText, at0) := match left with
    | some i => halfLine usesTabs half 0 0 (p.first.line i)
    | none => ([], 0)
  let sign := if sign = '|' && leftEnded ≠ rightEnded then if leftEnded then '/' else '\\' else sign
  let (middle, at1) : Bytes × Nat :=
    if sign = ' ' then ([], at0)
    else
      let place := (half + column - 1) / 2
      (blanksTo usesTabs (place + 1) at0 place ++ [sign], max at0 place + 1)
  let rightText : Bytes := match right with
    | some i =>
      if p.second.line i = [] then []
      else blanksTo usesTabs (column + 1) at1 column ++
        (halfLine usesTabs half 0 0 (p.second.line i)).1
    | none => []
  leftText ++ middle ++ rightText ++ if leftEnded || rightEnded then ['\n'] else []

/-- Lines that both sides have, from two places up to two others. -/
def commonLines (l : Layout) (p : Pair) (i iStop j jStop : Nat) : Bytes :=
  if l.hidesCommon then []
  else
    let shared := min (iStop - i) (jStop - j)
    let both := (List.range shared).flatMap fun k =>
      if l.isLeftOnly then twoLines l p (some (i + k)) '(' none
      else twoLines l p (some (i + k)) ' ' (some (j + k))
    let rightOnly := (List.range (jStop - j - shared)).flatMap fun k =>
      twoLines l p none ')' (some (j + shared + k))
    let leftOnly := (List.range (iStop - i - shared)).flatMap fun k =>
      twoLines l p (some (i + shared + k)) '(' none
    both ++ rightOnly ++ leftOnly

/-- Both sides next to each other from two places on. -/
def inTwoColumns (l : Layout) (p : Pair) : Nat → Nat → List Change → Bytes
  | i, j, [] => commonLines l p i p.first.lines.size j p.second.lines.size
  | i, j, c :: rest =>
    if p.isTrivial c then inTwoColumns l p i j rest
    else
      let shared := min c.deleted c.inserted
      let changed := (List.range shared).flatMap fun k =>
        twoLines l p (some (c.first + k)) '|' (some (c.second + k))
      let added := (List.range (c.inserted - shared)).flatMap fun k =>
        twoLines l p none '>' (some (c.second + shared + k))
      let removed := (List.range (c.deleted - shared)).flatMap fun k =>
        twoLines l p (some (c.first + shared + k)) '<' none
      commonLines l p i c.first j c.second ++ changed ++ added ++ removed ++
        inTwoColumns l p (c.first + c.deleted) (c.second + c.inserted) rest

/-! ## All changes -/

/-- All changes as they are written. Those that do not count are left out, unless they are near others. -/
def Pair.text (p : Pair) (l : Layout) : Bytes :=
  let each (own : Layout → Pair → Change → Bytes) (cs : List Change) : Bytes :=
    (cs.filter fun c => !p.isTrivial c).flatMap (own l p)
  let together (header : Bytes) (own : Layout → Pair → List Change → Bytes) : Bytes :=
    let shown := (hunks p l.around p.changes).filter fun cs => cs.any fun c => !p.isTrivial c
    if shown = [] then [] else header ++ shown.flatMap (own l p)
  match l.style with
  | .plain => each plainChange p.changes
  | .script => each scriptChange p.changes.reverse
  | .forward => each forwardChange p.changes
  | .counted => each countedChange p.changes
  | .unified => together (headerText "---" "+++" p) unifiedHunk
  | .context => together (headerText "***" "---" p) contextHunk
  | .columns => inTwoColumns l p 0 0 p.changes

end TokenConformance.Sandbox.Shell.Comparison
