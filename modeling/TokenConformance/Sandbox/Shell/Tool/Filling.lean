import TokenConformance.Sandbox.Shell.Tool.Amounts
import TokenConformance.Sandbox.Text.CharSet

/-! # A program that fills lines

* `FillStyle`: how paragraphs are found and how wide lines are.
* `FillLine`, `FillWord`: a line that is read, and a word of it.
* `Breaks`: where the lines of a paragraph end best, from any word on.
* `Filling`: what has been written, and how it goes on.
* `fmt`: fills the lines of files.
-/

namespace TokenConformance.Sandbox.Shell.Tool

open Sandbox.Text (Bytes isSpace)

/-! ## Lines and words -/

/-- How paragraphs are found and how wide lines are. -/
structure FillStyle where
  isCrown : Bool
  isTagged : Bool
  /-- Whether lines are only cut. -/
  isCut : Bool
  isUniform : Bool
  width : Nat
  goal : Nat
  /-- How many blanks stand before the text that all lines start with. -/
  lead : Nat
  /-- The text that all lines start with, without blanks at its end. -/
  start : Bytes
  /-- How long that text is with the blanks at its end. -/
  startSize : Nat
deriving Inhabited

/-- How far tabulators are apart. -/
def fillTab : Nat := 8

/-- The column after blanks, what follows them, and whether there is a tabulator. -/
def afterBlanks : Nat → Bytes → Nat × Bytes × Bool
  | column, ' ' :: rest => afterBlanks (column + 1) rest
  | column, '\t' :: rest =>
    let (column, rest, _) := afterBlanks ((column / fillTab + 1) * fillTab) rest
    (column, rest, true)
  | column, rest => (column, rest, false)

/-- A line whose start has been read. -/
structure FillLine where
  /-- How many blanks stand before the text that all lines start with. -/
  indent : Nat
  /-- Where the rest starts. -/
  column : Nat
  rest : Bytes
  hasTabs : Bool
deriving Inhabited

/-- The part of a text that another one starts with as well, and what follows it. -/
def afterCommon : Bytes → Bytes → Nat × Bytes
  | p :: ps, c :: rest =>
    if p = c then
      let (n, rest) := afterCommon ps rest
      (n + 1, rest)
    else (0, c :: rest)
  | _, rest => (0, rest)

/-- Reads the start of a line. -/
def FillLine.ofText (s : FillStyle) (text : Bytes) : FillLine :=
  let (column, rest, hasTabs) := afterBlanks 0 text
  if s.start = [] then ⟨min s.lead column, column, rest, hasTabs⟩
  else
    let (n, after) := afterCommon s.start rest
    if n < s.start.length then ⟨column, column + n, after, hasTabs⟩
    else
      let (last, after, hasMore) := afterBlanks (column + n) after
      ⟨column, last, after, hasTabs || hasMore⟩

/-- Whether a line belongs to a paragraph. -/
def FillLine.isText (s : FillStyle) (l : FillLine) : Bool :=
  l.rest ≠ [] && s.lead ≤ l.indent && l.indent + s.startSize ≤ l.column

/-- A word with the blanks after it. -/
structure FillWord where
  text : Bytes
  space : Nat
  /-- Whether it starts with an opening mark. -/
  opens : Bool
  /-- Whether it ends with a punctuation mark. -/
  isMarked : Bool
  /-- Whether it ends with a full stop or the like. -/
  isStopped : Bool
  /-- Whether a sentence ends with it. -/
  isFinal : Bool
deriving Inhabited

/-- A word without anything after it. -/
def FillWord.ofText (text : Bytes) : FillWord :=
  let isClosing (c : Char) : Bool := c ∈ [')', ']', '\'', '"']
  let body := text.take 1 ++ ((text.drop 1).reverse.dropWhile isClosing).reverse
  let last := text.getLastD ' '
  { text
    space := 0
    opens := text.head?.any fun c => c ∈ ['(', '[', '\'', '\x60', '"']
    isMarked := Text.isGraph last && !last.isAlphanum
    isStopped := body.getLast?.any fun c => c ∈ ['.', '?', '!']
    isFinal := false }

/-- The words of the rest of a line, and whether there is a tabulator. The number bounds how many there
are. -/
def wordsFrom (s : FillStyle) : Nat → Nat → Bytes → List FillWord × Bool
  | 0, _, _ => ([], false)
  | _, _, [] => ([], false)
  | n + 1, column, c :: cs =>
    let text := c :: cs.takeWhile fun c => !isSpace c
    let word := FillWord.ofText text
    let finish := column + text.length
    let (next, rest, hasTabs) := afterBlanks finish (cs.drop (text.length - 1))
    let space := next - finish
    let isFinal := word.isStopped && (rest = [] || 1 < space)
    let space := if rest = [] || s.isUniform then (if isFinal then 2 else 1) else space
    let (others, hasMore) := wordsFrom s n next rest
    ({ word with space, isFinal } :: others, hasTabs || hasMore)

/-- The words of a line. -/
def FillLine.words (s : FillStyle) (l : FillLine) : List FillWord × Bool :=
  wordsFrom s (l.rest.length + 1) l.column l.rest

/-! ## Breaks -/

/-- The square of a number. -/
def square (n : Int) : Int := n * n

/-- What it costs that a line is shorter than it should be. -/
def shortCost (n : Int) : Int := square (n * 10)

/-- What it costs that a line is not as long as the next one. -/
def raggedCost (n : Int) : Int := shortCost n / 2

/-- Where the lines of a paragraph end best, from any word on. -/
structure Breaks where
  /-- What is lost at least from a word on. -/
  cost : Array Int
  /-- The first word of the next line. -/
  next : Array Nat
  /-- How long the line is. -/
  length : Array Nat
deriving Inhabited

/-- What a line costs in any case that starts with a word. -/
def startCost (ws : Array FillWord) (i : Nat) : Int :=
  let w := ws.getD i default
  let before : Int :=
    if i = 0 then 0
    else
      let p := ws.getD (i - 1) default
      if p.isStopped then if p.isFinal then -square 50 else square 600
      else if p.isMarked then -square 40
      else if 1 < i && (ws.getD (i - 2) default).isFinal then square 200 / (p.text.length + 2 : Int)
      else 0
  let own : Int :=
    if w.opens then -square 40
    else if w.isFinal then square 150 / (w.text.length + 2 : Int)
    else 0
  square 70 + before + own

/-- What a line costs that ends before a word. -/
def endCost (s : FillStyle) (b : Breaks) (count i length : Nat) : Int :=
  if i = count then 0
  else
    let short := shortCost ((s.goal : Int) - length)
    if b.next.getD i count = count then short
    else short + raggedCost ((length : Int) - b.length.getD i 0)

/-- The best end of a line that starts with a word: what is lost, the next word, and the length. The
number bounds how many words there are. -/
def bestEnd (s : FillStyle) (ws : Array FillWord) (b : Breaks) :
    Nat → Nat → Nat → Option (Int × Nat × Nat) → Option (Int × Nat × Nat)
  | 0, _, _, best => best
  | n + 1, i, length, best =>
    let cost := endCost s b ws.size i length + b.cost.getD i 0
    let best := match best with
      | some (least, _, _) => if cost < least then some (cost, i, length) else best
      | none => some (cost, i, length)
    if i = ws.size then best
    else
      let longer := length + (ws.getD (i - 1) default).space + (ws.getD i default).text.length
      if longer < s.width then bestEnd s ws b n (i + 1) longer best else best

/-- Where the lines of a paragraph end best. -/
def Breaks.of (s : FillStyle) (first other : Nat) (ws : Array FillWord) : Breaks :=
  let count := ws.size
  let start : Breaks := ⟨Array.replicate (count + 1) 0, Array.replicate (count + 1) count,
    Array.replicate (count + 1) 0⟩
  (List.range count).reverse.foldl
    (fun b i =>
      let indent := if i = 0 then first else other
      match bestEnd s ws b (count + 1) (i + 1) (indent + (ws.getD i default).text.length) none with
      | none => b
      | some (cost, next, length) =>
        { cost := b.cost.setIfInBounds i (cost + startCost ws i)
          next := b.next.setIfInBounds i next
          length := b.length.setIfInBounds i length }) start

/-! ## Paragraphs -/

/-- The blanks from one column to another. -/
def blanksTo (hasTabs : Bool) (column target : Nat) : Bytes :=
  let tabTarget := target / fillTab * fillTab
  if hasTabs && column + 1 < tabTarget then
    List.replicate ((tabTarget + fillTab - 1 - column) / fillTab) '\t' ++
      List.replicate (target - tabTarget) ' '
  else List.replicate (target - column) ' '

/-- What has been written, and how it goes on. -/
structure Filling where
  written : List Bytes
  hasTabs : Bool
  /-- Where the lines after the first one of a paragraph start. -/
  other : Nat
deriving Inhabited

/-- A line of words. -/
def wordLine (s : FillStyle) (hasTabs : Bool) (indent start : Nat) (ws : List FillWord) : Bytes :=
  let before := blanksTo hasTabs 0 indent ++ s.start
  let column := indent + s.start.length
  let before := before ++ blanksTo hasTabs column start
  let (text, _) := ws.zipIdx.foldl
    (fun (t : Bytes × Nat) (w, i) =>
      let finish := t.2 + w.text.length
      let gap := if i + 1 = ws.length then [] else blanksTo hasTabs finish (finish + w.space)
      (t.1 ++ w.text ++ gap, finish + w.space)) ([], max column start)
  before ++ text ++ ['\n']

/-- The lines of a paragraph from a word on. The number bounds how many there are. -/
def paragraphLines (s : FillStyle) (f : Filling) (indent first : Nat) (ws : Array FillWord)
    (b : Breaks) : Nat → Nat → List Bytes
  | 0, _ => []
  | n + 1, i =>
    if i ≥ ws.size then []
    else
      let next := max (i + 1) (b.next.getD i ws.size)
      let start := if i = 0 then first else f.other
      wordLine s f.hasTabs indent start (ws.extract i next).toList ::
        paragraphLines s f indent first ws b n next

/-- Writes a line as it is. -/
def copiedLine (s : FillStyle) (hasTabs isOpen : Bool) (l : FillLine) : Bytes :=
  let before : Bytes :=
    if l.indent < l.column || l.rest ≠ [] then
      let start := s.start.take (l.column - l.indent)
      blanksTo hasTabs 0 l.indent ++ start ++
        if l.rest = [] then [] else blanksTo hasTabs (l.indent + start.length) l.column
    else []
  before ++ l.rest ++ if isOpen && l.rest ≠ [] then [] else ['\n']

/-- Where the lines after the first one of a paragraph start. The next line may belong to it. -/
def otherIndent (s : FillStyle) (before : Nat) (first : FillLine) (next? : Option FillLine) : Nat :=
  if s.isCut then first.column
  else if s.isCrown then (next?.map (·.column)).getD first.column
  else if s.isTagged then
    match next?.filter fun l => l.column ≠ first.column with
    | some l => l.column
    | none => if before = first.column then if first.column = 0 then 3 else 0 else before
  else first.column

/-- How many lines belong to a paragraph after its first one. -/
def paragraphSize (s : FillStyle) (other : Nat) (first : FillLine) (lines : List FillLine) : Nat :=
  let isSame (l : FillLine) : Bool := l.indent = first.indent && l.rest ≠ [] &&
    l.indent + s.startSize ≤ l.column
  let count := (lines.takeWhile fun l => isSame l && l.column = other).length
  match lines with
  | [] => 0
  | l :: _ =>
    if s.isCut then 0
    else if s.isCrown then if isSame l then max 1 count else 0
    else if s.isTagged then if isSame l && l.column ≠ first.column then max 1 count else 0
    else count

/-- Fills lines. The last one may have no end. The number bounds how many there are. -/
def fillFrom (s : FillStyle) (isOpen : Bool) : Nat → List FillLine → Filling → List Bytes
  | 0, _, f => f.written.reverse
  | _, [], f => f.written.reverse
  | n + 1, l :: rest, f =>
    let nextTabs (rest : List FillLine) : Bool := rest.head?.any (·.hasTabs)
    let hasTabs := f.hasTabs || l.hasTabs
    if !l.isText s then
      let isLast := isOpen && rest.isEmpty
      fillFrom s isOpen n rest
        { f with written := copiedLine s hasTabs isLast l :: f.written, hasTabs }
    else
      let isSame (next : FillLine) : Bool := next.indent = l.indent && next.rest ≠ [] &&
        next.indent + s.startSize ≤ next.column
      let other := otherIndent s f.other l (rest.head?.filter isSame)
      let size := paragraphSize s other l rest
      let parts := (l :: rest.take size).map fun l => (l.words s, l.hasTabs)
      let after := rest.drop size
      let hasTabs := hasTabs || parts.any (fun p => p.1.2 || p.2) || nextTabs after
      let words := (parts.flatMap (·.1.1)).toArray
      let words := words.modify (words.size - 1) fun w =>
        { w with isStopped := true, isFinal := true }
      let f := { f with hasTabs, other }
      let b := Breaks.of s l.column other words
      let lines := paragraphLines s f l.indent l.column words b (words.size + 1) 0
      fillFrom s isOpen n after { f with written := lines.reverse ++ f.written }

/-- Fills the lines of a text. -/
def filledText (s : FillStyle) (text : Bytes) : Bytes :=
  let parts := text.splitOn '\n'
  let isOpen := parts.getLast? ≠ some []
  let lines := (if isOpen then parts else parts.dropLast).map (FillLine.ofText s)
  (fillFrom s isOpen (lines.length + 1) lines ⟨[], false, 0⟩).flatten

/-! ## The program -/

/-- How wide lines may be that somebody asks for. -/
def mostWidth : Nat := 2500

/-- Reads a width. -/
def widthOf (most : Nat) (text : Bytes) : Except Bytes Nat :=
  match digitsValue? text with
  | none => .error ("invalid width: ".toList ++ inSingleQuotes text)
  | some n =>
    if n ≤ most then .ok n
    else
      .error ("invalid width: ".toList ++ inSingleQuotes text ++
        ": Numerical result out of range".toList)

/-- Fills the lines of files. -/
def fmt : Tool := fun call => do
  let arguments := match call.arguments with
    | ('-' :: c :: digits) :: rest =>
      if c.isDigit then ['-' :: 'w' :: c :: digits] ++ rest else call.arguments
    | arguments => arguments
  let c : Call := { call with arguments }
  c.withOptions
    [flag 'c' "crown-margin", valued 'p' "prefix", flag 's' "split-only",
      flag 't' "tagged-paragraph", flag 'u' "uniform-spacing", valued 'w' "width",
      valued 'g' "goal"] fun g => do
    let sizes : Except Bytes (Nat × Nat) := do
      let width? ← match g.value? "w" with
        | some text => (widthOf mostWidth text).map some
        | none => .ok none
      let width := width?.getD 75
      match g.value? "g" with
      | some text =>
        let goal ← widthOf width text
        return (if width?.isSome then width else goal + 10, goal)
      | none => return (width, width * 187 / 200)
    match sizes with
    | .error text => c.fail 1 text
    | .ok (width, goal) =>
      let given := (g.value? "p").getD []
      let start := given.dropWhile (· = ' ')
      let s : FillStyle :=
        { isCrown := g.has "c", isTagged := g.has "t", isCut := g.has "s", isUniform := g.has "u"
          width, goal
          lead := given.length - start.length
          start := (start.reverse.dropWhile (· = ' ')).reverse
          startSize := start.length }
      c.filterEach
        (Call.openOrRead
          (fun p e => "cannot open ".toList ++ inQuotes p ++ " for reading: ".toList ++ describe e)
          (fun _ _ => "read error".toList))
        g.operands (filledText s)

end TokenConformance.Sandbox.Shell.Tool
