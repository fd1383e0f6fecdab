import TokenConformance.Sandbox.Shell.Tool.Basic
import TokenConformance.Sandbox.Text.Regex.Reader

/-! # Programs that count

* `Counts`: what `wc` counts; `Counts.ofText` counts it.
* `wc`: counts lines, words and bytes.
* `Numbering`: how `nl` numbers lines; `Numbering.numbered` does it.
* `nl`: numbers lines.
-/

namespace TokenConformance.Sandbox.Shell.Tool

open Sandbox.Text (Bytes Regex isGraph isSpace)

/-! ## Counts -/

/-- What there is in a text. -/
structure Counts where
  lines : Nat
  words : Nat
  bytes : Nat
  /-- How many columns the longest line has. -/
  widest : Nat
deriving DecidableEq, Inhabited

namespace Counts

/-- Where a line that is being counted is: its column, the widest line so far, and whether a word goes
on. -/
structure Line where
  column : Nat
  widest : Nat
  inWord : Bool
  words : Nat
deriving DecidableEq, Inhabited

/-- The line after a character. -/
def Line.step (l : Line) (c : Char) : Line :=
  let ended : Line := { l with words := if l.inWord then l.words + 1 else l.words, inWord := false }
  match c with
  | '\n' | '\r' | '\x0c' => { ended with column := 0, widest := max l.widest l.column }
  | '\t' => { ended with column := l.column + 8 - l.column % 8 }
  | ' ' => { ended with column := l.column + 1 }
  | '\x0b' => ended
  | c => if isGraph c then { l with column := l.column + 1, inWord := true } else l

/-- What there is in a text. -/
def ofText (text : Bytes) : Counts :=
  let l := text.foldl Line.step ⟨0, 0, false, 0⟩
  ⟨text.count '\n', if l.inWord then l.words + 1 else l.words, text.length, max l.widest l.column⟩

/-- The counts of two texts together. -/
def add (a b : Counts) : Counts :=
  ⟨a.lines + b.lines, a.words + b.words, a.bytes + b.bytes, max a.widest b.widest⟩

/-- The numbers that are asked for. -/
def chosen (n : Counts) (g : Given) : List Nat :=
  let isPlain := !(["l", "w", "m", "c", "L"].any g.has)
  (if isPlain || g.has "l" then [n.lines] else []) ++
    (if isPlain || g.has "w" then [n.words] else []) ++
    (if g.has "m" then [n.bytes] else []) ++
    (if isPlain || g.has "c" then [n.bytes] else []) ++
    (if g.has "L" then [n.widest] else [])

end Counts

/-- The width of the numbers that `wc` shows for some files. Only files have a size that is known
before they are read. -/
def countWidth (m : Machine) (numbers : Nat) (operands : List Bytes) : Nat :=
  if operands.length ≤ 1 && numbers = 1 then 1
  else
    let kinds := (Call.orInput operands).map fun path =>
      if path = ['-'] then (m.connected? 0).map m.kindOf else m.kind? path
    let size := (kinds.map fun
      | some (.file content) => content.length
      | _ => 0).foldl (· + ·) 0
    let hasOther := kinds.any fun
      | some (.file _) | none => false
      | some _ => true
    max (Nat.toDigits 10 size).length (if hasOther then 7 else 1)

/-- The times when `wc` shows a total. -/
def totalTimes : List String := ["auto", "always", "only", "never"]

/-- Counts lines, words and bytes. -/
def wc : Tool := fun c =>
  c.withOptions
    [flag 'c' "bytes", flag 'm' "chars", flag 'l' "lines", flag 'w' "words",
      flag 'L' "max-line-length", longValued "total", longValued "files0-from"] fun g => do
    c.withChoice "--total" totalTimes ((g.value? "total").getD "auto".toList) fun time => do
    let m ← get
    let listed? ← match g.value? "files0-from" with
      | none => pure (some g.operands)
      | some path =>
        if g.operands ≠ [] then
          c.say ("extra operand ".toList ++ inSingleQuotes (g.operands.headD []))
          complain "file operands cannot be combined with --files0-from".toList
          complain c.hint
          return 1
        match ← Call.contentOf path with
        | .ok text => pure (some ((endedBy '\x00' text).map (withoutMark '\x00')))
        | .error e =>
          let _ ← c.refuse ("cannot open ".toList ++ inQuotes path ++ " for reading".toList) e
          pure none
    match listed? with
    | none => return 1
    | some operands =>
      let numbers := (Counts.chosen default g).length
      let isPlain := time = "only" || g.has "files0-from"
      let width := if isPlain then 1 else countWidth m numbers operands
      let line (n : Counts) (name : Bytes) : Bytes :=
        Bytes.joined [' '] ((n.chosen g).map (paddedNumber width) ++
          (if name = [] then [] else [named name])) ++ ['\n']
      let mut total : Counts := default
      let mut status := 0
      for (path, i) in (Call.orInput operands).zipIdx do
        let name := if operands = [] then [] else path
        if path = [] then
          let place : Bytes := match g.value? "files0-from" with
            | some list => list ++ [':'] ++ Bytes.ofInt (i + 1 : Nat) ++ ": ".toList
            | none => []
          c.say (place ++ "invalid zero-length file name".toList)
          status := 1
          continue
        match ← Call.contentOf path with
        | .ok text =>
          let n := Counts.ofText text
          total := total.add n
          if time ≠ "only" then print (line n name)
        | .error e =>
          c.say (Call.plainComplaint path e)
          status := 1
          if e = .isADirectory && time ≠ "only" then print (line default name)
      let hasTotal : Bool := match time with
        | "auto" => 1 < operands.length
        | "never" => false
        | _ => true
      if hasTotal then print (line total (if time = "only" then [] else "total".toList))
      return status

/-! ## Numbers -/

/-- Which lines get a number. -/
inductive Numbered where
  | all
  | filled
  | none
  | matching (r : Regex)
deriving Inhabited

/-- Whether a line gets a number. -/
def Numbered.holds (n : Numbered) (line : Bytes) : Bool :=
  match n with
  | .all => true
  | .filled => line ≠ []
  | .none => false
  | .matching r => r.isIn line

/-- How lines are numbered. -/
structure Numbering where
  header : Numbered
  body : Numbered
  footer : Numbered
  /-- The characters that mark the start of a part of a page. -/
  mark : Bytes
  first : Int
  step : Int
  /-- Of so many empty lines one after another one gets a number. -/
  blanks : Nat
  format : Bytes
  width : Nat
  separator : Bytes
  /-- Whether the numbers go on from page to page. -/
  goesOn : Bool
deriving Inhabited

namespace Numbering

/-- Where the numbering is. -/
structure Position where
  number : Int
  current : Numbered
  /-- How many empty lines there have been. -/
  empty : Nat
deriving Inhabited

/-- A number in its column. -/
def column (k : Numbering) (n : Int) : Bytes :=
  let digits := Bytes.ofInt n
  match String.ofList k.format with
  | "ln" => digits ++ List.replicate (k.width - digits.length) ' '
  | "rz" =>
    let digits := Bytes.ofInt n.natAbs
    let sign : Bytes := if n < 0 then ['-'] else []
    sign ++ List.replicate (k.width - sign.length - digits.length) '0' ++ digits
  | _ => padded k.width digits

/-- A line with its number, or with blanks in the place of it, and the position after it. -/
def next (k : Numbering) (p : Position) (line : Bytes) : Bytes × Position :=
  let withNumber : Bytes × Position :=
    (k.column p.number ++ k.separator ++ line, { p with number := p.number + k.step, empty := 0 })
  let without (empty : Nat) : Bytes × Position :=
    (List.replicate (k.width + k.separator.length) ' ' ++ line, { p with empty })
  let restart (n : Numbered) : Bytes × Position :=
    ([], { p with number := if k.goesOn then p.number else k.first, current := n })
  let marks := (List.range 3).map fun i => (List.replicate (i + 1) k.mark).flatten
  if k.mark ≠ [] && marks[2]? = some line then restart k.header
  else if k.mark ≠ [] && marks[1]? = some line then restart k.body
  else if k.mark ≠ [] && marks[0]? = some line then restart k.footer
  else
    match p.current with
    | .all =>
      if line = [] && p.empty + 1 < k.blanks then without (p.empty + 1) else withNumber
    | n => if n.holds line then withNumber else without p.empty

/-- A text with numbered lines. -/
def numbered (k : Numbering) (text : Bytes) : Bytes :=
  let (found, _) := (Bytes.lines text).foldl
    (fun (s : List Bytes × Position) line =>
      let (shown, p) := k.next s.2 line
      (shown :: s.1, p)) ([], ⟨k.first, k.body, 0⟩)
  Bytes.ofLines found.reverse

end Numbering

/-- The way in which plain programs write regular expressions. -/
def plainForm : Regex.Form := ⟨false, false, false, false⟩

/-- Which lines get a number according to an argument. -/
def numbered? (text : Bytes) : Except Bool Numbered :=
  match text with
  | ['a'] => .ok .all
  | ['t'] => .ok .filled
  | ['n'] => .ok .none
  | 'p' :: pattern =>
    match Regex.read plainForm pattern with
    | .ok (r, _) => .ok (.matching r)
    | .error _ => .error true
  | _ => .error false

/-- Numbers lines. -/
def nl : Tool := fun c =>
  c.withOptions
    [valued 'b' "body-numbering", valued 'd' "section-delimiter", valued 'f' "footer-numbering",
      valued 'h' "header-numbering", valued 'i' "line-increment", valued 'l' "join-blank-lines",
      valued 'n' "number-format", flag 'p' "no-renumber", valued 's' "number-separator",
      valued 'v' "starting-line-number", valued 'w' "number-width"] fun g => do
    let style (key noun standard : String) : Action (Except Nat Numbered) := do
      let text := (g.value? key).getD standard.toList
      match numbered? text with
      | .ok n => return .ok n
      | .error true => do return .error (← c.fail 1 "Invalid regular expression".toList)
      | .error false => do
        c.say (filled "invalid % numbering style: %" [noun.toList, inSingleQuotes text])
        complain c.hint
        return .error 1
    let number (key noun standard : String) (least : Int) : Action (Except Nat Int) := do
      let text := (g.value? key).getD standard.toList
      let fault (more : String) : Action (Except Nat Int) := do
        return .error (← c.fail 1 (filled "invalid %: %" [noun.toList, inSingleQuotes text] ++
          more.toList))
      match integer? text with
      | some n => if n < least then fault ": Numerical result out of range" else return .ok n
      | none => fault ""
    match ← style "h" "header" "n", ← style "b" "body" "t", ← style "f" "footer" "n" with
    | .ok header, .ok body, .ok footer =>
      let mark := match (g.value? "d").getD "\\:".toList with
        | [x] => [x, ':']
        | xs => xs
      match ← number "v" "starting line number" "1" (-9223372036854775808),
          ← number "i" "line number increment" "1" (-9223372036854775808),
          ← number "l" "line number of blank lines" "1" 1,
          ← number "w" "line number field width" "6" 1 with
      | .ok first, .ok step, .ok blanks, .ok width =>
        let format := (g.value? "n").getD "rn".toList
        if !(["ln", "rn", "rz"].any fun f => f.toList = format) then
          return ← c.misused 1 ("invalid line numbering format: ".toList ++ inSingleQuotes format)
        let k : Numbering :=
          { header, body, footer, mark, first, step, format
            blanks := blanks.toNat
            width := width.toNat
            separator := (g.value? "s").getD ['\t']
            goesOn := g.has "p" }
        c.filterAll Call.plainComplaint g.operands k.numbered
      | _, _, _, _ => return 1
    | _, _, _ => return 1

end TokenConformance.Sandbox.Shell.Tool
