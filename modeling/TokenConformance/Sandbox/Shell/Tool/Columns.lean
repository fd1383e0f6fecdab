import TokenConformance.Sandbox.Shell.Tool.Lines

/-! # Programs for the columns of lines

* `Span.listed`, `Span.complement`: lists of positions such as `1-3,5`.
* `cut`: shows some bytes or fields of every line.
* `fold`: breaks lines that are too long.
* `TabStops`: where columns start; `expand` and `unexpand` make blanks of tabs and tabs of blanks.
-/

namespace TokenConformance.Sandbox.Shell.Tool

open Sandbox.Text (Bytes)

/-! ## Positions -/

/-- Positions from a first one to a last one, counted from one. Without a last one they go on to the
end. -/
structure Span where
  first : Nat
  last : Option Nat
deriving DecidableEq, Inhabited

namespace Span

/-- Whether a position is meant. -/
def has (s : Span) (n : Nat) : Bool := s.first ≤ n && s.last.all (n ≤ ·)

/-- How the positions of a list are called in messages. -/
structure Wording where
  position : String
  number : String
  range : String
  zero : String
  unreadable : String
deriving DecidableEq, Inhabited

/-- The words for bytes. -/
def byteWording : Wording :=
  ⟨"byte/character position", "byte/character offset", "invalid byte or character range",
    "byte/character positions are numbered from 1", "invalid byte/character position "⟩

/-- The words for fields. -/
def fieldWording : Wording :=
  ⟨"field", "field number", "invalid field range", "fields are numbered from 1",
    "invalid field value "⟩

/-- The largest number of the machine. -/
def largestNumber : Nat := 18446744073709551615

/-- The number at the start of a text, if there are digits, and what follows it. -/
def numberAtStart (w : Wording) (text : Bytes) : Except Bytes (Option Nat × Bytes) :=
  let digits := text.takeWhile Char.isDigit
  let n := digitsValue digits
  if digits = [] then .ok (none, text)
  else if n ≥ largestNumber then
    .error (w.number.toList ++ ' ' :: inSingleQuotes digits ++ " is too large".toList)
  else .ok (some n, text.drop digits.length)

/-- Reads one item of a list. The text goes on to the end of the list, which messages show. -/
def item (w : Wording) (text : Bytes) : Except Bytes (Span × Bytes) := do
  let isEnd (t : Bytes) : Bool := (t.head?.map fun c => c = ',' || isBlank c).getD true
  let zero : Except Bytes (Span × Bytes) := .error w.zero.toList
  let (first, rest) ← numberAtStart w text
  match rest with
  | '-' :: rest =>
    if first = some 0 then zero
    else
      let (last, after) ← numberAtStart w rest
      if after.head? = some '-' then .error w.range.toList
      else if !isEnd after then .error (w.unreadable.toList ++ inSingleQuotes after)
      else
        match first, last with
        | none, none => .error "invalid range with no endpoint: -".toList
        | _, none => .ok (⟨first.getD 1, none⟩, after)
        | _, some last =>
          if last < first.getD 1 then .error "invalid decreasing range".toList
          else .ok (⟨first.getD 1, some last⟩, after)
  | _ =>
    if !isEnd rest then .error (w.unreadable.toList ++ inSingleQuotes rest)
    else
      match first with
      | none | some 0 => zero
      | some n => .ok (⟨n, some n⟩, rest)

/-- Reads a list. The number bounds how many items there are. -/
def items (w : Wording) : Nat → Bytes → Except Bytes (List Span)
  | 0, _ => .ok []
  | n + 1, text => do
    let (s, rest) ← item w text
    match rest with
    | _ :: rest => return s :: (← items w n rest)
    | [] => return [s]

/-- Two items as one if they overlap. -/
def merge : List Span → List Span
  | [] => []
  | a :: rest =>
    match merge rest with
    | b :: others =>
      if a.last.all (b.first ≤ ·) then
        ⟨a.first, match a.last, b.last with
          | some x, some y => some (max x y)
          | _, _ => none⟩ :: others
      else a :: b :: others
    | [] => [a]

/-- The positions of a list in their order. -/
def listed (w : Wording) (text : Bytes) : Except Bytes (List Span) := do
  return merge ((← items w (text.length + 1) text).mergeSort fun a b => a.first ≤ b.first)

/-- All other positions. -/
def complement (spans : List Span) : List Span :=
  let (found, next?) := spans.foldl
    (fun (s : List Span × Option Nat) span =>
      match s.2 with
      | none => s
      | some next =>
        let found := if next < span.first then ⟨next, some (span.first - 1)⟩ :: s.1 else s.1
        (found, span.last.map (· + 1))) ([], some 1)
  found.reverse ++ (next?.map fun n => (⟨n, none⟩ : Span)).toList

/-- The items at the positions of each span. -/
def parts {α : Type} (spans : List Span) (xs : List α) : List (List α) :=
  spans.map fun s =>
    let rest := xs.drop (s.first - 1)
    match s.last with
    | some last => rest.take (last + 1 - s.first)
    | none => rest

end Span

/-- Shows some bytes or fields of every line. -/
def cut : Tool := fun c =>
  c.withOptions
    [valued 'b' "bytes", valued 'c' "characters", valued 'd' "delimiter", valued 'f' "fields",
      flag 'n' "", flag 's' "only-delimited", longFlag "complement",
      longValued "output-delimiter", flag 'z' "zero-terminated"] fun g => do
    let lists := g.options.filter fun o => ["b", "c", "f"].contains o.1
    let mark := if g.has "z" then '\x00' else '\n'
    match lists with
    | [] => c.misused 1 "you must specify a list of bytes, characters, or fields".toList
    | [(kind, list)] =>
      let byFields := kind = "f"
      if ((g.values "d").any fun d => 1 < d.length) then
        return ← c.misused 1 "the delimiter must be a single character".toList
      if !byFields && g.has "d" then
        return ← c.misused 1
          "an input delimiter may be specified only when operating on fields".toList
      if !byFields && g.has "s" then
        return ← c.misused 1
          ("suppressing non-delimited lines makes sense\n" ++
            "\tonly when operating on fields").toList
      let wording := if byFields then Span.fieldWording else Span.byteWording
      match Span.listed wording list with
      | .error text => c.misused 1 text
      | .ok spans =>
        let spans := if g.has "complement" then Span.complement spans else spans
        let delimiter : Char := match g.value? "d" with
          | some [d] => d
          | some _ => '\x00'
          | none => '\t'
        let between? := (g.value? "output-delimiter").map fun d => if d = [] then ['\x00'] else d
        let ofLine (line : Bytes) : Option Bytes :=
          if byFields then
            let fields := line.splitOn delimiter
            if fields.length ≤ 1 then if g.has "s" then none else some line
            else
              some (Bytes.joined (between?.getD [delimiter]) (Span.parts spans fields).flatten)
          else
            let parts := (Span.parts spans line).filter (· ≠ [])
            some (Bytes.joined (between?.getD []) parts)
        c.filterEach Call.plainComplaint g.operands fun text =>
          ((endedBy mark text).filterMap fun line => ofLine (withoutMark mark line)).flatMap
            (· ++ [mark])
    | _ => c.misused 1 "only one list may be specified".toList

/-! ## Long lines -/

/-- How lines are broken. -/
structure Folding where
  width : Nat
  countsBytes : Bool
  atBlanks : Bool
deriving DecidableEq, Inhabited

namespace Folding

/-- The column after a character. -/
def column (k : Folding) (n : Nat) (c : Char) : Nat :=
  if k.countsBytes then n + 1
  else
    match c with
    | '\x08' => n - 1
    | '\r' => 0
    | '\t' => n + 8 - n % 8
    | _ => n + 1

/-- Adds a character to a line, whose last character comes first. The lines that are broken off are
added to the output, whose last byte comes first too. The number bounds how often that happens. -/
def add (k : Folding) (c : Char) : Nat → Bytes × Nat × Bytes → Bytes × Nat × Bytes
  | 0, s => s
  | n + 1, (line, col, output) =>
    let next := k.column col c
    if next ≤ k.width then (c :: line, next, output)
    else
      let after := line.takeWhile fun c => !isBlank c
      if k.atBlanks && after.length < line.length then
        let broken := line.drop after.length
        k.add c n (after, after.reverse.foldl k.column 0, '\n' :: (broken ++ output))
      else if line = [] then ([c], next, output)
      else k.add c n ([], 0, '\n' :: (line ++ output))

/-- A text with broken lines. -/
def folded (k : Folding) (text : Bytes) : Bytes :=
  let (line, _, output) := text.foldl
    (fun (s : Bytes × Nat × Bytes) c =>
      if c = '\n' then ([], 0, '\n' :: (s.1 ++ s.2.2)) else k.add c (s.1.length + 2) s) ([], 0, [])
  (line ++ output).reverse

end Folding

/-- Arguments in which an option such as `-5` is written as the value of another one. -/
def modernNumber (option : Char) (arguments : List Bytes) : List Bytes :=
  arguments.map fun
    | '-' :: d :: ds => if d.isDigit then '-' :: option :: d :: ds else '-' :: d :: ds
    | a => a

/-- Breaks lines that are too long. -/
def fold : Tool := fun c =>
  let c : Call := { c with arguments := modernNumber 'w' c.arguments }
  c.withOptions [flag 'b' "bytes", flag 's' "spaces", valued 'w' "width"] fun g => do
    let text := (g.value? "w").getD "80".toList
    match digitsValue? text with
    | none => c.fail 1 ("invalid number of columns: ".toList ++ inSingleQuotes text)
    | some 0 =>
      c.fail 1 ("invalid number of columns: ".toList ++ inSingleQuotes text ++
        ": Numerical result out of range".toList)
    | some width =>
      let k : Folding := ⟨width, g.has "b", g.has "s"⟩
      c.filterEach Call.plainComplaint g.operands k.folded

/-! ## Tabs -/

/-- Where columns start. -/
structure TabStops where
  stops : List Nat
  /-- The size of the columns after the last stop, and whether they are counted from it. -/
  further : Option (Nat × Bool)
deriving DecidableEq, Inhabited

namespace TabStops

/-- The stops when nothing is said about them. -/
def standard : TabStops := ⟨[], some (8, false)⟩

/-- The stop after a column, if there is one. -/
def next? (t : TabStops) (column : Nat) : Option Nat :=
  match t.stops.find? (column < ·) with
  | some stop => some stop
  | none =>
    t.further.map fun (size, fromLast) =>
      let start := if fromLast then t.stops.getLastD 0 else 0
      column + (size - (column - start) % size)

/-- Stops of which a single one is the size of all columns. -/
def normal (t : TabStops) : TabStops :=
  match t.stops, t.further with
  | [], none => standard
  | [size], none => ⟨[], some (size, false)⟩
  | _, _ => t

/-- Reads a list of stops. The number bounds how many there are. -/
def read : Nat → TabStops → Bytes → Except Bytes TabStops
  | 0, t, _ => .ok t
  | _, t, [] => .ok t
  | n + 1, t, c :: rest =>
    if c = ',' || isBlank c then read n t rest
    else
      let (sign?, text) : Option Char × Bytes :=
        if c = '/' || c = '+' then (some c, rest) else (none, c :: rest)
      let digits := text.takeWhile Char.isDigit
      let after := text.drop digits.length
      let isEnd := (after.head?.map fun c => c = ',' || isBlank c).getD true
      if digits = [] || !isEnd then
        .error ("tab size contains invalid character(s): ".toList ++
          inSingleQuotes (if digits = [] then text else after))
      else
        let size := digitsValue digits
        match sign? with
        | some sign => read n { t with further := some (size, sign = '+') } after
        | none => read n { t with stops := t.stops ++ [size] } after

/-- What is wrong with stops. -/
def fault? (t : TabStops) : Option String :=
  if t.stops.contains 0 || t.further.any (·.1 = 0) then some "tab size cannot be 0"
  else if !(t.stops.zip t.stops.tail).all fun p => p.1 < p.2 then
    some "tab sizes must be ascending"
  else none

/-- The stops that options ask for. -/
def ofOptions (texts : List Bytes) : Except Bytes TabStops := do
  let text := Bytes.joined [','] texts
  let t ← read (text.length + 1) ⟨[], none⟩ text
  match t.fault? with
  | some fault => throw fault.toList
  | none => return t.normal

end TabStops

/-- Where a line is whose tabs become blanks. -/
structure Expanding where
  column : Nat
  isActive : Bool
  /-- The output, whose last byte comes first. -/
  written : Bytes
deriving DecidableEq, Inhabited

/-- The line after a character. -/
def Expanding.step (t : TabStops) (onlyStart : Bool) (s : Expanding) (c : Char) : Expanding :=
  if c = '\n' then ⟨0, true, c :: s.written⟩
  else if !s.isActive then { s with written := c :: s.written }
  else
    match c with
    | '\t' =>
      let stop := (t.next? s.column).getD (s.column + 1)
      { s with
        column := stop
        written := List.replicate (stop - s.column) ' ' ++ s.written }
    | c =>
      let column := if c = '\x08' then s.column - 1 else s.column + 1
      ⟨column, !onlyStart || isBlank c, c :: s.written⟩

/-- Makes blanks of tabs. -/
def expand : Tool := fun c =>
  let c : Call := { c with arguments := modernNumber 't' c.arguments }
  c.withOptions [flag 'i' "initial", valued 't' "tabs"] fun g => do
    match TabStops.ofOptions (g.values "t") with
    | .error text => c.fail 1 text
    | .ok t =>
      c.filterAll Call.plainComplaint g.operands fun text =>
        (text.foldl (Expanding.step t (g.has "i")) ⟨0, true, []⟩).written.reverse

/-- Where a line is whose blanks become tabs. -/
structure Unexpanding where
  column : Nat
  isActive : Bool
  /-- Whether a single blank before a stop is waiting first. -/
  isBeforeStop : Bool
  wasBlank : Bool
  /-- The blanks that are waiting. -/
  waiting : Bytes
  /-- The output, whose last byte comes first. -/
  written : Bytes
deriving DecidableEq, Inhabited

namespace Unexpanding

/-- A line at its start. -/
def start (written : Bytes) : Unexpanding := ⟨0, true, false, true, [], written⟩

/-- The line after the blanks that are waiting and a character have been written. -/
def flush (s : Unexpanding) (c : Char) : Unexpanding :=
  let waiting := if 1 < s.waiting.length && s.isBeforeStop then '\t' :: s.waiting.drop 1
    else s.waiting
  { s with
    waiting := []
    isBeforeStop := if s.waiting = [] then s.isBeforeStop else false
    written := c :: waiting.reverseAux s.written }

/-- The line after a character. -/
def step (t : TabStops) (isWhole : Bool) (s : Unexpanding) (c : Char) : Unexpanding :=
  let finish (s : Unexpanding) (c : Char) : Unexpanding :=
    let s := s.flush c
    { s with wasBlank := isBlank c, isActive := s.isActive && (isWhole || isBlank c) }
  if c = '\n' then start ((s.flush c).written)
  else if !s.isActive then { s with written := c :: s.written }
  else if isBlank c then
    match t.next? s.column with
    | none => { (finish s c) with isActive := false }
    | some stop =>
      let kept (s : Unexpanding) : Unexpanding :=
        { s with waiting := if s.isBeforeStop then s.waiting.take 1 else [] }
      if c = '\t' then
        let waiting := if s.waiting = [] then [] else '\t' :: s.waiting.drop 1
        finish (kept { s with column := stop, waiting }) c
      else if !(s.wasBlank && s.column + 1 = stop) then
        { s with
          column := s.column + 1
          isBeforeStop := s.isBeforeStop || s.column + 1 = stop
          waiting := s.waiting ++ [c]
          wasBlank := true }
      else
        let waiting := if s.waiting = [] then [] else '\t' :: s.waiting.drop 1
        finish (kept { s with column := s.column + 1, waiting }) '\t'
  else
    finish { s with column := if c = '\x08' then s.column - 1 else s.column + 1 } c

end Unexpanding

/-- Makes tabs of blanks. -/
def unexpand : Tool := fun c =>
  c.withOptions [flag 'a' "all", longFlag "first-only", valued 't' "tabs"] fun g => do
    match TabStops.ofOptions (g.values "t") with
    | .error text => c.fail 1 text
    | .ok t =>
      let isWhole := (g.has "a" || g.has "t") && !g.has "first-only"
      c.filterAll Call.plainComplaint g.operands fun text =>
        let s := text.foldl (Unexpanding.step t isWhole) (.start [])
        (s.waiting.reverseAux s.written).reverse

end TokenConformance.Sandbox.Shell.Tool
