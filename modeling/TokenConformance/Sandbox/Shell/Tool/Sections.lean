import TokenConformance.Sandbox.Shell.Tool.Amounts
import TokenConformance.Sandbox.Text.Regex.Reader

/-! # A program that cuts a file where it is told

* `Mark`, `Cut`: where a section ends.
* `cutsOf`: reads the places from arguments.
* `Sections`: the sections that have been written, and the lines that are left.
* `csplit`: writes the sections to files.
-/

namespace TokenConformance.Sandbox.Shell.Tool

open Sandbox.Text (Bytes Regex)

/-! ## Places -/

/-- Where a section ends. -/
inductive Mark where
  /-- Before the line with a number. -/
  | line (number : Nat)
  /-- Some lines after one that matches. A section that is skipped is not written. -/
  | match (r : Regex) (offset : Int) (isSkipped : Bool)
deriving Inhabited

/-- A place that may come again. -/
structure Cut where
  mark : Mark
  /-- The argument that names the place. -/
  text : Bytes
  /-- How often it comes again, if there is a bound. -/
  again : Option Nat
deriving Inhabited

/-- Reads the place that an expression between slashes or percent signs names. -/
def matchOf (text : Bytes) : Except Bytes Mark := do
  let delimiter := text.headD '/'
  let inner := text.drop 1
  let behind := inner.reverse.takeWhile (· ≠ delimiter)
  if behind.length = inner.length then
    throw (text ++ ": closing delimiter '".toList ++ [delimiter] ++ "' missing".toList)
  let expression := inner.take (inner.length - behind.length - 1)
  match Regex.read ⟨false, false, true, false⟩ expression with
  | .error fault =>
    throw (inSingleQuotes text ++ ": invalid regular expression: ".toList ++ fault.toList)
  | .ok (r, _) =>
    let offset ← match behind.reverse with
      | [] => pure 0
      | number =>
        match integer? number with
        | some n => pure n
        | none => throw (inSingleQuotes text ++ ": integer expected after delimiter".toList)
    return .match r offset (delimiter = '%')

/-- Reads how often a place comes again. -/
def repetitionOf (text : Bytes) : Except Bytes (Option Nat) :=
  if text.getLast? ≠ some '\x7d' then
    .error (inSingleQuotes text ++ ": '\x7d' is required in repeat count".toList)
  else
    match text.drop 1 |>.dropLast with
    | ['*'] => .ok none
    | number =>
      match digitsValue? number with
      | some n => .ok (some n)
      | none =>
        .error (inSingleQuotes text.dropLast ++
          "\x7d: integer required between '\x7b' and '\x7d'".toList)

/-- Reads places from arguments, with what there is to say about them. The second number is that of the
last line that has been named; the first one bounds how many places there are. -/
def cutsOf : Nat → Nat → List Bytes → List Bytes × Except Bytes (List Cut)
  | 0, _, _ => ([], .ok [])
  | _, _, [] => ([], .ok [])
  | bound + 1, last, text :: rest =>
    let mark : Except Bytes (Mark × Nat) :=
      match text with
      | '/' :: _ | '%' :: _ => do return (← matchOf text, last)
      | _ =>
        match digitsValue? text with
        | none => .error (inSingleQuotes text ++ ": invalid pattern".toList)
        | some 0 => .error (text ++ ": line number must be greater than zero".toList)
        | some n =>
          if n < last then
            .error (filled "line number % is smaller than preceding line number, %"
              [inSingleQuotes text, Bytes.ofInt last])
          else .ok (.line n, n)
    match mark with
    | .error fault => ([], .error fault)
    | .ok (m, number) =>
      let warnings : List Bytes := match m with
        | .line n => if n = last then
            [filled "warning: line number % is the same as preceding line number"
              [inSingleQuotes text]]
          else []
        | .match .. => []
      match rest with
      | ('\x7b' :: count) :: after =>
        match repetitionOf ('\x7b' :: count) with
        | .error fault => (warnings, .error fault)
        | .ok again =>
          let (others, cuts) := cutsOf bound number after
          (warnings ++ others, cuts.map (⟨m, text, again⟩ :: ·))
      | _ =>
        let (others, cuts) := cutsOf bound number rest
        (warnings ++ others, cuts.map (⟨m, text, some 0⟩ :: ·))

/-! ## Sections -/

/-- The sections that have been written, and the lines that are left. -/
structure Sections where
  /-- The sections, the last one first. -/
  done : List Bytes
  /-- The number of the first line that is left. -/
  next : Nat
  left : List Bytes
  /-- The number of the last line that has been looked at. -/
  current : Nat
deriving Inhabited

/-- How cutting goes on: further, to its end, or not at all. -/
inductive Cutting where
  | further (s : Sections)
  | finished (s : Sections)
  | failed (s : Sections) (fault : Bytes)
deriving Inhabited

namespace Sections

/-- Takes some of the lines that are left. -/
def take (s : Sections) (count : Nat) : List Bytes × Sections :=
  (s.left.take count, { s with
    next := s.next + min count s.left.length
    left := s.left.drop count
    current := if s.left = [] || count = 0 then s.current
      else max s.current (s.next + min count s.left.length - 1) })

/-- Writes a section. -/
def write (s : Sections) (lines : List Bytes) : Sections := { s with done := lines.flatten :: s.done }

/-- What is said when a place comes again. -/
def repetitionText (repetition : Nat) : Bytes :=
  if repetition = 0 then [] else " on repetition ".toList ++ Bytes.ofInt repetition

/-- Ends a section before a line. -/
def cutAtLine (s : Sections) (skipsMatch : Bool) (number repetition : Nat) : Cutting :=
  let fault : Bytes := inSingleQuotes (Bytes.ofInt number) ++ ": line number out of range".toList ++
    repetitionText repetition
  let last := number * (repetition + 1)
  if skipsMatch && s.left.length ≤ s.current + 1 - s.next then .failed (s.write []) fault
  else
    let wanted := last - s.next
    if s.left.length < wanted then
      let (lines, s) := s.take wanted
      .failed (s.write lines) fault
    else
      let (lines, s) := s.take wanted
      let s := s.write lines
      if skipsMatch then .further (s.take 1).2
      else if s.left = [] then .failed s fault
      else .further s

/-- Ends a section at a line that matches. -/
def cutAtMatch (s : Sections) (skipsMatch : Bool) (text : Bytes) (r : Regex) (offset : Int)
    (isSkipped : Bool) (isForever : Bool) (repetition : Nat) : Cutting :=
  let write (s : Sections) (lines : List Bytes) : Sections := if isSkipped then s else s.write lines
  let start := s.current + 1
  let fits (line : Bytes) : Bool := (r.find? (withoutMark '\n' line)).isSome
  match (s.left.drop (start - s.next)).findIdx? fits with
  | none =>
    let (lines, s) := s.take s.left.length
    if isForever then .finished (write s lines)
    else
      .failed (write s lines)
        (inSingleQuotes text ++ ": match not found".toList ++ repetitionText repetition)
  | some i =>
    let found := start + i
    let last : Int := found + offset
    let fault : Bytes := inSingleQuotes text ++ ": line number out of range".toList
    if last < s.next then .failed (write s []) fault
    else
      let wanted := last.toNat - s.next
      let (lines, s) := s.take wanted
      let s := write { s with current := max s.current found } lines
      if lines.length < wanted then .failed s fault
      else
        let s := if 0 < offset then { s with current := last.toNat } else s
        .further (if skipsMatch then (s.take 1).2 else s)

/-- Cuts at a place again and again. The number bounds how often. -/
def cutAgain (skipsMatch : Bool) (c : Cut) : Nat → Nat → Sections → Cutting
  | 0, _, s => .finished s
  | n + 1, repetition, s =>
    if c.again.any (· < repetition) then .further s
    else
      let step := match c.mark with
        | .line number => s.cutAtLine skipsMatch number repetition
        | .match r offset isSkipped =>
          s.cutAtMatch skipsMatch c.text r offset isSkipped c.again.isNone repetition
      match step with
      | .further s => cutAgain skipsMatch c n (repetition + 1) s
      | other => other

/-- Cuts at places one after another. -/
def cutAll (skipsMatch : Bool) : List Cut → Sections → Cutting
  | [], s =>
    let (lines, s) := s.take s.left.length
    .finished (s.write lines)
  | c :: rest, s =>
    let bound := match c.again with
      | some n => n + 2
      | none => s.left.length + 2
    match cutAgain skipsMatch c bound 0 s with
    | .further s => cutAll skipsMatch rest s
    | other => other

end Sections

/-! ## The program -/

/-- The name of a section: a number in a format, or with some digits. -/
def sectionName (start : Bytes) (format : Option Bytes) (digits n : Nat) : Bytes :=
  let number := Bytes.ofInt n
  match format with
  | none => start ++ List.replicate (digits - number.length) '0' ++ number
  | some text =>
    let before := text.takeWhile (· ≠ '%')
    let form := (text.drop (before.length + 1))
    let flags := form.takeWhile fun c => c ∈ ['-', '+', ' ', '#', '0', '\'']
    let width := (form.drop flags.length).takeWhile Char.isDigit
    let rest := form.drop (flags.length + width.length)
    let precision : Option Bytes := match rest with
      | '.' :: rest => some (rest.takeWhile Char.isDigit)
      | _ => none
    let rest := match precision with
      | some p => rest.drop (p.length + 1)
      | none => rest
    let base := match rest.headD 'd' with
      | 'o' => 8
      | 'x' | 'X' => 16
      | _ => 10
    let shown := Nat.toDigits base n
    let shown := if rest.head? = some 'X' then shown.map Char.toUpper else shown
    let shown := match precision with
      | some p => List.replicate (digitsValue p - shown.length) '0' ++ shown
      | none => shown
    let gap := digitsValue width - shown.length
    let number : Bytes :=
      if '-' ∈ flags then shown ++ List.replicate gap ' '
      else if '0' ∈ flags && precision.isNone then List.replicate gap '0' ++ shown
      else List.replicate gap ' ' ++ shown
    start ++ before ++ number ++ rest.drop 1

/-- What is wrong with the format of a name. -/
def formatFault? (text : Bytes) : Option Bytes :=
  let form := text.drop ((text.takeWhile (· ≠ '%')).length)
  match form with
  | [] => some "missing % conversion specification in suffix".toList
  | _ :: form =>
    let flags := form.takeWhile fun c => c ∈ ['-', '+', ' ', '#', '0', '\'']
    let rest := (form.drop flags.length).dropWhile Char.isDigit
    let rest := if rest.head? = some '.' then (rest.drop 1).dropWhile Char.isDigit else rest
    match rest with
    | [] => some "missing conversion specifier in suffix".toList
    | c :: rest =>
      if c ∉ ['d', 'i', 'u', 'o', 'x', 'X'] then
        some ("invalid conversion specifier in suffix: ".toList ++ [c])
      else if '%' ∈ rest then some "too many % conversion specifications in suffix".toList
      else none

/-- Cuts a file where it is told. -/
def csplit : Tool := fun c =>
  c.withOptions
    [valued 'b' "suffix-format", valued 'f' "prefix", flag 'k' "keep-files",
      longFlag "suppress-matched", valued 'n' "digits", flag 's' "quiet", flag 'q' "",
      longFlag "silent", flag 'z' "elide-empty-files"] fun g => do
    for text in g.values "n" do
      if (digitsValue? text).isNone then
        return ← c.fail 1 ("invalid number: ".toList ++ inSingleQuotes text)
    match g.operands with
    | [] => c.misused 1 "missing operand".toList
    | [path] => c.misused 1 ("missing operand after ".toList ++ inSingleQuotes path)
    | path :: places =>
      if let some fault := (g.value? "b").bind formatFault? then return ← c.fail 1 fault
      match ← Call.contentOf path with
      | .error e =>
        c.fail 1 (Call.openOrRead
          (fun p e => "cannot open ".toList ++ inQuotes p ++ " for reading: ".toList ++ describe e)
          (fun _ e => "read error: ".toList ++ describe e) path e)
      | .ok content =>
        let (warnings, cuts) := cutsOf (places.length + 1) 0 places
        for text in warnings do
          c.say text
        match cuts with
        | .error text => c.fail 1 text
        | .ok cuts =>
          let start : Sections := ⟨[], 1, wholeLines content, 0⟩
          let (sections, fault) := match start.cutAll (g.has "suppress-matched") cuts with
            | .further s | .finished s => (s.done.reverse, none)
            | .failed s fault => (s.done.reverse, some fault)
          let kept := if g.has "z" then sections.filter (· ≠ []) else sections
          if let some text := fault then c.sayFirst text
          let isQuiet := g.has "s" || g.has "q" || g.has "silent"
          for (text, i) in kept.zipIdx do
            let name := sectionName ((g.value? "f").getD "xx".toList) (g.value? "b")
              (((g.value? "n").bind digitsValue?).getD 2) i
            if fault.isNone || g.has "k" then
              match ← Call.putPath .writing name text with
              | .ok () => pure ()
              | .error e => return ← c.fail 1 (Call.plainComplaint name e)
            else
              let place := ((← get).findName name).toOption
              if let some place := place then
                modify fun m => { m with files := m.files.remove place }
            if !isQuiet then print (Bytes.ofInt text.length ++ ['\n'])
          return Call.statusOf fault.isNone

end TokenConformance.Sandbox.Shell.Tool
