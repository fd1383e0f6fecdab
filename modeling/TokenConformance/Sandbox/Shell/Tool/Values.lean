import TokenConformance.Sandbox.Shell.Tool.Lines
import TokenConformance.Sandbox.Shell.Printing

/-! # Programs that work out values

* `Term`, `expr`: expressions whose words are arguments.
* `Progression`, `seq`: numbers one after another.
* `factor`: the prime factors of numbers.
-/

namespace TokenConformance.Sandbox.Shell.Tool

open Sandbox.Text (Bytes Binary Numeral Regex Subject)

/-! ## Expressions -/

/-- Why an expression has no value. -/
inductive TermFault where
  | missingAfter (word : Bytes)
  | unexpected (word : Bytes)
  | unclosed (word : Bytes)
  | notClosed (word : Bytes)
  | unexpectedClosing
  | notInteger
  | divisionByZero
  | pattern (text : String)
deriving DecidableEq, Inhabited

/-- The text of a fault. -/
def TermFault.message : TermFault → Bytes
  | missingAfter w => "syntax error: missing argument after ".toList ++ inSingleQuotes w
  | unexpected w => "syntax error: unexpected argument ".toList ++ inSingleQuotes w
  | unclosed w => "syntax error: expecting ')' after ".toList ++ inSingleQuotes w
  | notClosed w => "syntax error: expecting ')' instead of ".toList ++ inSingleQuotes w
  | unexpectedClosing => "syntax error: unexpected ')'".toList
  | notInteger => "non-integer argument".toList
  | divisionByZero => "division by zero".toList
  | pattern text => text.toList

/-- The words of an expression that have been read, the last one first, and those that are left. -/
structure Words where
  before : List Bytes
  after : List Bytes
deriving DecidableEq, Inhabited

/-- The words after the next one has been read. -/
def Words.next (ws : Words) : Words :=
  match ws.after with
  | w :: rest => ⟨w :: ws.before, rest⟩
  | [] => ws

/-- A text as a whole number. -/
def wholeNumber? (text : Bytes) : Option Int :=
  match text with
  | '+' :: _ => none
  | _ => integer? text

/-- Whether a value counts as nothing. -/
def isNull (value : Bytes) : Bool :=
  match value with
  | [] => true
  | '-' :: digits => digits ≠ [] && digits.all (· = '0')
  | digits => digits.all (· = '0')

/-- What a pattern finds at the start of a text: what its first group matches, or else how much it
matches. -/
def matched (text pattern : Bytes) : Except TermFault Bytes :=
  match Regex.read plainForm pattern with
  | .error e => .error (.pattern e)
  | .ok (r, _) =>
    let s : Subject := ⟨text.toArray, false⟩
    match (r.ends s 0).getLast? with
    | none => .ok (if r.hasGroups then [] else ['0'])
    | some j =>
      if r.hasGroups then
        .ok ((((r.matchAt s (0, j)).groups.lookup 1).map s.slice).getD [])
      else .ok (Bytes.ofInt j)

/-- What reads a part of an expression. A part that is not evaluated has no faults of value. -/
abbrev TermReader := Words → Except TermFault (Bytes × Words)

/-- The value of a binary operator, unless it is not one of those that bind as strongly as is
said. -/
def operation? (strength : Nat) (word : Bytes) : Option (Bytes → Bytes → Except TermFault Bytes) :=
  let truth (b : Bool) : Except TermFault Bytes := .ok (if b then ['1'] else ['0'])
  let compared (test : Ordering → Bool) (a b : Bytes) : Except TermFault Bytes :=
    match wholeNumber? a, wholeNumber? b with
    | some x, some y => truth (test (compare x y))
    | _, _ =>
      truth (test (if a = b then .eq else if Bytes.isAtMost a b then .lt else .gt))
  let computed (f : Int → Int → Except TermFault Int) (a b : Bytes) : Except TermFault Bytes :=
    match wholeNumber? a, wholeNumber? b with
    | some x, some y => (f x y).map Bytes.ofInt
    | _, _ => .error .notInteger
  match strength, String.ofList word with
  | 2, "<" => some (compared (·.isLT))
  | 2, "<=" => some (compared (·.isLE))
  | 2, "=" | 2, "==" => some (compared (·.isEq))
  | 2, "!=" => some (compared (·.isNe))
  | 2, ">=" => some (compared (·.isGE))
  | 2, ">" => some (compared (·.isGT))
  | 3, "+" => some (computed fun a b => .ok (a + b))
  | 3, "-" => some (computed fun a b => .ok (a - b))
  | 4, "*" => some (computed fun a b => .ok (a * b))
  | 4, "/" => some (computed fun a b => if b = 0 then .error .divisionByZero else .ok (a.tdiv b))
  | 4, "%" => some (computed fun a b => if b = 0 then .error .divisionByZero else .ok (a.tmod b))
  | 5, ":" => some matched
  | _, _ => none

/-- The faults of a value do not count where nothing is evaluated. -/
def quiet (isWanted : Bool) (r : Except TermFault Bytes) : Except TermFault Bytes :=
  if isWanted then r else .ok (r.toOption.getD [])

section

variable (isWanted : Bool) (whole : Bool → TermReader)

/-- Reads a part that stands for itself or has its operators before it. The number bounds how many
there are. -/
def readPrimary : Nat → TermReader
  | 0, ws => .error (.missingAfter (ws.before.headD []))
  | n + 1, ws =>
    match ws.after with
    | [] => .error (.missingAfter (ws.before.headD []))
    | word :: rest =>
      let next := ws.next
      match String.ofList word with
      | "+" =>
        match rest with
        | [] => .error (.missingAfter word)
        | w :: _ => .ok (w, next.next)
      | "length" => do
        let (text, ws) ← readPrimary n next
        return (Bytes.ofInt text.length, ws)
      | "match" => do
        let (text, ws) ← readPrimary n next
        let (pattern, ws) ← readPrimary n ws
        return (← quiet isWanted (matched text pattern), ws)
      | "index" => do
        let (text, ws) ← readPrimary n next
        let (letters, ws) ← readPrimary n ws
        let i := text.findIdx fun c => letters.contains c
        return (Bytes.ofInt (if i < text.length then i + 1 else 0 : Nat), ws)
      | "substr" => do
        let (text, ws) ← readPrimary n next
        let (start, ws) ← readPrimary n ws
        let (length, ws) ← readPrimary n ws
        match wholeNumber? start, wholeNumber? length with
        | some i, some k =>
          if i ≤ 0 || k ≤ 0 then return ([], ws)
          else return ((text.drop (i.toNat - 1)).take k.toNat, ws)
        | _, _ => return ([], ws)
      | "(" => do
        let (value, ws) ← whole isWanted next
        match ws.after with
        | [] => throw (.unclosed (ws.before.headD []))
        | w :: _ => if w = [')'] then return (value, ws.next) else throw (.notClosed w)
      | ")" => .error .unexpectedClosing
      | _ => .ok (word, next)

/-- Reads what follows a value, as far as it binds as strongly as is said. The number bounds how many
operators there are. -/
def readOperations (strength : Nat) (part : TermReader) : Nat → Bytes → TermReader
  | 0, value, ws => .ok (value, ws)
  | n + 1, value, ws =>
    match ws.after.head?.bind (operation? strength) with
    | none => .ok (value, ws)
    | some f => do
      let (right, ws) ← part ws.next
      readOperations strength part n (← quiet isWanted (f value right)) ws

/-- Reads operators that bind at least as strongly as is said. -/
def readStrong : Nat → TermReader
  | 0, ws => readPrimary isWanted whole (ws.after.length + 1) ws
  | n + 1, ws => do
    let (value, ws) ← readStrong n ws
    readOperations isWanted (5 - n) (readStrong n) (ws.after.length + 1) value ws

end

/-- Reads values of which both have to count. The number bounds how many there are. -/
def readBoth (isWanted : Bool) (whole : Bool → TermReader) : Nat → Bytes → TermReader
  | 0, value, ws => .ok (value, ws)
  | n + 1, value, ws =>
    if ws.after.head? = some ['&'] then do
      let (right, ws) ← readStrong (isWanted && !isNull value) whole 4 ws.next
      let value := if isNull value || isNull right then ['0'] else value
      readBoth isWanted whole n value ws
    else .ok (value, ws)

/-- Reads values of which the first one counts that is not null. The number bounds how many there
are. -/
def readEither (isWanted : Bool) (whole : Bool → TermReader) : Nat → Bytes → TermReader
  | 0, value, ws => .ok (value, ws)
  | n + 1, value, ws =>
    if ws.after.head? = some ['|'] then do
      let isNeeded := isWanted && isNull value
      let (first, ws) ← readStrong isNeeded whole 4 ws.next
      let (right, ws) ← readBoth isNeeded whole (ws.after.length + 1) first ws
      let value := if !isNull value then value else if isNull right then ['0'] else right
      readEither isWanted whole n value ws
    else .ok (value, ws)

/-- Reads a whole expression. The number bounds how deep it is. -/
def readTerm : Nat → Bool → TermReader
  | 0, _, ws => .error (.missingAfter (ws.before.headD []))
  | n + 1, isWanted, ws => do
    let whole := readTerm n
    let (first, ws) ← readStrong isWanted whole 4 ws
    let (value, ws) ← readBoth isWanted whole (ws.after.length + 1) first ws
    readEither isWanted whole (ws.after.length + 1) value ws

/-- Works out an expression. -/
def expr : Tool := fun c => do
  let words := if c.arguments.head? = some ['-', '-'] then c.arguments.drop 1 else c.arguments
  if words = [] then return ← c.misused 2 "missing operand".toList
  match readTerm (words.length + 1) true ⟨[], words⟩ with
  | .error f => c.fail 2 f.message
  | .ok (value, ws) =>
    match ws.after with
    | w :: _ => c.fail 2 (TermFault.unexpected w).message
    | [] =>
      print (value ++ ['\n'])
      return if isNull value then 1 else 0

/-! ## Progressions -/

/-- A number with some places after its point. -/
structure Placed where
  /-- The number times a power of ten. -/
  value : Int
  /-- The power of ten. -/
  scale : Nat
  /-- How many places are written. -/
  places : Nat
  /-- How many characters the number has without a plus sign. -/
  width : Nat
deriving DecidableEq, Inhabited

/-- The number times a greater power of ten. -/
def Placed.at (p : Placed) (scale : Nat) : Int := p.value * Nat.pow 10 (scale - p.scale)

/-- Reads a number. -/
def placed? (text : Bytes) : Option (Except Numeral Placed) :=
  match Numeral.read? text with
  | some (n, []) =>
    let body := text.dropWhile fun c => c = '+' || c = ' '
    let plain := body.takeWhile fun c => c ≠ 'e' && c ≠ 'E'
    let fraction := (plain.dropWhile (· ≠ '.')).drop 1
    let hasPoint := plain.contains '.'
    match n with
    | .decimal s digits e =>
      let value : Int := if s then -(digits : Int) else digits
      let places := if plain.length = body.length then fraction.length else (-e).toNat
      let whole := (plain.takeWhile (· ≠ '.')).dropWhile (· = '-')
      let extra := if hasPoint && whole = [] then 1 else 0
      let lost := if hasPoint && fraction = [] then 1 else 0
      let width := plain.length + extra - lost
      if 0 ≤ e then some (.ok ⟨value * Nat.pow 10 e.toNat, 0, places, width⟩)
      else some (.ok ⟨value, (-e).toNat, places, width⟩)
    | .hexadecimal s digits e =>
      let value : Int := if s then -(digits : Int) else digits
      if 0 ≤ e then some (.ok ⟨value * Nat.pow 2 e.toNat, 0, 0, body.length⟩) else none
    | other => some (.error other)
  | _ => none

/-- Numbers from a first one to a last one. -/
structure Progression where
  first : Int
  step : Int
  last : Option Int
deriving DecidableEq, Inhabited

/-- How many numbers there may be. -/
def mostNumbers : Nat := 1000000

/-- The numbers of a progression. -/
def Progression.numbers (p : Progression) : List Int :=
  let count : Nat := match p.last with
    | none => mostNumbers
    | some last =>
      if p.step = 0 then mostNumbers
      else
        let n := (last - p.first).fdiv p.step
        min (n + 1).toNat mostNumbers
  (List.range count).map fun (i : Nat) => p.first + i * p.step

/-- A number that was multiplied by a power of ten, as an exact quotient. -/
def binaryOf (value : Int) (scale : Nat) : Binary :=
  if scale = 0 then .finite (value < 0) value.natAbs 0
  else .ofRatio .extended (value < 0) value.natAbs (Nat.pow 10 scale)

/-- A format for one number: what stands before and after it, and how it is written. -/
structure NumberFormat where
  before : Bytes
  directive : Directive
  conversion : Char
  after : Bytes
deriving DecidableEq, Inhabited

/-- The text of a format up to its next directive, and what follows its percent sign. The number
bounds its length. -/
def beforeDirective : Nat → Bytes → Bytes × Option Bytes
  | 0, text => (text, none)
  | _, [] => ([], none)
  | n + 1, '%' :: '%' :: rest =>
    let (text, found) := beforeDirective n rest
    ('%' :: text, found)
  | _, '%' :: rest => ([], some rest)
  | n + 1, c :: rest =>
    let (text, found) := beforeDirective n rest
    (c :: text, found)

/-- Reads a format for one number, or tells what is wrong with it. -/
def numberFormat? (text : Bytes) : Except Bytes NumberFormat :=
  let fault (what : Bytes) : Except Bytes NumberFormat :=
    .error ("format ".toList ++ inSingleQuotes text ++ what)
  match beforeDirective (text.length + 1) text with
  | (_, none) => fault " has no % directive".toList
  | (before, some rest) =>
    let flags := rest.takeWhile fun c => c ∈ "-+#0 '".toList
    let rest := rest.drop flags.length
    let width := rest.takeWhile Char.isDigit
    let rest := rest.drop width.length
    let (precision, rest) : Option Nat × Bytes := match rest with
      | '.' :: rest =>
        let digits := rest.takeWhile Char.isDigit
        (some (digitsValue digits), rest.drop digits.length)
      | _ => (none, rest)
    let rest := if rest.head? = some 'L' then rest.drop 1 else rest
    match rest with
    | [] => fault " ends in %".toList
    | c :: rest =>
      if c ∉ "efgEFGaA".toList then
        fault (" has unknown %".toList ++ c :: " directive".toList)
      else
        match beforeDirective (rest.length + 1) rest with
        | (_, some _) => fault " has too many % directives".toList
        | (after, none) =>
          .ok ⟨before, ⟨flags, digitsValue width, precision⟩, c, after⟩

/-- A number in a format. -/
def NumberFormat.write (f : NumberFormat) (b : Binary) : Bytes :=
  f.before ++ f.directive.floating f.conversion b ++ f.after

/-- The format that is used when none is given. -/
def standardFormat (hasEqualWidths : Bool) (first step : Placed) (last? : Option Placed) :
    NumberFormat :=
  let places := max first.places step.places
  let width : Nat := match last? with
    | some last =>
      let firstWidth := first.width + (places - first.places) +
        if first.places = 0 && 0 < places then 1 else 0
      let lastWidth := last.width + places - last.places
      let lastWidth := if 0 < last.places && places = 0 then lastWidth - 1
        else if last.places = 0 && 0 < places then lastWidth + 1 else lastWidth
      max firstWidth lastWidth
    | none => 0
  ⟨[], ⟨if hasEqualWidths then ['0'] else [], if hasEqualWidths then width else 0, some places⟩,
    'f', []⟩

/-- Arguments of `seq` in which negative numbers are operands. -/
def protectNumbers : List Bytes → List Bytes
  | [] => []
  | a :: rest =>
    match a with
    | '-' :: d :: _ =>
      if d.isDigit || d = '.' then ['-', '-'] :: a :: rest
      else if ["-f", "-s", "--format", "--separator"].contains (String.ofList a) then
        a :: rest.take 1 ++ protectNumbers' (rest.drop 1)
      else a :: protectNumbers rest
    | _ => a :: rest
where
  /-- The same for the arguments after the value of an option. -/
  protectNumbers' : List Bytes → List Bytes
    | [] => []
    | a :: rest =>
      match a with
      | '-' :: d :: _ => if d.isDigit || d = '.' then ['-', '-'] :: a :: rest else a :: protectNumbers' rest
      | _ => a :: rest

/-- Writes numbers one after another. -/
def seq : Tool := fun c =>
  let c : Call := { c with arguments := protectNumbers c.arguments }
  c.withOptionsUpTo true 1
    [valued 'f' "format", valued 's' "separator", flag 'w' "equal-width"] fun g => do
    match g.operands with
    | [] => c.misused 1 "missing operand".toList
    | _ :: _ :: _ :: extra :: _ => c.misused 1 ("extra operand ".toList ++ inSingleQuotes extra)
    | operands =>
      let isBad (text : Bytes) : Bool := match placed? text with
        | none => true
        | some (.error (.unordered _)) => true
        | _ => false
      match operands.find? isBad with
      | some text =>
        let what := if (placed? text).isSome then "invalid 'not-a-number' argument: "
          else "invalid floating point argument: "
        c.misused 1 (what.toList ++ inSingleQuotes text)
      | none =>
        let number (text : Bytes) : Option Placed :=
          match placed? text with
          | some (.ok p) => some p
          | _ => none
        let one : Placed := ⟨1, 0, 0, 1⟩
        let (first, step, lastText) : Option Placed × Option Placed × Bytes := match operands with
          | [last] => (some one, some one, last)
          | [first, last] => (number first, some one, last)
          | first :: step :: last :: _ => (number first, number step, last)
          | [] => (none, none, [])
        let format? ← match g.value? "f" with
          | none => pure (.ok none)
          | some text => pure ((numberFormat? text).map some)
        match format?, first, step with
        | .error text, _, _ => c.fail 1 text
        | .ok format?, some first, some step =>
          if step.value = 0 then
            return ← c.misused 1 ("invalid Zero increment value: ".toList ++
              inSingleQuotes (operands.getD 1 []))
          let last? := number lastText
          let endsAtOnce : Bool := match placed? lastText with
            | some (.error (.infinite s)) => s = decide (0 < step.value)
            | _ => false
          if endsAtOnce then return 0
          let scale := max (max first.scale step.scale) ((last?.map (·.scale)).getD 0)
          let p : Progression := ⟨first.at scale, step.at scale, last?.map (·.at scale)⟩
          let f := format?.getD (standardFormat (g.has "w") first step last?)
          let separator := (g.value? "s").getD ['\n']
          let texts := p.numbers.map fun n => f.write (binaryOf n scale)
          if texts ≠ [] then
            if last?.isNone then
              for text in texts do print (text ++ separator)
            else print (Bytes.joined separator texts ++ ['\n'])
          return 0
        | _, _, _ => return 0

/-! ## Factors -/

/-- The prime factors of a number from some candidate on. The number bounds how many candidates are
tried. -/
def factorsFrom : Nat → Nat → Nat → List Nat
  | 0, n, _ => if n = 1 then [] else [n]
  | fuel + 1, n, p =>
    if n ≤ 1 then []
    else if n < p * p then [n]
    else if n % p = 0 then p :: factorsFrom fuel (n / p) p
    else factorsFrom fuel n (if p = 2 then 3 else p + 2)

/-- Writes the prime factors of numbers. -/
def factor : Tool := fun c => c.withOptions [flag 'h' "exponents"] fun g => do
  let words (text : Bytes) : List Bytes :=
    (text.splitOnP fun c => c = ' ' || c = '\t' || c = '\n').filter (· ≠ [])
  let numbers ← if g.operands ≠ [] then pure g.operands else do
    match ← readAll 0 with
    | .ok text => pure (words text)
    | .error _ => pure []
  let mut status := 0
  for text in numbers do
    let digits := (text.dropWhile (· = ' '))
    let digits := if digits.head? = some '+' then digits.drop 1 else digits
    match digitsValue? digits with
    | some n =>
      let found := (factorsFrom 5000000 n 2).map fun (p : Nat) => ' ' :: Bytes.ofInt p
      print (Bytes.ofInt n ++ ':' :: found.flatten ++ ['\n'])
    | none =>
      c.sayFirst (inSingleQuotes text ++ " is not a valid positive integer".toList)
      status := 1
  return status

end TokenConformance.Sandbox.Shell.Tool
