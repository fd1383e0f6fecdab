import TokenConformance.Sandbox.Text.Regex.Basic

/-! # Reading regular expressions

* `Regex.Form`: how expressions are written.
* `Regex.bracket?`: the set of characters between brackets.
* `Regex.interval?`: how often something is repeated.
* `Regex.Reading`: how far an expression has been read.
* `Regex.read`: reads an expression, or tells what is wrong with it.
-/

namespace TokenConformance.Sandbox.Text.Regex

open Sandbox.Text (Bytes)

/-- How expressions are written. -/
structure Form where
  /-- Whether parentheses, braces and bars have a meaning without a backslash. -/
  extended : Bool
  ignoresCase : Bool
  /-- Whether what has no meaning stands for itself where that is possible. -/
  isLenient : Bool
  /-- Whether a backslash takes the meaning from a character between brackets. -/
  escapesInSets : Bool
deriving DecidableEq, Inhabited

/-! ## Sets -/

/-- The name after an opening bracket and a mark, and what follows the mark and the bracket that
close it. -/
def markedName? (mark : Char) : Bytes → Option (Bytes × Bytes)
  | [] => none
  | c :: ']' :: rest =>
    if c = mark then some ([], rest)
    else (markedName? mark (']' :: rest)).map fun (name, rest) => (c :: name, rest)
  | c :: rest => (markedName? mark rest).map fun (name, rest) => (c :: name, rest)

/-- The fault of a set that is not closed. -/
def openBracket : String := "Unmatched [, [^, [:, [., or [="

/-- The end of a range, or its start, and what follows it. -/
def rangeEnd (f : Form) (cs : Bytes) : Except String (Char × Bytes) :=
  match cs with
  | [] => .error openBracket
  | '[' :: '.' :: rest =>
    match markedName? '.' rest with
    | some ([c], rest) => .ok (c, rest)
    | some _ => .error "Invalid collation character"
    | none => .error openBracket
  | '\\' :: c :: rest => if f.escapesInSets then .ok (c, rest) else .ok ('\\', c :: rest)
  | c :: rest => .ok (c, rest)

/-- The members of a set up to the bracket that closes it, and what follows that. The number bounds
how many there are. -/
def setMembers (f : Form) : Nat → Bool → Bytes → Except String (List Member × Bytes)
  | 0, _, _ => .error openBracket
  | _, _, [] => .error openBracket
  | n + 1, isFirst, ']' :: rest =>
    if isFirst then afterStart n ']' rest else .ok ([], rest)
  | n + 1, _, '[' :: ':' :: rest =>
    match markedName? ':' rest with
    | some (name, after) =>
      match classTest? (String.ofList name) with
      | some test => do
        let (ms, rest) ← setMembers f n false after
        return (.named test :: ms, rest)
      | none => .error "Invalid character class name"
    | none => .error openBracket
  | n + 1, _, '[' :: '=' :: rest =>
    match markedName? '=' rest with
    | some ([c], after) => do
      let (ms, rest) ← setMembers f n false after
      return (.range c c :: ms, rest)
    | some _ => .error "Invalid collation character"
    | none => .error openBracket
  | n + 1, _, cs => do
    let (c, rest) ← rangeEnd f cs
    afterStart n c rest
where
  /-- The members after a character that may start a range. -/
  afterStart (n : Nat) (c : Char) (rest : Bytes) : Except String (List Member × Bytes) := do
    let single := do
      let (ms, rest) ← setMembers f n false rest
      return (.range c c :: ms, rest)
    match rest with
    | '-' :: ']' :: _ => single
    | '-' :: '[' :: ':' :: _ => .error "Invalid range end"
    | '-' :: after =>
      let (last, after) ← rangeEnd f after
      if last < c then .error "Invalid range end"
      else
        let (ms, rest) ← setMembers f n false after
        return (.range c last :: ms, rest)
    | _ => single

/-- The set of characters after an opening bracket, and what follows it. -/
def bracket? (f : Form) (cs : Bytes) : Except String (CharSet × Bytes) := do
  let (isNegated, start) := match cs with
    | '^' :: rest => (true, rest)
    | _ => (false, cs)
  if start = [] then throw "Invalid regular expression"
  let (members, rest) ← setMembers f (start.length + 1) true start
  return (⟨isNegated, members, f.ignoresCase⟩, rest)

/-! ## Repetitions -/

/-- How often something may be repeated at most. -/
def mostRepetitions : Nat := 32767

/-- The numbers after an opening brace, and what follows the closing one. The fault is that of a brace
that cannot be read. -/
def interval? (f : Form) (cs : Bytes) : Except String ((Nat × Option Nat) × Bytes) :=
  let number (cs : Bytes) : Bytes := cs.takeWhile Char.isDigit
  let value (digits : Bytes) : Nat := digits.foldl (fun n c => n * 10 + (c.toNat - 48)) 0
  let first := number cs
  let afterFirst := cs.drop first.length
  let (last?, rest) : Option Bytes × Bytes := match afterFirst with
    | ',' :: rest => (some (number rest), rest.drop (number rest).length)
    | rest => (none, rest)
  let closed? : Option Bytes := match rest with
    | '\x7d' :: rest => if f.extended then some rest else none
    | '\\' :: '\x7d' :: rest => if f.extended then none else some rest
    | _ => none
  match closed? with
  | none => .error (if rest = [] then "Unmatched \\\x7b" else "Invalid content of \\\x7b\\\x7d")
  | some after =>
    if first = [] && last?.isNone then .error "Invalid content of \\\x7b\\\x7d"
    else
      let most : Option Nat := match last? with
        | none => some (value first)
        | some [] => none
        | some digits => some (value digits)
      .ok ((value first, most), after)

/-! ## Expressions -/

/-- A group that is not closed yet. -/
structure Frame where
  number : Nat
  /-- The branches before the one that is read, the last one first. -/
  branches : List Regex
  /-- The items of the branch that is read, the last one first. -/
  items : List Regex
  /-- The groups that had been closed before it was opened. -/
  known : List Nat
  /-- The groups that have been closed in its branches. -/
  inside : List Nat
deriving Inhabited

/-- The expression of items, of which the last one comes first. -/
def ofItems : List Regex → Regex
  | [] => .empty
  | last :: before => before.foldl (fun r item => .join item r) last

/-- The expression of a group that is closed. -/
def Frame.regex (fr : Frame) : Regex :=
  fr.branches.foldl (fun r branch => .either branch r) (ofItems fr.items)

/-- How far an expression has been read. -/
structure Reading where
  /-- The groups that are not closed yet, the innermost first. -/
  frames : List Frame
  /-- How many groups have been opened. -/
  count : Nat
  /-- The groups that have been closed and can be referred to. -/
  closed : List Nat
  /-- Whether the last item can be repeated. -/
  canRepeat : Bool
  /-- Whether the last item has been repeated. -/
  isRepeated : Bool
  /-- Whether a caret is an anchor here. -/
  isStart : Bool
  warnings : List String
deriving Inhabited

namespace Reading

/-- The reading before the first character. -/
def start : Reading := ⟨[⟨0, [], [], [], []⟩], 0, [], false, false, true, []⟩

/-- The reading with another innermost group. -/
def change (s : Reading) (f : Frame → Frame) : Reading :=
  match s.frames with
  | fr :: others => { s with frames := f fr :: others }
  | [] => s

/-- The reading with one more item that can be repeated. -/
def push (s : Reading) (r : Regex) : Reading :=
  { s.change fun fr => { fr with items := r :: fr.items } with
    canRepeat := true, isRepeated := false, isStart := false }

/-- The reading with one more anchor. -/
def anchor (s : Reading) (a : Assertion) : Reading :=
  { s.push (.assert a) with canRepeat := false, isStart := true }

/-- The reading with the last item repeated. -/
def repeating (s : Reading) (least : Nat) (most : Option Nat) : Reading :=
  let s := s.change fun fr => match fr.items with
    | item :: before => { fr with items := .repeated item least most :: before }
    | [] => fr
  { s with isRepeated := true }

/-- The reading after a bar. No branch refers to the groups of the one before it. -/
def bar (s : Reading) : Reading :=
  match s.frames with
  | fr :: others =>
    let fr := { fr with
      branches := ofItems fr.items :: fr.branches, items := []
      inside := s.closed ++ fr.inside }
    { s with frames := fr :: others, closed := fr.known, canRepeat := false, isStart := true }
  | [] => s

/-- The reading after an opening parenthesis. -/
def opening (s : Reading) : Reading :=
  { s with
    frames := ⟨s.count + 1, [], [], s.closed, []⟩ :: s.frames
    count := s.count + 1, canRepeat := false, isStart := true }

/-- The reading after a closing parenthesis. -/
def closing (f : Form) (s : Reading) : Except String Reading :=
  match s.frames with
  | fr :: outer :: others =>
    let closed := fr.number :: s.closed ++ fr.inside
    let s := { s with frames := outer :: others, closed }
    .ok (s.push (.group fr.number fr.regex))
  | _ =>
    if f.extended && f.isLenient then .ok (s.push (.one (.single false ')')))
    else .error "Unmatched ) or \\)"

/-- The reading after a sign of repetition, or after the same sign where there is nothing to
repeat. -/
def sign (f : Form) (c : Char) (least : Nat) (most : Option Nat) (s : Reading) :
    Except String Reading :=
  let invalid := "Invalid preceding regular expression"
  if s.canRepeat then
    if !f.extended && !f.isLenient && s.isRepeated && (c = '*' || c = '\x7b') then .error invalid
    else .ok (s.repeating least most)
  else if !f.extended then .ok (s.push (.one (.single f.ignoresCase c)))
  else if f.isLenient then
    let text := (if c = '\x7b' then "\x7b...\x7d" else String.singleton c) ++ " at start of expression"
    .ok { s with warnings := s.warnings ++ [text] }
  else .error invalid

end Reading

/-- What a character after a backslash asserts. -/
def assertion? : Char → Option Assertion
  | '<' => some .wordStart
  | '>' => some .wordEnd
  | 'b' => some .wordEdge
  | 'B' => some .noWordEdge
  | '`' => some .textStart
  | '\'' => some .textEnd
  | _ => none

/-- The set that a character after a backslash stands for. -/
def escapedSet? : Char → Option CharSet
  | 'w' => some (.word false)
  | 'W' => some (.word true)
  | 's' => some (.space false)
  | 'S' => some (.space true)
  | _ => none

/-- Whether a dollar sign is an anchor before a text. -/
def isEnd (f : Form) (rest : Bytes) : Bool :=
  f.extended ||
    match rest with
    | [] | '\\' :: ')' :: _ | '\\' :: '|' :: _ => true
    | _ => false

/-- Reads a repetition after its brace. -/
def readInterval (f : Form) (rest : Bytes) (s : Reading) : Except String (Reading × Bytes) :=
  let asText : Reading × Bytes := (s.push (.one (.single f.ignoresCase '\x7b')), rest)
  let strict := !f.isLenient
  if !s.canRepeat && !f.extended then
    if strict then .error "Invalid preceding regular expression" else .ok asText
  else if !s.canRepeat && strict then .error "Invalid preceding regular expression"
  else
    match interval? f rest with
    | .error e => if f.extended && f.isLenient then .ok asText else .error e
    | .ok ((least, most), after) =>
      if most.any (· < least) then .error "Invalid content of \\\x7b\\\x7d"
      else if max least (most.getD 0) > mostRepetitions then .error "Regular expression too big"
      else do return (← s.sign f '\x7b' least most, after)

/-- Reads what follows a backslash. -/
def readEscape (f : Form) (c : Char) (rest : Bytes) (s : Reading) :
    Except String (Reading × Bytes) :=
  let plain : Reading × Bytes := (s.push (.one (.single f.ignoresCase c)), rest)
  match assertion? c, escapedSet? c with
  | some a, _ => .ok (s.anchor a, rest)
  | none, some set => .ok (s.push (.one set), rest)
  | none, none =>
    if c.isDigit && c ≠ '0' then
      let n := c.toNat - 48
      if s.closed.contains n then .ok (s.push (.same n f.ignoresCase), rest)
      else .error "Invalid back reference"
    else if f.extended then .ok plain
    else
      match c with
      | '(' => .ok (s.opening, rest)
      | ')' => do return (← s.closing f, rest)
      | '|' => .ok (s.bar, rest)
      | '+' => do return (← s.sign f '+' 1 none, rest)
      | '?' => do return (← s.sign f '?' 0 (some 1), rest)
      | '\x7b' => readInterval f rest s
      | _ => .ok plain

/-- Reads an expression. The number bounds its length. -/
def readAll (f : Form) : Nat → Bytes → Reading → Except String Reading
  | 0, _, s => .ok s
  | _, [], s => .ok s
  | n + 1, c :: rest, s => do
    let plain : Reading := s.push (.one (.single f.ignoresCase c))
    match c with
    | '\\' =>
      match rest with
      | [] => throw "Trailing backslash"
      | c :: rest =>
        let (s, rest) ← readEscape f c rest s
        readAll f n rest s
    | '[' =>
      let (set, rest) ← bracket? f rest
      readAll f n rest (s.push (.one set))
    | '.' => readAll f n rest (s.push (.one .all))
    | '*' => readAll f n rest (← s.sign f '*' 0 none)
    | '^' => readAll f n rest (if f.extended || s.isStart then s.anchor .lineStart else plain)
    | '$' => readAll f n rest (if isEnd f rest then s.anchor .lineEnd else plain)
    | '\n' => readAll f n rest (if f.isLenient then s.bar else plain)
    | _ =>
      if !f.extended then readAll f n rest plain
      else
        match c with
        | '(' => readAll f n rest s.opening
        | ')' => readAll f n rest (← s.closing f)
        | '|' => readAll f n rest s.bar
        | '+' => readAll f n rest (← s.sign f '+' 1 none)
        | '?' => readAll f n rest (← s.sign f '?' 0 (some 1))
        | '\x7b' =>
          let (s, rest) ← readInterval f rest s
          readAll f n rest s
        | _ => readAll f n rest plain

/-- Reads an expression, or tells what is wrong with it. There may be something to say about it even
if it can be read. -/
def read (f : Form) (text : Bytes) : Except String (Regex × List String) := do
  let s ← readAll f (text.length + 1) text .start
  match s.frames with
  | [fr] => return (fr.regex, s.warnings)
  | _ => throw "Unmatched ( or \\("

end TokenConformance.Sandbox.Text.Regex
