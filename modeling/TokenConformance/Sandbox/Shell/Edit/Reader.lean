import TokenConformance.Sandbox.Shell.Edit.Syntax
import TokenConformance.Sandbox.Shell.Tool.Basic
import TokenConformance.Text.Hex

/-! # Reading scripts that edit texts

* `Origin`, `Source`: a text of a script, and how far it has been read.
* `Scan`: reads something, or tells what is wrong and where.
* `escapeAt?`: the character that a backslash with what follows it stands for.
* `address?`, `substitution`, `deed`: the parts of an order.
* `Draft`: what has been read of a script.
* `readScript`: reads a script.
-/

namespace TokenConformance.Sandbox.Shell.Edit

open Sandbox.Text (Bytes Regex)
open Shell.Tool (filled)

/-- Where a text of a script comes from. -/
inductive Origin where
  | argument (n : Nat)
  | file (name : Bytes)
deriving DecidableEq, Inhabited

/-- A text of a script, and how far it has been read. -/
structure Source where
  text : Array Char
  position : Nat
  origin : Origin
deriving Inhabited

/-- The flags that change how all expressions are read. -/
structure Manner where
  isExtended : Bool
  isSafe : Bool
deriving DecidableEq, Inhabited

/-- What is said about a fault at the place up to which a text has been read. -/
def Source.fault (s : Source) (why : Bytes) : Bytes :=
  let place : Bytes := match s.origin with
    | .argument n => filled "-e expression #%, char %: " [Bytes.ofInt n, Bytes.ofInt s.position]
    | .file name =>
      let line := ((s.text.toList.take s.position).filter (· = '\n')).length + 1
      filled "file % line %: " [name, Bytes.ofInt line]
  place ++ why

/-- Reads something, or tells what is wrong and where. -/
abbrev Scan := StateT Source (Except Bytes)

/-- Tells what is wrong. -/
def wrong {α : Type} (why : String) : Scan α := do
  throw ((← get).fault why.toList)

/-- The next character, which is not passed. -/
def peek : Scan (Option Char) := do
  let s ← get
  return s.text[s.position]?

/-- The next character. -/
def next : Scan (Option Char) := do
  let s ← get
  match s.text[s.position]? with
  | some c =>
    set { s with position := s.position + 1 }
    return some c
  | none => return none

/-- Goes one character back. -/
def back : Scan Unit := modify fun s => { s with position := s.position - 1 }

/-- The characters of a kind that come next. -/
def takeWhile (test : Char → Bool) : Scan Bytes := do
  let s ← get
  let taken := (s.text.toList.drop s.position).takeWhile test
  set { s with position := s.position + taken.length }
  return taken

/-- Whether a character is a blank inside a line. -/
def isBlank (c : Char) : Bool := c = ' ' || c = '\t'

/-- The next character that is no blank. -/
def nextVisible : Scan (Option Char) := do
  let _ ← takeWhile isBlank
  next

/-- Checks that an order ends here. -/
def endOfOrder : Scan Unit := do
  match ← nextVisible with
  | some '\x7d' | some '#' => back
  | some '\n' | some ';' | none => return ()
  | some _ => wrong "extra characters after command"

/-! ## Texts -/

/-- The character with a number in some base, which digits give, and what follows them. -/
def numbered? (base most : Nat) (isDigit : Char → Bool) (cs : Bytes) : Option (Char × Bytes) :=
  let digits := (cs.take most).takeWhile isDigit
  if digits = [] then none
  else
    let n := digits.foldl (fun n c => n * base + (Text.Hex.value? c).getD 0) 0
    some (Char.ofNat (n % 256), cs.drop digits.length)

/-- The character that the text after a backslash stands for, and what follows it. -/
def escapeAt? (cs : Bytes) : Option (Char × Bytes) :=
  match cs with
  | 'a' :: rest => some ('\x07', rest)
  | 'f' :: rest => some ('\x0c', rest)
  | 'n' :: rest => some ('\n', rest)
  | 'r' :: rest => some ('\r', rest)
  | 't' :: rest => some ('\t', rest)
  | 'v' :: rest => some ('\x0b', rest)
  | 'c' :: c :: rest => some (Char.ofNat (c.toUpper.toNat ^^^ 64), rest)
  | 'd' :: rest => numbered? 10 3 Char.isDigit rest
  | 'o' :: rest => numbered? 8 3 (fun c => '0' ≤ c && c ≤ '7') rest
  | 'x' :: rest => numbered? 16 2 Text.isHexDigit rest
  | _ => none

/-- A text with its escapes replaced. The number bounds its length. -/
def plainText : Nat → Bytes → Bytes
  | 0, _ => []
  | _, [] => []
  | n + 1, '\\' :: rest =>
    match escapeAt? rest, rest with
    | some (c, rest), _ => c :: plainText n rest
    | none, c :: rest => c :: plainText n rest
    | none, [] => []
  | n + 1, c :: rest => c :: plainText n rest

/-- The characters up to the end of a line that has no backslash before it. -/
def rawText : Bytes → Bytes
  | [] => []
  | ['\\'] => ['\\']
  | '\\' :: c :: rest => '\\' :: c :: rawText rest
  | '\n' :: _ => []
  | c :: rest => c :: rawText rest

/-- Reads the rest of a line, or of some lines with backslashes at their ends. The result says also
whether the text goes on in the next text of the script. -/
def lineText : Scan (Bytes × Bool) := do
  let s ← get
  let raw := rawText (s.text.toList.drop s.position)
  set { s with position := min s.text.size (s.position + raw.length + 1) }
  let ending := raw.reverse.takeWhile (· = '\\')
  let isOpen := s.position + raw.length ≥ s.text.size && ending.length % 2 = 1
  return (plainText (raw.length + 1) raw, isOpen)

/-- Reads the text of an order that adds one. The result says also whether the text goes on in the
next text of the script. -/
def addedText : Scan (Bytes × Bool) := do
  match ← nextVisible with
  | none => wrong "expected \\ after `a', `c' or `i'"
  | some '\\' =>
    let s ← get
    let blanks := (s.text.toList.drop s.position).takeWhile isBlank
    match s.text[s.position + blanks.length]? with
    | some '\n' =>
      set { s with position := s.position + blanks.length + 1 }
      let (text, isOpen) ← lineText
      return (text ++ ['\n'], isOpen)
    | some _ =>
      let (text, isOpen) ← lineText
      return (text ++ ['\n'], isOpen)
    | none => return ([], true)
  | some _ =>
    back
    let (text, isOpen) ← lineText
    return (text ++ ['\n'], isOpen)

/-- Reads a label. -/
def label : Scan Bytes := do
  let _ ← takeWhile isBlank
  takeWhile fun c => !Text.isSpace c && c ≠ ';' && c ≠ '\x7d'

/-- Reads the name of a file, which is the rest of the line. -/
def fileName : Scan Bytes := do
  let _ ← takeWhile isBlank
  let name ← takeWhile (· ≠ '\n')
  let _ ← next
  if name = [] then
    wrong "missing filename in r/R/w/W commands"
  else return name

/-! ## Expressions -/

/-- The characters up to the bracket that closes a set, with it. The set has been opened. -/
def setText (cs : Bytes) : Option Bytes :=
  let sign := if cs.head? = some '^' then 1 else 0
  let start := if (cs.drop sign).head? = some ']' then sign + 1 else sign
  let rec go : Nat → Bytes → Option Bytes
    | 0, _ => none
    | _, [] => none
    | _, '\n' :: _ => none
    | _, ']' :: _ => some [']']
    | n + 1, '[' :: mark :: rest =>
      if mark = ':' || mark = '.' || mark = '=' then
        match Regex.markedName? mark rest with
        | some (name, after) =>
          (go n after).map fun text => '[' :: mark :: name ++ mark :: ']' :: text
        | none => (go n (mark :: rest)).map ('[' :: ·)
      else (go n (mark :: rest)).map ('[' :: ·)
    | n + 1, c :: rest => (go n rest).map (c :: ·)
  (go cs.length (cs.drop start)).map (cs.take start ++ ·)

/-- The characters up to a mark that ends them, and what follows the mark. Brackets hide the mark in
an expression. The number bounds how many there are. -/
def delimited (mark : Char) (isRegex : Bool) : Nat → Bytes → Option (Bytes × Bytes)
  | 0, _ => none
  | n + 1, cs =>
    match cs, decide (mark = '\\') with
    | [], _ => none
    | '\\' :: c :: rest, false =>
      let own : Bytes :=
        if c = mark then if isRegex || c ≠ '&' then [c] else ['\\', c]
        else if c = 'n' && isRegex then ['\n']
        else ['\\', c]
      (delimited mark isRegex n rest).map fun (text, after) => (own ++ text, after)
    | c :: rest, _ =>
      if c = mark then some ([], rest)
      else if c = '\n' then none
      else if c = '[' && isRegex then
        match setText rest with
        | none => none
        | some set =>
          let own := withLineEnds set
          (delimited mark isRegex n (rest.drop set.length)).map
            fun (text, after) => ('[' :: own ++ text, after)
      else (delimited mark isRegex n rest).map fun (text, after) => (c :: text, after)
where
  /-- A set in which line ends may be written with a backslash. -/
  withLineEnds : Bytes → Bytes
    | '\\' :: 'n' :: rest => '\n' :: withLineEnds rest
    | '\\' :: c :: rest => if c = mark then c :: withLineEnds rest else '\\' :: c :: withLineEnds rest
    | c :: rest => c :: withLineEnds rest
    | [] => []

/-- Reads the characters up to a mark. -/
def untilMark (mark : Char) (isRegex : Bool) (why : String) : Scan Bytes := do
  let s ← get
  let rest := s.text.toList.drop s.position
  match delimited mark isRegex (rest.length + 1) rest with
  | some (text, after) =>
    set { s with position := s.text.size - after.length }
    return text
  | none =>
    let read := if isRegex || !rest.contains '\n' then rest.takeWhile (· ≠ '\n') else lineOf rest
    set { s with position := s.position + read.length }
    wrong why
where
  /-- The characters before the first line end without a backslash. -/
  lineOf : Bytes → Bytes
    | '\\' :: c :: rest => '\\' :: c :: lineOf rest
    | '\n' :: _ => []
    | c :: rest => c :: lineOf rest
    | [] => []

/-- An expression in which characters may be written with escapes. The number bounds its length. -/
def withEscapes : Nat → Bytes → Bytes
  | 0, _ => []
  | _, [] => []
  | n + 1, '\\' :: rest =>
    match escapeAt? rest, rest with
    | some (c, after), e :: _ =>
      if e = 'n' then '\n' :: withEscapes n after else c :: withEscapes n after
    | _, c :: after => '\\' :: c :: withEscapes n after
    | _, [] => ['\\']
  | n + 1, c :: rest => c :: withEscapes n rest

/-- Makes an expression of a text. An empty one stands for the one that was used last. -/
def expression (m : Manner) (ignoresCase hasLines : Bool) (text : Bytes) : Scan Expression := do
  if text = [] then
    if ignoresCase || hasLines then wrong "cannot specify modifiers on empty regexp"
    else return ⟨none, false⟩
  let text := withEscapes (text.length + 1) text
  match Regex.read ⟨m.isExtended, ignoresCase, false, false⟩ text with
  | .ok (r, _) => return ⟨some r, hasLines⟩
  | .error e => wrong e

/-- How many groups an expression has. -/
def groupCount : Regex → Nat
  | .group n r => max n (groupCount r)
  | .join a b | .either a b => max (groupCount a) (groupCount b)
  | .repeated r _ _ => groupCount r
  | _ => 0

/-! ## Addresses -/

/-- Reads a number. -/
def number : Scan Nat := do return digitsValue (← takeWhile Char.isDigit)

/-- The flags after the expression of an address. The number bounds how many there are. -/
def addressFlags : Nat → Bool → Bool → Scan (Bool × Bool)
  | 0, i, m => return (i, m)
  | n + 1, i, m => do
    let _ ← takeWhile isBlank
    match ← peek with
    | some 'I' =>
      let _ ← next
      addressFlags n true m
    | some 'M' =>
      let _ ← next
      addressFlags n i true
    | _ => return (i, m)

/-- Reads where lines start or stop, if that comes next. -/
def stop? (m : Manner) : Scan (Option Stop) := do
  let _ ← takeWhile isBlank
  match ← peek with
  | some '/' =>
    let _ ← next
    matched '/'
  | some '\\' =>
    let _ ← next
    match ← next with
    | some mark => matched mark
    | none => wrong "unexpected `,'"
  | some '$' =>
    let _ ← next
    return some (.point .last)
  | some '+' =>
    let _ ← next
    return some (.after (← number))
  | some '~' =>
    let _ ← next
    return some (.multiple (← number))
  | some c =>
    if c.isDigit then
      let first ← number
      let _ ← takeWhile isBlank
      match ← peek with
      | some '~' =>
        let _ ← next
        let _ ← takeWhile isBlank
        return some (.point (.step first (← number)))
      | _ => return some (.point (.line first))
    else return none
  | none => return none
where
  /-- An expression between marks. -/
  matched (mark : Char) : Scan (Option Stop) := do
    let text ← untilMark mark true "unterminated address regex"
    let (ignoresCase, hasLines) ← addressFlags 10 false false
    return some (.point (.matching (← expression m ignoresCase hasLines text)))

/-- Reads the lines for which something is done. -/
def address (m : Manner) : Scan Address := do
  match ← stop? m with
  | none => return ⟨none, none, false⟩
  | some (.after _) | some (.multiple _) => wrong "invalid usage of +N or ~N as first address"
  | some (.point start) =>
    let _ ← takeWhile isBlank
    let stop ← match ← peek with
      | some ',' =>
        let _ ← next
        match ← stop? m with
        | some stop => pure (some stop)
        | none =>
          let _ ← next
          wrong "unexpected `,'"
      | _ => pure none
    match start, stop with
    | .line 0, some (.point (.matching _)) => return ⟨some start, stop, false⟩
    | .line 0, _ =>
      let _ ← nextVisible
      wrong "invalid usage of line address 0"
    | _, _ => return ⟨some start, stop, false⟩

/-! ## Substitutions -/

/-- The pieces of what is put in the place of a match. The number bounds its length. -/
def pieces : Nat → Bytes → List Piece
  | 0, _ => []
  | _, [] => []
  | n + 1, '&' :: rest => .group 0 :: pieces n rest
  | n + 1, '\\' :: c :: rest =>
    if c.isDigit then .group (c.toNat - 48) :: pieces n rest
    else
      match c with
      | 'L' => .letterCase .lower :: pieces n rest
      | 'U' => .letterCase .upper :: pieces n rest
      | 'E' => .letterCase .asItIs :: pieces n rest
      | 'l' => .nextCase .lower :: pieces n rest
      | 'u' => .nextCase .upper :: pieces n rest
      | _ =>
        match escapeAt? (c :: rest) with
        | some (found, rest) => .text [found] :: pieces n rest
        | none => .text [c] :: pieces n rest
  | n + 1, c :: rest => .text [c] :: pieces n rest

/-- What the letters after a substitution say. -/
structure Flags where
  ignoresCase : Bool
  hasLines : Bool
  isGlobal : Bool
  number : Nat
  prints : Bool
  runs : Bool
  target : Option Bytes
deriving DecidableEq, Inhabited

/-- Reads the letters after a substitution. The number bounds how many there are. -/
def flags (m : Manner) : Nat → Flags → Scan Flags
  | 0, f => return f
  | n + 1, f => do
    let read ← next
    if m.isSafe && (read = some 'e' || read = some 'w') then
      wrong "e/r/w commands disabled in sandbox mode"
    match read with
    | some 'i' | some 'I' => flags m n { f with ignoresCase := true }
    | some 'm' | some 'M' => flags m n { f with hasLines := true }
    | some 'e' => flags m n { f with runs := true }
    | some 'p' =>
      if f.prints then wrong "multiple `p' options to `s' command"
      flags m n { f with prints := true }
    | some 'g' =>
      if f.isGlobal then wrong "multiple `g' options to `s' command"
      flags m n { f with isGlobal := true }
    | some 'w' => return { f with target := some (← fileName) }
    | some ' ' | some '\t' => flags m n f
    | some '\x7d' | some '#' =>
      back
      return f
    | some '\n' | some ';' | none => return f
    | some c =>
      if c.isDigit then
        if 0 < f.number then wrong "multiple number options to `s' command"
        back
        match ← number with
        | 0 => wrong "number option to `s' command may not be zero"
        | k => flags m n { f with number := k }
      else wrong "unknown option to `s'"

/-- Reads a substitution after its letter. -/
def substitution (m : Manner) : Scan Substitution := do
  let why := "unterminated `s' command"
  match ← next with
  | none | some '\n' => wrong why
  | some mark =>
    let pattern ← untilMark mark true why
    let text ← untilMark mark false why
    let s ← get
    let f ← flags m (s.text.size + 1) ⟨false, false, false, 0, false, false, none⟩
    let e ← expression m f.ignoresCase f.hasLines pattern
    let ps := pieces (text.length + 1) text
    let highest := (ps.map fun
      | .group n => n
      | _ => 0).foldl max 0
    match e.regex with
    | some r =>
      if groupCount r < highest then
        wrong ("invalid reference \\" ++ toString highest ++ " on `s' command's RHS")
    | none => pure ()
    return ⟨e, ps, f.isGlobal, max 1 f.number, f.prints, f.runs, f.target⟩

/-- The characters of a translation, with its escapes replaced. The number bounds its length. -/
def translationText : Nat → Bytes → Bytes
  | 0, _ => []
  | _, [] => []
  | n + 1, '\\' :: '\\' :: rest => '\\' :: translationText n rest
  | n + 1, '\\' :: rest =>
    match escapeAt? rest with
    | some (c, rest) => c :: translationText n rest
    | none => '\\' :: translationText n rest
  | n + 1, c :: rest => c :: translationText n rest

/-- Reads a translation after its letter. -/
def translation : Scan Deed := do
  let why := "unterminated `y' command"
  match ← next with
  | none | some '\n' => wrong why
  | some mark =>
    let source ← untilMark mark false why
    let target ← untilMark mark false why
    let source := translationText (source.length + 1) source
    let target := translationText (target.length + 1) target
    if source.length ≠ target.length then
      wrong "strings for `y' command are different lengths"
    endOfOrder
    return .translate (source.zip target)

/-! ## Orders -/

/-- A number after an order, if there is one, and the end of the order. -/
def numberAndEnd : Scan (Option Nat) := do
  let _ ← takeWhile isBlank
  let digits ← takeWhile Char.isDigit
  endOfOrder
  return if digits = [] then none else some (digitsValue digits)

/-- What has been read of a script. -/
structure Draft where
  orders : Array Order
  labels : List (Bytes × Nat)
  /-- The orders that open blocks which are not closed yet, the innermost first, each with what is
  said about it if it never is. -/
  blocks : List (Nat × Bytes)
  isQuiet : Bool
  /-- Whether the text of the last order goes on in the next text of the script. -/
  isOpen : Bool
deriving Inhabited

/-- The draft with one more order. -/
def Draft.push (d : Draft) (a : Address) (deed : Deed) : Draft :=
  { d with orders := d.orders.push ⟨a, deed⟩ }

/-- A deed that is done with a text. -/
def textDeed (c : Char) (text : Bytes) : Deed :=
  match c with
  | 'a' => .append text
  | 'i' => .insert text
  | 'c' => .change text
  | _ => .run text

/-- A deed that has only a letter. -/
def plainDeed? : Char → Option Deed
  | '=' => some .number
  | 'd' => some .delete
  | 'D' => some .deleteFirst
  | 'F' => some .fileName
  | 'g' => some .get
  | 'G' => some .getMore
  | 'h' => some .hold
  | 'H' => some .holdMore
  | 'n' => some .next
  | 'N' => some .nextMore
  | 'p' => some .print
  | 'P' => some .printFirst
  | 'x' => some .exchange
  | 'z' => some .clear
  | _ => none

/-- Reads the order of a letter, whose address has been read. -/
def deed (m : Manner) (d : Draft) (a : Address) (c : Char) : Scan Draft := do
  let safely (read : Scan Draft) : Scan Draft :=
    if m.isSafe then wrong "e/r/w commands disabled in sandbox mode" else read
  match plainDeed? c with
  | some deed =>
    endOfOrder
    return d.push a deed
  | none =>
    match c with
    | '#' =>
      if a.start.isSome then wrong "comments don't accept any addresses"
      let s ← get
      let text ← takeWhile (· ≠ '\n')
      let isFirst := s.position = 1 && d.orders.isEmpty
      return if isFirst && text = ['n'] then { d with isQuiet := true } else d
    | 'v' =>
      let version ← label
      let isOld := version = [] || Bytes.isAtMost version "4.9".toList
      if !isOld then wrong "expected newer version of sed"
      endOfOrder
      return d
    | '\x7b' =>
      let s ← get
      let fault := Source.fault { s with position := 0 } "unmatched `\x7b'".toList
      let fault := match s.origin with
        | .argument _ => fault
        | .file _ => s.fault "unmatched `\x7b'".toList
      let d := { d with blocks := (d.orders.size, fault) :: d.blocks }
      return d.push a (.opening 0)
    | '\x7d' =>
      match d.blocks with
      | [] => wrong "unexpected `\x7d'"
      | (i, _) :: blocks =>
        if a.start.isSome then wrong "`\x7d' doesn't want any addresses"
        endOfOrder
        let orders := d.orders.modify i fun o => { o with deed := .opening d.orders.size }
        return { d with orders, blocks }.push ⟨none, none, false⟩ .nothing
    | 'e' => safely do
      let _ ← takeWhile isBlank
      match ← peek with
      | none | some '\n' =>
        let _ ← next
        return d.push a (.run [])
      | some _ =>
        let (text, _) ← lineText
        return d.push a (.run text)
    | 'a' | 'i' | 'c' =>
      let (text, isOpen) ← addedText
      return { d.push a (textDeed c text) with isOpen }
    | ':' =>
      if a.start.isSome then wrong ": doesn't want any addresses"
      let name ← label
      if name = [] then wrong "\":\" lacks a label"
      return { d with labels := (name, d.orders.size) :: d.labels }
    | 'b' | 't' | 'T' =>
      let kind : Leap := if c = 'b' then .always else if c = 't' then .ifChanged else .unlessChanged
      let name ← label
      return d.push a (.leap kind name)
    | 'q' | 'Q' =>
      if a.stop.isSome then wrong "command only uses one address"
      let status ← numberAndEnd
      return d.push a (.quit (status.getD 0) (c = 'Q'))
    | 'l' | 'L' =>
      return d.push a (.list (← numberAndEnd))
    | 'r' => safely do return d.push a (.putFile (← fileName))
    | 'R' => safely do return d.push a (.putLine (← fileName))
    | 'w' => safely do return d.push a (.write (← fileName))
    | 'W' => safely do return d.push a (.writeFirst (← fileName))
    | 's' => return d.push a (.substitute (← substitution m))
    | 'y' => return d.push a (← translation)
    | c => wrong ("unknown command: `" ++ String.ofList [c] ++ "'")

/-- Reads the orders of a text. The number bounds how many there are. -/
def orders (m : Manner) : Nat → Draft → Scan Draft
  | 0, d => return d
  | n + 1, d => do
    let _ ← takeWhile fun c => Text.isSpace c || c = ';'
    match ← peek with
    | none => return d
    | some _ =>
      let a ← address m
      match ← nextVisible with
      | none => wrong "missing command"
      | some '\n' => wrong "missing command"
      | some '!' =>
        match ← nextVisible with
        | some '!' => wrong "multiple `!'s"
        | none | some '\n' => wrong "missing command"
        | some c => orders m n (← deed m d { a with isNegated := true } c)
      | some c => orders m n (← deed m d a c)

/-- The draft with more text at the end of its last order. -/
def Draft.continued (d : Draft) (text : Bytes) : Draft :=
  let longer (deed : Deed) : Deed :=
    match deed with
    | .append t => .append (t ++ text)
    | .insert t => .insert (t ++ text)
    | .change t => .change (t ++ text)
    | deed => deed
  { d with
    orders := d.orders.modify (d.orders.size - 1) fun o => { o with deed := longer o.deed } }

/-- Reads one more text of a script. -/
def addText (m : Manner) (d : Draft) (s : Source) : Except Bytes Draft := do
  let (d, s) ← (if d.isOpen then
      (do
        let (text, isOpen) ← lineText
        return { d.continued (text ++ ['\n']) with isOpen } : Scan Draft)
    else pure d).run s
  let (d, _) ← (orders m (s.text.size + 1) d).run s
  return d

/-- Reads the texts of a script. -/
def readScript (m : Manner) (texts : List (Origin × Bytes)) : Except Bytes Script := do
  let d ← texts.foldlM
    (fun d (origin, text) => addText m d ⟨text.toArray, 0, origin⟩) ⟨#[], [], [], false, false⟩
  match d.blocks with
  | (_, fault) :: _ => throw fault
  | [] => return ⟨d.orders, d.labels, d.isQuiet⟩

end TokenConformance.Sandbox.Shell.Edit
