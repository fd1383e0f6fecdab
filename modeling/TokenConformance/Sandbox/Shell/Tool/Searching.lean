import TokenConformance.Sandbox.Shell.Pattern
import TokenConformance.Sandbox.Shell.Tool.Lines
import TokenConformance.Sandbox.Shell.Tool.Making
import TokenConformance.Sandbox.Text.Attempt.Reader

/-! # A program that looks for patterns in files

* `Expression`, `Matcher`: what is looked for in a line; `Matcher.parts` are the parts of a line that match.
* `Search`: how patterns are looked for and what is shown.
* `Search.shown`: what is written about the lines of a file.
* `Search.inFile`: looks through a file; `Search.inTree` looks through a directory as well.
* `grep`: looks for patterns in files.
-/

namespace TokenConformance.Sandbox.Shell.Tool

open Sandbox.Text (Attempt Bytes Regex Subject isWordChar)
open Sandbox (Kind)

/-! ## Matches -/

/-- Which part of a line has to match. -/
inductive Extent where
  | anything
  | words
  | lines
deriving DecidableEq, Inhabited

/-- An expression of either kind. -/
inductive Expression where
  /-- The longest match counts. -/
  | longest (r : Regex) (extent : Extent)
  /-- The first way of matching counts. -/
  | tried (r : Attempt)
deriving Inhabited

/-- An expression that matches only as much as is wanted. -/
def Expression.trying (extent : Extent) (r : Attempt) : Expression :=
  let word : Attempt := .one (.word false)
  match extent with
  | .anything => .tried r
  | .words =>
    .tried (.join (.look true (.join (.back 1) word)) (.join r (.look true word)))
  | .lines => .tried (.join (.assert .lineStart) (.join r (.assert .lineEnd)))

/-- What is looked for in a line. -/
structure Matcher where
  expression : Expression
deriving Inhabited

namespace Matcher

/-- The end of a match of whole words that starts at a position. Only the longest match may be
empty. -/
def wordEnd? (r : Regex) (s : Subject) (i : Nat) : Option Nat :=
  let isApart (j : Nat) : Bool := !s.wordBefore i && !s.wordAfter j
  match (r.ends s i).reverse with
  | [] => none
  | longest :: others =>
    if isApart longest then some longest else others.find? fun j => i < j && isApart j

/-- The first match of an expression from a position on. The number bounds how many positions there
are. -/
def findLongest? (r : Regex) (extent : Extent) (s : Subject) : Nat → Nat → Option Text.Span
  | 0, _ => none
  | n + 1, i =>
    let found := match extent with
      | .anything => (r.ends s i).getLast?
      | .words => wordEnd? r s i
      | .lines => if i = 0 then (r.ends s 0).find? (· = s.text.size) else none
    match found with
    | some j => some (i, j)
    | none => if extent = .lines then none else findLongest? r extent s n (i + 1)

/-- The first match from a position on. The number bounds how many positions there are. -/
def findFrom? (p : Matcher) (s : Subject) (n i : Nat) : Option Text.Span :=
  match p.expression with
  | .longest r extent => findLongest? r extent s n i
  | .tried r => r.findFrom? { s with hasLines := true } i n i

/-- Whether a line matches. -/
def isIn (p : Matcher) (line : Bytes) : Bool :=
  (p.findFrom? ⟨line.toArray, false⟩ (line.length + 1) 0).isSome

/-- The parts of a line that match and are not empty. The number bounds how many there are. -/
def partsFrom (p : Matcher) (s : Subject) : Nat → Nat → List Text.Span
  | 0, _ => []
  | n + 1, i =>
    match p.findFrom? s (s.text.size + 1 - i) i with
    | none => []
    | some (start, finish) =>
      if start < finish then (start, finish) :: partsFrom p s n finish
      else partsFrom p s n (start + 1)

/-- The parts of a line that match and are not empty. -/
def parts (p : Matcher) (line : Bytes) : List Text.Span :=
  p.partsFrom ⟨line.toArray, false⟩ (line.length + 2) 0

end Matcher

/-! ## Patterns -/

/-- Whether brackets look like a class of characters that is not between brackets. -/
def looksLikeClass (text : Bytes) : Bool :=
  let inner := if text.head? = some '^' then text.drop 1 else text
  match inner, inner.getLast? with
  | ':' :: rest, some ':' =>
    let name := rest.dropLast
    name.any (· ≠ ':') && name.all fun c => c ≠ '-' && c ≠ '['
  | _, _ => false

/-- Whether a class of characters stands alone in an expression, which is a mistake. The number bounds
its length. -/
def hasLoneClass : Nat → Bytes → Bool
  | 0, _ => false
  | _, [] => false
  | n + 1, '\\' :: _ :: rest => hasLoneClass n rest
  | n + 1, '[' :: rest =>
    let sign := if rest.head? = some '^' then 1 else 0
    let first := if (rest.drop sign).head? = some ']' then sign + 1 else sign
    match (Regex.bracket? ⟨true, false, true, false⟩ rest).toOption with
    | some (_, after) =>
      let inner := rest.take (rest.length - after.length - 1)
      (first = sign && looksLikeClass inner) || hasLoneClass n after
    | none => false
  | n + 1, _ :: rest => hasLoneClass n rest

/-- A text in which nothing has a meaning, as an expression. -/
def literally (ignoresCase : Bool) (text : Bytes) : Regex :=
  match text.map fun c => Regex.one (.single ignoresCase c) with
  | [] => .empty
  | r :: rs => rs.foldl .join r

/-- An expression that matches what one of some others matches. -/
def anyOf : List Regex → Regex
  | [] => .one ⟨false, [], false⟩
  | r :: rs => rs.foldl .either r

/-- The expression of a pattern whose ways of matching are tried in turn. -/
def triedPattern (ignoresCase : Bool) (extent : Extent) (patterns : List Bytes) :
    Except String Expression :=
  match patterns with
  | [] => .ok (.longest (anyOf []) extent)
  | [pattern] => do return .trying extent (← Attempt.read ignoresCase pattern)
  | _ => .error "the -P option only supports a single pattern"

/-- The expression of some patterns, with what there is to say about it. -/
def patternOf (isFixed isExtended ignoresCase : Bool) (patterns : List Bytes) :
    Except String (Regex × List String) := do
  if isFixed then return (anyOf (patterns.map (literally ignoresCase)), [])
  if patterns = [] then return (anyOf [], [])
  let text := Bytes.joined ['\n'] patterns
  let read ← Regex.read ⟨isExtended, ignoresCase, true, false⟩ text
  if patterns.any fun p => hasLoneClass (p.length + 1) p then
    throw "character class syntax is [[:space:]], not [:space:]"
  return read

/-! ## Searches -/

/-- What is shown of a file. -/
inductive Showing where
  | lines
  | parts
  | count
  | names
  | otherNames
  | nothing
deriving DecidableEq, Inhabited

/-- How patterns are looked for and what is shown. -/
structure Search where
  matcher : Matcher
  isInverted : Bool
  showing : Showing
  most : Option Nat
  before : Nat
  after : Nat
  /-- What stands between groups of lines that do not follow one another. -/
  separator : Option Bytes
  hasNames : Bool
  hasNumbers : Bool
  hasOffsets : Bool
  hasTabs : Bool
  hasColours : Bool
  /-- Whether a zero byte ends the names of files. -/
  endsNames : Bool
  /-- What ends a line. -/
  mark : Char
  /-- What is done with a file that has zero bytes: a key of the option for that. -/
  binary : String
  isQuiet : Bool
  /-- What files are skipped. -/
  included : List Bytes
  excluded : List Bytes
  excludedDirectories : List Bytes
  label : Bytes
deriving Inhabited

/-- A line with its number, its position, and whether it is one of those that are looked for. -/
structure Line where
  number : Nat
  offset : Nat
  text : Bytes
  isSelected : Bool
deriving DecidableEq, Inhabited

/-- Numbered lines with their positions. -/
def positioned (isSelected : Bytes → Bool) : Nat → Nat → List Bytes → List Line
  | _, _, [] => []
  | number, offset, text :: rest =>
    ⟨number, offset, text, isSelected text⟩ ::
      positioned isSelected (number + 1) (offset + text.length + 1) rest

namespace Search

/-- A text in a colour. -/
def painted (s : Search) (colour : String) (text : Bytes) : Bytes :=
  if s.hasColours && text ≠ [] then
    "\x1b[".toList ++ colour.toList ++ "m\x1b[K".toList ++ text ++ "\x1b[m\x1b[K".toList
  else text

/-- The mark after something that stands before a line. -/
def sign (s : Search) (isSelected : Bool) : Bytes :=
  s.painted "36" [if isSelected then ':' else '-']

/-- What stands before a line, or before a part of it that starts at a position. -/
def head (s : Search) (name : Bytes) (width : Nat) (l : Line) (offset : Nat) : Bytes :=
  let sign := s.sign l.isSelected
  let number (n : Nat) : Bytes :=
    s.painted "32" (if s.hasTabs then paddedNumber width n else Bytes.ofInt n) ++ sign
  (if s.hasNames then
      s.painted "35" name ++ (if s.endsNames then ['\x00'] else sign) else []) ++
    (if s.hasNumbers then number l.number else []) ++
    (if s.hasOffsets then number offset else []) ++
    (if s.hasTabs && (s.hasNames || s.hasNumbers || s.hasOffsets) && l.text ≠ [] then ['\t']
      else [])

/-- A line with its matches in a colour. -/
def coloured (s : Search) (text : Bytes) : Bytes :=
  let rec go : Nat → List Text.Span → Bytes
    | i, [] => text.drop i
    | i, (start, finish) :: rest =>
      (text.drop i).take (start - i) ++
        s.painted "01;31" ((text.drop start).take (finish - start)) ++ go finish rest
  go 0 (s.matcher.parts text)

/-- A line, or the parts of it that match. -/
def lineText (s : Search) (name : Bytes) (width : Nat) (l : Line) : Bytes :=
  let isMatch := l.isSelected != s.isInverted
  if s.showing = .parts then
    if !isMatch then []
    else (s.matcher.parts l.text).flatMap fun (start, finish) =>
      s.head name width l (l.offset + start) ++
        s.painted "01;31" ((l.text.drop start).take (finish - start)) ++ [s.mark]
  else
    s.head name width l l.offset ++
      (if s.hasColours && isMatch then s.coloured l.text else l.text) ++ [s.mark]

/-- The lines that are shown with those around them, in groups that follow one another. `due` is how
many lines are shown after the last one that was looked for. -/
def chosen (s : Search) : List Line → List Line → Nat → Nat → List Line
  | [], _, _, _ => []
  | l :: rest, held, due, left =>
    if l.isSelected && 0 < left then
      held.reverse ++ l :: chosen s rest [] s.after (left - 1)
    else
      let l := { l with isSelected := false }
      if 0 < due then l :: chosen s rest [] (due - 1) left
      else if left = 0 then []
      else chosen s rest ((l :: held).take s.before) 0 left

/-- What is written about some lines. The flag tells whether anything has been written before. -/
def grouped (s : Search) (name : Bytes) (width : Nat) : Option Nat → Bool → List Line → Bytes
  | _, _, [] => []
  | last, hasOutput, l :: rest =>
    let isApart := (0 < s.before || 0 < s.after) && hasOutput && last ≠ some l.number
    let between : Bytes := match s.separator with
      | some text => if isApart then s.painted "36" text ++ ['\n'] else []
      | none => []
    between ++ s.lineText name width l ++ grouped s name width (some (l.number + 1)) true rest

/-- What is written about the lines of a file. -/
def shown (s : Search) (name : Bytes) (width : Nat) (hasOutput : Bool) (ls : List Line) : Bytes :=
  s.grouped name width none hasOutput (s.chosen ls [] 0 (s.most.getD ls.length))

/-- What has been found: whether something was, whether something failed, and whether lines have been
written. -/
structure Outcome where
  isFound : Bool
  hasFailed : Bool
  hasOutput : Bool
deriving DecidableEq, Inhabited

/-- Looks through a text. -/
def inText (s : Search) (c : Call) (name : Bytes) (width : Nat) (content : Bytes) (o : Outcome) :
    Action Outcome := do
  let isBinary := s.mark = '\n' && s.binary ≠ "text" && content.contains '\x00'
  if isBinary && s.binary = "without-match" then return o
  let content := if isBinary then content.map fun c => if c = '\x00' then '\n' else c else content
  let parts := content.splitOn s.mark
  let texts := if parts.getLast? = some [] then parts.dropLast else parts
  let isSelected (text : Bytes) : Bool := s.matcher.isIn text != s.isInverted
  let ls := positioned isSelected 1 0 texts
  let count := min (ls.filter (·.isSelected)).length (s.most.getD ls.length)
  let isFound := 0 < count
  let o := { o with isFound := o.isFound || isFound }
  let nameLine : Bytes := s.painted "35" name ++ [if s.endsNames then '\x00' else '\n']
  match s.showing with
  | .nothing => return o
  | .count =>
    let before : Bytes :=
      if s.hasNames then
        s.painted "35" name ++ if s.endsNames then ['\x00'] else s.sign true
      else []
    print (before ++ Bytes.ofInt count ++ ['\n'])
    return o
  | .names =>
    if isFound then print nameLine
    return o
  | .otherNames =>
    if !isFound then print nameLine
    return o
  | .lines | .parts =>
    if isBinary then
      if isFound then
        flush
        c.say (name ++ ": binary file matches".toList)
      return o
    let text := s.shown name width o.hasOutput ls
    print text
    return { o with hasOutput := o.hasOutput || isFound }

/-- Whether the name of a file is one that is looked at. -/
def isWanted (s : Search) (path : Bytes) : Bool :=
  let fits (pattern : Bytes) : Bool := Pattern.fits pattern path || Pattern.fits pattern (baseOf path)
  if s.excluded.any fits then false else s.included = [] || s.included.any fits

/-- Looks through a file, which may have another name where it is shown. -/
def inFile (s : Search) (c : Call) (shown path : Bytes) (o : Outcome) : Action Outcome := do
  let m ← get
  let isInput := path = ['-']
  let name := if isInput then s.label else shown
  let number? : Option Nat :=
    if isInput then
      match m.connected? 0 with
      | some (.file n _ _) => some n
      | _ => none
    else ((m.nodeOf path).toOption).map (·.1)
  let isOutput := match m.connected? 1 with
    | some (.file n _ _) => number? = some n
    | _ => false
  if isOutput && (s.showing = .lines || s.showing = .parts) && s.most.all (1 < ·) then
    c.say (name ++ ": input file is also the output".toList)
    return { o with hasFailed := true }
  match ← Call.contentOf path with
  | .error e =>
    if !s.isQuiet then c.say (shown ++ ": ".toList ++ describe e)
    let isTold := s.showing = .count || s.showing = .otherNames
    let o ← if e = .isADirectory && isTold then s.inText c path 1 [] o else pure o
    return { o with hasFailed := true }
  | .ok content =>
    let size := match number? with
      | some n => Nat.toDigits 10 (m.contentOf n).length
      | none => []
    s.inText c name (if size = [] then 19 else size.length) content o

/-- Looks through a directory, if that is wanted, or a file. The number bounds how deep directories
are. -/
def inTree (s : Search) (c : Call) (followsLinks : Bool) : Nat → Bool → Bytes → Bytes → Outcome →
    Action Outcome
  | 0, _, _, _, o => return o
  | n + 1, isGiven, shown, path, o => do
    let m ← get
    let isLink := match m.kindNamed? path with
      | some (.link _) => true
      | _ => false
    if isLink && !followsLinks && !isGiven then return o
    match m.kind? path with
    | some .directory =>
      let isSkipped := s.excludedDirectories.any fun pattern =>
        Pattern.fits (withoutSlashes pattern) (baseOf path) && !(isGiven && path = ['.'])
      if isSkipped then return o
      let place := (m.find path).toOption.getD []
      let names := (m.files.names place).mergeSort Bytes.isAtMost
      names.foldlM (fun o name =>
        inTree s c followsLinks n false (pathIn shown name) (pathIn path name) o) o
    | some (.device _) => if isGiven then s.inFile c shown path o else return o
    | _ =>
      if !s.isWanted path then return o
      s.inFile c shown path o

end Search

/-! ## The program -/

/-- How to call the program, and how to find out about it. -/
def searchUsage (c : Call) : Action Nat := do
  complain (filled "Usage: % [OPTION]... PATTERNS [FILE]..." [c.name])
  complain c.hint
  return 2

/-- The options of the program. -/
def searchForms : List OptionForm :=
  [flag 'E' "extended-regexp", flag 'F' "fixed-strings", flag 'G' "basic-regexp",
    flag 'P' "perl-regexp", valued 'e' "regexp", valued 'f' "file", flag 'i' "ignore-case",
    flag 'y' "", longFlag "no-ignore-case", flag 'w' "word-regexp", flag 'x' "line-regexp",
    flag 'z' "null-data", flag 's' "no-messages", flag 'v' "invert-match", flag 'V' "",
    valued 'm' "max-count", flag 'b' "byte-offset", flag 'n' "line-number",
    longFlag "line-buffered", flag 'H' "with-filename", flag 'h' "no-filename",
    longValued "label", flag 'o' "only-matching", flag 'q' "quiet", longFlag "silent",
    longValued "binary-files", flag 'a' "text", flag 'I' "", valued 'd' "directories",
    valued 'D' "devices", flag 'r' "recursive", flag 'R' "dereference-recursive",
    longValued "include", longValued "exclude", longValued "exclude-from",
    longValued "exclude-dir", flag 'L' "files-without-match", flag 'l' "files-with-matches",
    flag 'c' "count", flag 'T' "initial-tab", flag 'Z' "null", valued 'B' "before-context",
    valued 'A' "after-context", valued 'C' "context", longValued "group-separator",
    longFlag "no-group-separator", longVariant "color", longVariant "colour", flag 'U' "binary",
    flag 'u' "unix-byte-offsets"]

/-- Arguments in which a number alone gives how many lines around a match are shown. -/
def withContextNumbers (arguments : List Bytes) : List Bytes :=
  let (options, others) := (arguments.takeWhile (· ≠ ['-', '-']),
    arguments.dropWhile (· ≠ ['-', '-']))
  let rec go : List Bytes → List Bytes
    | [] => []
    | a :: rest =>
      match a with
      | '-' :: c :: cs =>
        let plain := (c :: cs).takeWhile fun c => c ∉ "-efmABCdD".toList
        let digits := plain.filter Char.isDigit
        let letters := plain.filter (fun c => !c.isDigit) ++ (c :: cs).drop plain.length
        let number : List Bytes := if digits = [] then [] else ["-C".toList ++ digits]
        let own : List Bytes := if letters = [] then [] else ['-' :: letters]
        let takesNext := plain.length + 1 = (c :: cs).length
        if takesNext then
          match rest with
          | value :: rest => number ++ own ++ value :: go rest
          | [] => number ++ own
        else number ++ own ++ go rest
      | _ => a :: go rest
  go options ++ others

/-- The patterns that options or the first operand give, and the other operands. -/
def givenPatterns (c : Call) (g : Given) : Action (Except Nat (List Bytes × List Bytes)) := do
  let sources := g.options.filter fun o => o.1 = "e" || o.1 = "f"
  if sources = [] then
    match g.operands with
    | [] => return .error (← searchUsage c)
    | pattern :: rest => return .ok (pattern.splitOn '\n', rest)
  let mut patterns : List Bytes := []
  for (key, value) in sources do
    if key = "e" then patterns := patterns ++ value.splitOn '\n'
    else
      match ← Call.contentOf value with
      | .ok content => patterns := patterns ++ Bytes.lines content
      | .error e => return .error (← c.fail 2 (value ++ ": ".toList ++ describe e))
  return .ok (patterns, g.operands)

/-- Looks for patterns in files. -/
def searching (kind : Option String) : Tool := fun call => do
  let c : Call := { call with
    name := if kind.isSome then "grep".toList else call.name
    arguments := withContextNumbers call.arguments }
  let given := Given.ofArguments (searchForms ++ Call.commonForms) false (c.arguments.length + 1)
    c.arguments
  match given.fault with
  | some text =>
    c.say text
    return ← searchUsage c
  | none => pure ()
  if given.has "V" || given.has "version" then
    print (c.versionLine ++ ['\n'])
    return 0
  c.withOptionsUpTo false 2 searchForms fun g => do
    let kinds := (g.options.map (·.1)).filter fun k => k ∈ ["E", "F", "G", "P"]
    let kind := (kinds.head?.or kind).getD "G"
    if kinds.any (· ≠ kind) then return ← c.fail 2 "conflicting matchers specified".toList
    for key in ["A", "B", "C"] do
      for text in g.values key do
        if (digitsValue? text).isNone then
          return ← c.fail 2 (text ++ ": invalid context length argument".toList)
    for text in g.values "m" do
      if (integer? text).isNone then return ← c.fail 2 "invalid max count".toList
    let binaryKinds := ["binary", "text", "without-match"]
    for text in g.values "binary-files" do
      if !binaryKinds.any fun k => k.toList = text then
        return ← c.fail 2 "unknown binary-files type".toList
    let actions := ["read", "recurse", "skip"]
    match (g.values "d").find? fun text => !actions.any fun k => k.toList = text with
    | some text =>
      c.say (filled "invalid argument % for '--directories'" [inSingleQuotes text])
      complain "Valid arguments are:".toList
      for k in actions do
        complain ("  - ".toList ++ inSingleQuotes k.toList)
      let _ ← searchUsage c
      return 1
    | none => pure ()
    if g.has "u" then c.say "warning: --unix-byte-offsets (-u) is obsolete".toList
    match ← givenPatterns c g with
    | .error status => return status
    | .ok (patterns, operands) =>
      let ignoresCase := g.lastOf? ["i", "y", "no-ignore-case"] |>.any (· ≠ "no-ignore-case")
      let extent : Extent := if g.has "x" then .lines else if g.has "w" then .words else .anything
      let read : Except String (Expression × List String) :=
        if kind = "P" then do return (← triedPattern ignoresCase extent patterns, [])
        else do
          let (r, warnings) ← patternOf (kind = "F") (kind = "E") ignoresCase patterns
          return (.longest r extent, warnings)
      match read with
      | .error text => c.fail 2 text.toList
      | .ok (expression, warnings) =>
        for text in warnings do
          c.say ("warning: ".toList ++ text.toList)
        let number (keys : List String) : Option Nat :=
          ((g.lastOf? keys).bind g.value?).bind digitsValue?
        let isDeep := g.has "r" || g.has "R" || g.value? "d" = some "recurse".toList
        let listed := g.lastOf? ["l", "L"]
        let showing : Showing :=
          if g.has "q" || g.has "silent" then .nothing
          else if listed = some "l" then .names
          else if listed = some "L" then .otherNames
          else if g.has "c" then .count
          else if g.has "o" then .parts
          else .lines
        let m ← get
        let hasNames := match g.lastOf? ["H", "h"] with
          | some "H" => true
          | some _ => false
          | none =>
            let isSingle := match operands with
              | [] => !isDeep
              | [path] => !(isDeep && m.isDirectory path)
              | _ => false
            !isSingle
        let colour := (g.value? "color").orElse fun _ => g.value? "colour"
        let s : Search :=
          { matcher := ⟨expression⟩
            isInverted := g.has "v"
            showing
            most := ((g.value? "m").bind integer?).bind fun n => if n < 0 then none else some n.toNat
            before := (number ["B"]).getD ((number ["C"]).getD 0)
            after := (number ["A"]).getD ((number ["C"]).getD 0)
            separator := if g.has "no-group-separator" then none
              else some ((g.value? "group-separator").getD ['-', '-'])
            hasNames
            hasNumbers := g.has "n"
            hasOffsets := g.has "b"
            hasTabs := g.has "T"
            hasColours := colour = some "always".toList
            endsNames := g.has "Z"
            mark := if g.has "z" then '\x00' else '\n'
            binary := match g.lastOf? ["a", "I", "binary-files"] with
              | some "a" => "text"
              | some "I" => "without-match"
              | some _ => String.ofList ((g.value? "binary-files").getD [])
              | none => "binary"
            isQuiet := g.has "s"
            included := g.values "include"
            excluded := g.values "exclude"
            excludedDirectories := g.values "exclude-dir"
            label := (g.value? "label").getD "(standard input)".toList }
        let start : Search.Outcome := ⟨false, false, false⟩
        if s.most = some 0 then return 1
        let isSkipping := g.value? "d" = some "skip".toList
        let one (o : Search.Outcome) (path : Bytes) : Action Search.Outcome := do
          if s.showing = .nothing && o.isFound then return o
          if path = ['-'] then s.inFile c path path o
          else if isSkipping && (← get).isDirectory path then return o
          else if isDeep then s.inTree c (g.has "R") mostDirectories true path path o
          else if s.isWanted path then s.inFile c path path o
          else return o
        let o ←
          if operands = [] then
            if isDeep then s.inTree c (g.has "R") mostDirectories true [] ['.'] start
            else one start ['-']
          else operands.foldlM one start
        return if o.hasFailed && !(s.showing = .nothing && o.isFound) then 2
          else if o.isFound then 0 else 1
where
  /-- How deep directories may be. -/
  mostDirectories : Nat := 200

/-- Looks for basic expressions in files. -/
def grep : Tool := searching none

/-- Looks for extended expressions in files. -/
def egrep : Tool := searching (some "E")

/-- Looks for texts in files. -/
def fgrep : Tool := searching (some "F")

end TokenConformance.Sandbox.Shell.Tool
