import TokenConformance.Sandbox.Shell.Fault

/-! # The words of a script

* `Within`: what the text that is being read stands in, which tells where it ends and which
  characters mean something else than themselves.
* `Nested`: how the commands inside a command substitution are read.
* `parts`: the parts of a text up to where it ends.
* `word`: a word of a command; `document`: a document up to the line that ends it.
-/

namespace TokenConformance.Sandbox.Shell

open Sandbox.Text (Bytes)

/-- What a text stands in. -/
inductive Within where
  | word
  | quotes
  /-- The braces of a parameter expansion, which may stand in quotes themselves. -/
  | braces (quoted : Bool)
  /-- An arithmetic expression inside some parentheses of its own. -/
  | arithmetic (depth : Nat)
  | document
deriving DecidableEq, Inhabited

/-- Whether characters that stand for themselves are quoted. -/
def Within.quotes? : Within → Bool
  | .word => false
  | .braces quoted => quoted
  | .quotes | .arithmetic _ | .document => true

/-- How the commands of a command substitution are read: up to a parenthesis, or all of a text. The
number of line ends in the text around them tells where they are. Aliases stand for the first words of
commands. -/
structure Nested where
  whole : Nat
  aliases : List (Bytes × Bytes)
  untilParenthesis : Nat → Reader Script
  all : Bytes → Except Fault Script

/-- Whether a character ends a word. -/
def endsWord (c : Char) : Bool :=
  c ∈ [' ', '\t', '\n', ';', '&', '|', '<', '>', '(', ')', lostMark]

/-- Whether a name may start with a character. -/
def startsName (c : Char) : Bool := c.isAlpha || c = '_'

/-- Whether a name may go on with a character. -/
def continuesName (c : Char) : Bool := c.isAlphanum || c = '_'

/-- Whether a text is a name. -/
def isName : Bytes → Bool
  | [] => false
  | c :: rest => startsName c && rest.all continuesName

/-- Whether a character is the name of a special parameter. -/
def isSpecial (c : Char) : Bool := c ∈ ['!', '*', '?', '@', '#', '-', '$'] || c.isDigit

/-- Whether a backslash takes the meaning from a character inside quotes. -/
def isEscapable (w : Within) (c : Char) : Bool :=
  c ∈ ['$', '`', '\\'] || (c = '"' && (w = .quotes || w = .braces true)) ||
    (c = '}' && w = .braces true)

/-- A text that is quoted as a whole. -/
def quotedParts (text : Bytes) : List Part :=
  if text = [] then [.nothing] else text.map (.char · true)

/-- The parts between two quotation marks. The marks count, but all parameters as fields of their own may
be no field at all. -/
def markedParts (ps : List Part) : List Part :=
  match ps with
  | [.parameter ['@'] .value true] => ps
  | _ => .nothing :: ps ++ [.nothing]

/-- The text of an old command substitution after its opening mark, and what follows it. -/
def backquoted (quoted : Bool) : Bytes → Option (Bytes × Bytes)
  | [] => none
  | '`' :: rest => some ([], rest)
  | '\\' :: c :: rest =>
    (backquoted quoted rest).map fun (text, rest) =>
      if c ∈ ['\\', '`', '$'] || (quoted && c = '"') then (c :: text, rest)
      else ('\\' :: c :: text, rest)
  | c :: rest => (backquoted quoted rest).map fun (text, rest) => (c :: text, rest)

/-! ## Expansions -/

/-- The name of a parameter inside braces, and what follows it. -/
def bracedName : Bytes → Bytes × Bytes
  | [] => ([], [])
  | c :: rest =>
    if startsName c then (c :: rest.takeWhile continuesName, rest.dropWhile continuesName)
    else if c.isDigit then (c :: rest.takeWhile Char.isDigit, rest.dropWhile Char.isDigit)
    else if isSpecial c then ([c], rest)
    else ([], c :: rest)

/-- What is done with a parameter without a value, by the character that asks for it. -/
def fallback? : Char → Option Fallback
  | '-' => some .use
  | '=' => some .assign
  | '?' => some .fail
  | '+' => some .instead
  | _ => none

section

variable (inner : Within → Reader (List Part))

/-- Reads what follows the name in a parameter expansion with braces. -/
def readUse (quoted : Bool) (cs : Bytes) : Except Fault (Use × Bytes) :=
  let invalid (cs : Bytes) := do
    let (_, rest) ← inner (.braces quoted) cs
    return (Use.invalid, rest)
  let withFallback (orEmpty : Bool) (cs : Bytes) :=
    match cs with
    | '\x7d' :: rest => do
      let (_, rest) ← inner (.braces quoted) rest
      return (Use.value, rest)
    | '\n' :: rest => invalid (rest ++ [lostMark])
    | c :: rest =>
      match fallback? c with
      | some kind => do
        let (word, rest) ← inner (.braces quoted) rest
        return (Use.fallback kind orEmpty word, rest)
      | none => invalid (if c = lostMark then c :: rest else rest)
    | [] => invalid []
  let withTrim (fromEnd longest : Bool) (cs : Bytes) := do
    let (pattern, rest) ← inner (.braces false) cs
    return (Use.trim fromEnd longest pattern, rest)
  match cs with
  | '}' :: rest => .ok (.value, rest)
  | ':' :: rest => withFallback true rest
  | '%' :: '%' :: rest => withTrim true true rest
  | '%' :: rest => withTrim true false rest
  | '#' :: '#' :: rest => withTrim false true rest
  | '#' :: rest => withTrim false false rest
  | _ => withFallback false cs

/-- What is left when a character has been taken for a name that it cannot be. A line end that is lost
in this way is not counted. -/
def withoutFirst : Bytes → Bytes
  | '\x7d' :: rest => '\x7d' :: rest
  | '\n' :: rest => rest ++ [lostMark]
  | c :: rest => if c = lostMark then c :: rest else rest
  | [] => []

/-- Reads a parameter expansion after its opening brace. -/
def readBraced (quoted : Bool) (cs : Bytes) : Except Fault (Part × Bytes) := do
  let plain := do
    let (name, rest) := bracedName cs
    if name = [] then
      let (_, rest) ← inner (.braces quoted) (withoutFirst cs)
      return (Part.parameter [] .invalid quoted, rest)
    else
      let (use, rest) ← readUse inner quoted rest
      return (Part.parameter name use quoted, rest)
  match cs with
  | '#' :: rest =>
    match bracedName rest with
    | (c :: name, '}' :: rest) => return (.parameter (c :: name) .length quoted, rest)
    | ([], c :: '}' :: rest) =>
      if c = '}' then plain else return (.parameter [] .invalid quoted, rest)
    | _ => plain
  | _ => plain

/-- Reads what follows a dollar sign. -/
def readDollar (nested : Nested) (quoted : Bool) (cs : Bytes) : Except Fault (Part × Bytes) :=
  match cs with
  | '(' :: '(' :: rest => do
    let (expression, rest) ← inner (.arithmetic 0) rest
    return (.arithmetic expression quoted, rest)
  | '(' :: rest => do
    let (script, rest) ← nested.untilParenthesis nested.whole rest
    return (.output script quoted, rest)
  | '{' :: rest => readBraced inner quoted rest
  | c :: rest =>
    if startsName c then
      .ok (.parameter (c :: rest.takeWhile continuesName) .value quoted,
        rest.dropWhile continuesName)
    else if isSpecial c then .ok (.parameter [c] .value quoted, rest)
    else .ok (.char '$' quoted, c :: rest)
  | [] => .ok (.char '$' quoted, [])

end

/-! ## Parts -/

/-- The line that ends a document, in which the tabs at the start of lines may not count. -/
structure Delimiter where
  text : Bytes
  strips : Bool
deriving DecidableEq, Inhabited

/-- A text at the start of a line of a document, if it stands in one. There is a mark before what
follows the last line. -/
def atLineStart (d : Option Delimiter) (cs : Bytes) : Bytes :=
  match d with
  | none => cs
  | some d =>
    let cs := if d.strips then cs.dropWhile (· = '\t') else cs
    let isInside (c : Char) : Bool := c ≠ '\n' && c ≠ lostMark
    if cs.takeWhile isInside ≠ d.text then cs
    else match cs.dropWhile isInside with
      | '\n' :: rest => endMark :: rest
      | rest => endMark :: rest

/-- The fault of a text that ends before it should. In a document, quotes need not be closed. -/
def Within.openReason? (inDocument : Bool) : Within → Option Reason
  | .word | .document => none
  | .quotes | .braces true => some (if inDocument then .openBrace else .openQuote)
  | .braces false => some .openBrace
  | .arithmetic _ => some .openArithmetic

/-- What is left when a text ends at its first character. -/
def Within.closed? : Within → Bytes → Option Bytes
  | .word, c :: rest => if endsWord c then some (c :: rest) else none
  | .document, c :: rest => if c = endMark then some rest else none
  | .quotes, '"' :: rest => some rest
  | .braces _, '}' :: rest => some rest
  | .arithmetic 0, ')' :: ')' :: rest => some rest
  | _, _ => none

/-- How many parentheses are open after a character. -/
def Within.after : Within → Char → Within
  | .arithmetic depth, '(' => .arithmetic (depth + 1)
  | .arithmetic depth, ')' => .arithmetic (depth - 1)
  | w, _ => w

/-- Whether quotation marks mean something. -/
def Within.hasMarks : Within → Bool
  | .word | .braces _ => true
  | .quotes | .arithmetic _ | .document => false

/-- Reads the parts of a text up to where it ends, which may be the line that ends a document. The number
bounds how many parts there are one after another or inside one another. -/
def parts (nested : Nested) (d : Option Delimiter) : Nat → Within → Reader (List Part)
  | 0, _, cs => .error ⟨.tooDeep, cs, none⟩
  | n + 1, w, cs =>
    let quoted := w.quotes?
    let go (w : Within) (before : List Part) (rest : Bytes) : Except Fault (List Part × Bytes) := do
      let (ps, rest) ← parts nested d n w rest
      return (before ++ ps, rest)
    match w.closed? cs with
    | some rest => .ok ([], rest)
    | none =>
      if isFinished cs || cs.head? = some endMark then
        match w.openReason? d.isSome with
        | some reason => .error ⟨reason, cs.filter (· ≠ endMark), none⟩
        | none => .ok ([], cs)
      else match cs with
      | [] => .ok ([], [])
      | '\n' :: rest => go w [.char '\n' quoted] (atLineStart d rest)
      | '\\' :: '\n' :: rest => go w [] rest
      | '\\' :: c :: rest =>
        if c = lostMark then go w [.char '\\' quoted] (c :: rest)
        else if !quoted || isEscapable w c then go w [.char c true] rest
        else go w [.char '\\' true] (c :: rest)
      | '\'' :: rest =>
        if !quoted then
          let text := (rest.takeWhile (· ≠ '\'')).filter (!isAliasMark ·)
          match rest.dropWhile (· ≠ '\'') with
          | [] => .error ⟨.openQuote, lostMarks rest, none⟩
          | _ :: rest => go w (quotedParts text) rest
        else go w [.char '\'' true] rest
      | '"' :: rest =>
        if w.hasMarks then do
          let (ps, rest) ← parts nested d n .quotes rest
          go w (markedParts ps) rest
        else go w [.char '"' true] rest
      | '`' :: rest =>
        match backquoted quoted rest with
        | none => .error ⟨.openBackquote, lostMarks rest, none⟩
        | some (text, rest) => do
          let script ← nested.all text
          go w [.output script quoted] rest
      | '$' :: rest => do
        let (part, rest) ← readDollar (parts nested d n) nested quoted rest
        go w [part] rest
      | c :: rest =>
        if isAliasMark c then go w [] rest else go (w.after c) [.char c quoted] rest

/-- Reads a word. -/
def word (nested : Nested) : Reader Word := fun cs => parts nested none (cs.length + 1) .word cs

/-- Reads the parts of a document in which expansions take place, up to the line that ends it, if there
is one. -/
def document (nested : Nested) (d : Option Delimiter) : Reader (List Part) := fun cs =>
  parts nested d (cs.length + 1) .document (atLineStart d cs)

/-- A word without quotes as a text. -/
def plainText? (w : Word) : Option Bytes :=
  w.mapM fun
    | .char c false => some c
    | _ => none

end TokenConformance.Sandbox.Shell
