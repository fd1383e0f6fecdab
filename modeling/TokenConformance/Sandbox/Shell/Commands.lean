import TokenConformance.Sandbox.Shell.Words

/-! # The commands of a script

* `Token`: a word or an operator.
* `token`: reads a token; blanks, comments and joined lines before it are skipped.
* `withAlias`: a text with another first word.
* `simple`, `command`, `pipeline`, `andOr`: the commands, from the smallest to the largest.
* `commandList`: a list of commands.
* `nextLine`: the commands of the next line, which are run before the next one is read.
-/

namespace TokenConformance.Sandbox.Shell

open Sandbox.Text (Bytes)

/-! ## Tokens -/

/-- How a redirection is written. -/
inductive Arrow where
  | plain (connection : Connection)
  /-- A document in the following lines, with or without the tabs at their start. -/
  | document (strip : Bool)
deriving DecidableEq, Inhabited

/-- A word or an operator. -/
inductive Token where
  | finish
  | newLine
  | word (w : Word)
  | semicolon
  | doubleSemicolon
  | ampersand
  | both
  | either
  | pipe
  | openParenthesis
  | closeParenthesis
  | redirection (descriptor : Nat) (arrow : Arrow)
deriving Inhabited

/-- A text without the blanks, comments and joined lines at its start. -/
def skipBlanks : Bytes → Bytes
  | ' ' :: rest => skipBlanks rest
  | '\t' :: rest => skipBlanks rest
  | '\\' :: '\n' :: rest => skipBlanks rest
  | '#' :: rest => rest.dropWhile fun c => c ≠ '\n' && c ≠ lostMark
  | c :: rest => if c = lineMark || isAliasMark c then skipBlanks rest else c :: rest
  | [] => []

/-- The arrow at the start of a text, with the descriptor that it is about by itself. -/
def arrow? : Bytes → Option ((Nat × Arrow) × Bytes)
  | '<' :: '<' :: '-' :: rest => some ((0, .document true), rest)
  | '<' :: '<' :: rest => some ((0, .document false), rest)
  | '<' :: '&' :: rest => some ((0, .plain .duplicate), rest)
  | '<' :: '>' :: rest => some ((0, .plain .updating), rest)
  | '<' :: rest => some ((0, .plain .reading), rest)
  | '>' :: '>' :: rest => some ((1, .plain .appending), rest)
  | '>' :: '&' :: rest => some ((1, .plain .duplicate), rest)
  | '>' :: '|' :: rest => some ((1, .plain .replacing), rest)
  | '>' :: rest => some ((1, .plain .writing), rest)
  | _ => none

/-- The redirection at the start of a text, with its descriptor. -/
def redirection? : Bytes → Option (Token × Bytes)
  | d :: rest =>
    if d.isDigit then
      (arrow? rest).map fun ((_, a), rest) => (.redirection (d.toNat - '0'.toNat) a, rest)
    else (arrow? (d :: rest)).map fun ((n, a), rest) => (.redirection n a, rest)
  | [] => none

/-- Reads a token. -/
def token (nested : Nested) : Reader Token := fun cs =>
  match skipBlanks cs with
  | [] => .ok (.finish, [])
  | '\n' :: rest => .ok (.newLine, rest)
  | '&' :: '&' :: rest => .ok (.both, rest)
  | '&' :: rest => .ok (.ampersand, rest)
  | '|' :: '|' :: rest => .ok (.either, rest)
  | '|' :: rest => .ok (.pipe, rest)
  | ';' :: ';' :: rest => .ok (.doubleSemicolon, rest)
  | ';' :: rest => .ok (.semicolon, rest)
  | '(' :: rest => .ok (.openParenthesis, rest)
  | ')' :: rest => .ok (.closeParenthesis, rest)
  | cs =>
    if isFinished cs then .ok (.finish, cs)
    else match redirection? cs with
    | some found => .ok found
    | none => do
      let (w, rest) ← word nested cs
      return (.word w, rest)

/-- The words that mean something where a command may start. -/
def keywords : List String :=
  ["!", "case", "do", "done", "elif", "else", "esac", "fi", "for", "if", "in", "then", "until",
    "while", "\x7b", "\x7d"]

/-- A text whose first word is replaced if it is an alias, and so is the first word of what replaces
it. No alias is replaced inside its own text. The number bounds how often that happens. -/
def withAlias (aliases : List (Bytes × Bytes)) : Nat → Bytes → Bytes
  | 0, cs => cs
  | n + 1, cs =>
    let isQuote (c : Char) : Bool := c ∈ ['\'', '"', '\\', '$', '`']
    let start := skipBlanks cs
    let name := start.takeWhile fun c => !(endsWord c || isQuote c || isAliasMark c)
    let rest := start.drop name.length
    let isKeyword := keywords.any fun k => k.toList = name
    let i := aliases.findIdx fun a => a.1 = name
    match aliases[i]? with
    | none => cs
    | some (_, value) =>
      let isInUse := rest.contains (aliasMark i true) || rest.contains (aliasMark i false)
      if isKeyword || isInUse || rest.head?.any isQuote then cs
      else
        let goesOn := value.getLast? = some ' ' || value.getLast? = some '\t'
        withAlias aliases n (value ++ aliasMark i goesOn :: rest)

/-- A text whose first word is replaced if it is an alias. -/
def Nested.withAlias (nested : Nested) (cs : Bytes) : Bytes :=
  if nested.aliases = [] then cs
  else Shell.withAlias nested.aliases (nested.aliases.length + 1) cs

/-- Whether the next word may be an alias as it follows one. -/
def followsAlias : Bytes → Bool
  | c :: rest =>
    isOpenMark c || ((c = ' ' || c = '\t' || c = lineMark || isAliasMark c) && followsAlias rest)
  | [] => false

/-- The keyword that a token is where a command may start. -/
def Token.keyword? : Token → Option String
  | .word w => (plainText? w).bind fun text => keywords.find? fun k => k.toList = text
  | _ => none

/-- What a fault calls a token, which counts as a keyword only where one may stand. -/
def Token.name (atStart : Bool) (t : Token) : String :=
  let quoted (s : String) := "\"" ++ s ++ "\""
  match t with
  | .finish => "end of file"
  | .newLine => "newline"
  | .word _ =>
    match t.keyword? with
    | some k => if atStart then quoted k else "word"
    | none => "word"
  | .semicolon => quoted ";"
  | .doubleSemicolon => quoted ";;"
  | .ampersand => quoted "&"
  | .both => quoted "&&"
  | .either => quoted "||"
  | .pipe => quoted "|"
  | .openParenthesis => quoted "("
  | .closeParenthesis => quoted ")"
  | .redirection .. => "redirection"

/-- The fault of a token that must not stand where it does. -/
def unexpected {α : Type} (t : Token) (rest : Bytes) (expected : Option String) (atStart : Bool) :
    Except Fault α :=
  .error ⟨.unexpected (t.name atStart) (expected.map fun s => "\"" ++ s ++ "\""), rest, none⟩

/-- A text without the line ends, and all that may stand between them, at its start. -/
def skipLines : Nat → Bytes → Bytes
  | 0, cs => cs
  | n + 1, cs =>
    match skipBlanks cs with
    | '\n' :: rest => skipLines n rest
    | cs => cs

/-- Where a list of commands ends. -/
inductive Ending where
  /-- At the end of a line. -/
  | line
  /-- At a token that cannot start a command, after one command at least. -/
  | needed
  /-- At a token that cannot start a command. -/
  | free
deriving DecidableEq, Inhabited

/-- Whether a token ends a list of commands. -/
def Token.endsList (t : Token) : Bool :=
  match t with
  | .finish | .doubleSemicolon | .closeParenthesis => true
  | _ =>
    match t.keyword? with
    | some k => k ∈ ["do", "done", "elif", "else", "esac", "fi", "then", "\x7d"]
    | none => false

/-! ## Redirections -/

/-- The lines of a document up to the one that ends it, and what follows that. -/
def documentLines (strip : Bool) (delimiter : Bytes) : Nat → Bytes → Bytes × Bytes
  | 0, cs => ([], cs)
  | _, [] => ([], [])
  | n + 1, cs =>
    let line := cs.takeWhile (· ≠ '\n')
    let line := if strip then line.dropWhile (· = '\t') else line
    let rest := (cs.dropWhile (· ≠ '\n')).drop 1
    if line = delimiter then ([], rest)
    else if '\n' ∉ cs then (line, [])
    else
      let (body, after) := documentLines strip delimiter n rest
      (line ++ '\n' :: body, after)

/-- What has been opened in a line. -/
inductive Opened where
  | single
  | double
  | back
  | brace
  | parenthesis
deriving DecidableEq, Inhabited

/-- The rest of a line and what follows it, if anything does. Line ends in quotes and expansions do not
count. A comment reaches to the end of the line, and so does what follows a parenthesis that has been
opened before. -/
def splitLine : List Opened → Bytes → Bytes × Option Bytes
  | _, [] => ([], none)
  | stack, c :: cs =>
    let keep (stack : List Opened) : Bytes × Option Bytes :=
      let (line, rest) := splitLine stack cs
      (c :: line, rest)
    let isQuoted := stack.contains .double
    let push (o : Opened) : Bytes × Option Bytes := keep (o :: stack)
    let toEnd : Bytes × Option Bytes :=
      let line := c :: cs.takeWhile (· ≠ '\n')
      (line, (cs.dropWhile (· ≠ '\n')).tail?)
    if stack.head? = some .single then keep (if c = '\'' then stack.drop 1 else stack)
    else match c, cs with
      | '\n', _ => if stack = [] then ([], some cs) else keep stack
      | '\\', e :: rest =>
        let (line, rest) := splitLine stack rest
        (c :: e :: line, rest)
      | '\'', _ => if isQuoted then keep stack else push .single
      | '"', _ => if stack.head? = some .double then keep (stack.drop 1) else push .double
      | '`', _ => if stack.head? = some .back then keep (stack.drop 1) else push .back
      | '$', '(' :: rest =>
        let (line, rest) := splitLine (.parenthesis :: stack) rest
        (c :: '(' :: line, rest)
      | '$', '\x7b' :: rest =>
        let (line, rest) := splitLine (.brace :: stack) rest
        (c :: '\x7b' :: line, rest)
      | '(', _ => if stack.head? = some .parenthesis then push .parenthesis else keep stack
      | ')', _ =>
        if stack.head? = some .parenthesis then keep (stack.drop 1)
        else if stack = [] then toEnd
        else keep stack
      | '\x7d', _ => if stack.head? = some .brace then keep (stack.drop 1) else keep stack
      | ' ', '#' :: _ | '\t', '#' :: _ | ';', '#' :: _ => if stack = [] then toEnd else keep stack
      | _, _ => keep stack

/-- Reads the document that a delimiter ends. It stands after the current line, and the text that is left
has marks in the place of its lines. -/
def readDocument (nested : Nested) (d : Delimiter) (quoted : Bool) : Reader (List Part) :=
  fun cs => do
    match splitLine [] cs with
    | (line, none) => return ([], line)
    | (line, some following) =>
      let marks := following.takeWhile (· = lineMark)
      let following := following.drop marks.length
      let (ps, after) ←
        if quoted then
          let lines := following.filter (· ≠ lostMark)
          let (body, after) := documentLines d.strips d.text (lines.length + 1) lines
          pure (body.map (.char · true), after ++ lostMarks following)
        else document nested (some d) following
      let read := List.replicate (lineEnds following - lineEnds after) lineMark
      return (ps, line ++ '\n' :: marks ++ read ++ after)

/-- Reads the word that ends a document, and tells whether any of it is quoted. Nothing is expanded in
it. The number bounds its length. -/
def delimiterWord : Nat → Reader (Bytes × Bool)
  | 0, cs => .ok (([], false), cs)
  | _, [] => .ok (([], false), [])
  | n + 1, c :: rest =>
    let quoted (before rest : Bytes) : Except Fault ((Bytes × Bool) × Bytes) := do
      let ((text, _), rest) ← delimiterWord n rest
      return ((before ++ text, true), rest)
    let upTo (mark : Char) : Except Fault ((Bytes × Bool) × Bytes) :=
      let inside := rest.takeWhile (· ≠ mark)
      match rest.drop inside.length with
      | [] => .error ⟨.openQuote, lostMarks rest, none⟩
      | _ :: rest => quoted inside rest
    match c, rest with
    | '\\', '\n' :: rest => delimiterWord n rest
    | '\\', e :: rest => quoted [e] rest
    | '\'', _ => upTo '\''
    | '"', _ => upTo '"'
    | c, _ =>
      if endsWord c then .ok (([], false), c :: rest)
      else do
        let ((text, isQuoted), rest) ← delimiterWord n rest
        return ((c :: text, isQuoted || c = '`'), rest)

/-- Reads a redirection after its arrow. -/
def readRedirection (nested : Nested) (descriptor : Nat) (arrow : Arrow) : Reader Redirection :=
  fun cs => do
    match arrow, skipBlanks cs with
    | .document strips, c :: start =>
      if endsWord c || (redirection? (c :: start)).isSome then
        let (t, rest) ← token nested cs
        unexpected t rest none false
      else
        let ((text, quoted), rest) ← delimiterWord (start.length + 1) (c :: start)
        let (body, rest) ← readDocument nested ⟨text, strips⟩ quoted rest
        return (.mk descriptor .document body, rest)
    | .document _, [] => unexpected .finish [] none false
    | .plain connection, _ =>
      match ← token nested cs with
      | (.word target, rest) => return (.mk descriptor connection target, rest)
      | (t, rest) => unexpected t rest none false

/-- Reads the redirections after a command. -/
def readRedirections (nested : Nested) : Nat → Reader (List Redirection)
  | 0, cs => .ok ([], cs)
  | n + 1, cs => do
    match ← token nested cs with
    | (.redirection d a, rest) =>
      let (r, rest) ← readRedirection nested d a rest
      let (rs, rest) ← readRedirections nested n rest
      return (r :: rs, rest)
    | _ => return ([], cs)

/-! ## Simple commands -/

/-- The name and the value of an assignment. -/
def assignment? (w : Word) : Option (Bytes × Word) :=
  let isNameChar : Part → Bool
    | .char c false => continuesName c
    | _ => false
  match w.dropWhile isNameChar with
  | .char '=' false :: value =>
    (plainText? (w.takeWhile isNameChar)).bind fun name =>
      if isName name then some (name, value) else none
  | _ => none

/-- What has been read of a simple command. -/
structure Pending where
  assignments : List (Bytes × Word)
  words : List Word
  redirections : List Redirection
deriving Inhabited

/-- The commands that no function may be named after. -/
def specialNames : List String :=
  [".", ":", "break", "continue", "eval", "exec", "exit", "export", "readonly", "return", "set",
    "shift", "times", "trap", "unset"]

/-- Whether a function may have a name. -/
def isFunctionName (name : Bytes) : Bool :=
  isName name && !specialNames.any fun s => s.toList = name

section

variable (nested : Nested) (whole : Nat)

/-- Reads the parts of a simple command. `command` reads the body of a function. -/
def simple (line : Nat) (command : Reader Command) : Nat → Pending → Reader Command
  | 0, _, cs => .error ⟨.tooDeep, cs, none⟩
  | n + 1, p, cs => do
    let cs := if p.words.isEmpty || followsAlias cs then nested.withAlias cs else cs
    match ← token nested cs with
    | (.word w, rest) =>
      match if p.words.isEmpty then assignment? w else none with
      | some a => simple line command n { p with assignments := p.assignments ++ [a] } rest
      | none => simple line command n { p with words := p.words ++ [w] } rest
    | (.redirection d a, rest) =>
      let (r, rest) ← readRedirection nested d a rest
      simple line command n { p with redirections := p.redirections ++ [r] } rest
    | (.openParenthesis, rest) =>
      match p.assignments, p.words, p.redirections with
      | [], [w], [] =>
        match ← token nested rest with
        | (.closeParenthesis, rest) =>
          match (plainText? w).filter isFunctionName with
          | none => .error ⟨.functionName, rest, none⟩
          | some name =>
            let (body, rest) ← command (skipLines rest.length rest)
            return (.define name body, rest)
        | (t, rest) => unexpected t rest (some ")") false
      | _, _, _ => return (.simple line p.assignments p.words p.redirections, cs)
    | _ => return (.simple line p.assignments p.words p.redirections, cs)

/-! ## Compound commands -/

variable (list : Ending → Reader (List Command))

/-- Reads a keyword. -/
def expect (k : String) : Reader Unit := fun cs => do
  let (t, rest) ← token nested cs
  if t.keyword? = some k then return ((), rest) else unexpected t rest (some k) true

/-- Reads the rest of a conditional after its first test. -/
def readBranches : Nat → Reader (List Command × List Command)
  | 0, cs => .error ⟨.tooDeep, cs, none⟩
  | n + 1, cs => do
    let (_, rest) ← expect nested "then" cs
    let (whenTrue, rest) ← list .needed rest
    let (t, after) ← token nested rest
    match t.keyword? with
    | some "elif" =>
      let (test, rest) ← list .needed after
      let ((inner, other), rest) ← readBranches n rest
      return ((whenTrue, [.branch test inner other]), rest)
    | some "else" =>
      let (whenFalse, rest) ← list .needed after
      let (_, rest) ← expect nested "fi" rest
      return ((whenTrue, whenFalse), rest)
    | some "fi" => return ((whenTrue, []), after)
    | _ => unexpected t after (some "fi") true

/-- Reads words up to the end of a line or a semicolon. -/
def readWords : Nat → Reader (List Word)
  | 0, cs => .error ⟨.tooDeep, cs, none⟩
  | n + 1, cs => do
    match ← token nested cs with
    | (.word w, rest) =>
      let (ws, rest) ← readWords n rest
      return (w :: ws, rest)
    | (.newLine, rest) => return ([], rest)
    | (.semicolon, rest) => return ([], rest)
    | (t, rest) => unexpected t rest none false

/-- Reads a loop over words after its keyword. -/
def readForEach (line : Nat) : Reader Command := fun cs => do
  let (t, rest) ← token nested cs
  let name? := match t with
    | .word w => (plainText? w).filter isName
    | _ => none
  match name? with
  | none => .error ⟨.loopVariable, rest, none⟩
  | some name =>
    let rest := skipLines rest.length rest
    let (t, after) ← token nested rest
    let (words, rest) ←
      if t.keyword? = some "in" then do
        let (ws, rest) ← readWords nested (after.length + 1) after
        pure (some ws, rest)
      else
        match t with
        | .semicolon => pure (none, after)
        | _ => pure (none, rest)
    let (_, rest) ← expect nested "do" (skipLines rest.length rest)
    let (body, rest) ← list .needed rest
    let (_, rest) ← expect nested "done" rest
    return (.forEach line name words body, rest)

/-- Reads the patterns of a case up to its parenthesis. -/
def readPatterns : Nat → Reader (List Word)
  | 0, cs => .error ⟨.tooDeep, cs, none⟩
  | n + 1, cs => do
    let (t, rest) ← token nested cs
    let w := match t with
      | .word w => w
      | _ => []
    match ← token nested rest with
    | (.pipe, rest) =>
      let (ws, rest) ← readPatterns n rest
      return (w :: ws, rest)
    | (.closeParenthesis, rest) => return ([w], rest)
    | (t, rest) => unexpected t rest (some ")") false

/-- Reads the cases of a choice. -/
def readCases : Nat → Reader (List (List Word × List Command))
  | 0, cs => .error ⟨.tooDeep, cs, none⟩
  | n + 1, cs => do
    let cs := skipLines cs.length cs
    let (t, after) ← token nested cs
    if t.keyword? = some "esac" then return ([], after)
    else
      let start := match t with
        | .openParenthesis => after
        | _ => cs
      let (patterns, rest) ← readPatterns nested (start.length + 1) start
      let (body, rest) ← list .free rest
      let rest := skipLines rest.length rest
      let (t, after) ← token nested rest
      match t with
      | .doubleSemicolon =>
        let (cases, rest) ← readCases n after
        return ((patterns, body) :: cases, rest)
      | _ =>
        if t.keyword? = some "esac" then return ([(patterns, body)], after)
        else unexpected t after (some ";;") true

/-- Reads a choice after its keyword. -/
def readChoice (line : Nat) : Reader Command := fun cs => do
  match ← token nested cs with
  | (.word w, rest) =>
    let (_, rest) ← expect nested "in" (skipLines rest.length rest)
    let (cases, rest) ← readCases nested list (rest.length + 1) rest
    return (.choice line w cases, rest)
  | (t, rest) => .error ⟨.unexpected (t.name false) (some "word"), rest, none⟩

/-- Reads a command that ends with a token of its own, after its first token. -/
def readCompound (line : Nat) : String → Option (Reader Command)
  | "if" => some fun cs => do
    let (test, rest) ← list .needed cs
    let ((whenTrue, whenFalse), rest) ← readBranches nested list (rest.length + 1) rest
    return (.branch test whenTrue whenFalse, rest)
  | "while" => some (readLoop true)
  | "until" => some (readLoop false)
  | "for" => some (readForEach nested list line)
  | "case" => some (readChoice nested list line)
  | "\x7b" => some fun cs => do
    let (body, rest) ← list .needed cs
    let (_, rest) ← expect nested "\x7d" rest
    return (.sequence body, rest)
  | _ => none
where
  /-- Reads a loop with a test. -/
  readLoop (onSuccess : Bool) : Reader Command := fun cs => do
    let (test, rest) ← list .needed cs
    let (_, rest) ← expect nested "do" rest
    let (body, rest) ← list .needed rest
    let (_, rest) ← expect nested "done" rest
    return (.loop onSuccess test body, rest)

/-- A text whose first word counts as no keyword. -/
def asPlainWord (cs : Bytes) : Bytes := '\'' :: '\'' :: skipBlanks cs

/-- Reads a command. The number bounds how many functions are defined inside one another. -/
def command : Nat → Reader Command
  | 0, cs => .error ⟨.tooDeep, cs, none⟩
  | n + 1, cs => do
    let (t, rest) ← token nested cs
    let line := lineAt whole rest
    let compound? : Option (Reader Command) := match t with
      | .openParenthesis => some fun cs => do
        let (body, rest) ← list .needed cs
        match ← token nested rest with
        | (.closeParenthesis, rest) => return (.subshell line body, rest)
        | (t, rest) => unexpected t rest (some ")") true
      | _ => t.keyword?.bind (readCompound nested list line)
    match compound? with
    | some read =>
      let (c, rest) ← read rest
      let (rs, rest) ← readRedirections nested (rest.length + 1) rest
      if rs.isEmpty then return (c, rest)
      else
        let (t, _) ← token nested rest
        return (.redirected line c rs, if t.keyword?.isSome then asPlainWord rest else rest)
    | none =>
      let startsSimple := match t with
        | .word _ => t.keyword?.isNone
        | .redirection .. => true
        | _ => false
      if startsSimple then
        simple nested line (command n) (cs.length + 1) ⟨[], [], []⟩ cs
      else unexpected t rest none true

/-! ## Lists of commands -/

/-- Reads the commands of a pipeline. -/
def pipedCommands : Nat → Reader (List Command)
  | 0, cs => .error ⟨.tooDeep, cs, none⟩
  | n + 1, cs => do
    let cs := nested.withAlias cs
    let (c, rest) ← command nested whole list (cs.length + 1) cs
    match ← token nested rest with
    | (.pipe, rest) =>
      let (more, rest) ← pipedCommands n (skipLines rest.length rest)
      return (c :: more, rest)
    | _ => return ([c], rest)

/-- Reads a pipeline. -/
def pipeline : Reader Command := fun cs => do
  let cs := nested.withAlias cs
  let (t, after) ← token nested cs
  let isNegated := t.keyword? = some "!"
  let (commands, rest) ←
    pipedCommands nested whole list (cs.length + 1) (if isNegated then after else cs)
  let c := match commands with
    | [c] => c
    | _ => .pipeline commands
  return (if isNegated then .negated c else c, rest)

/-- Reads what follows a pipeline that is joined to others. -/
def andOrAfter : Nat → Command → Reader Command
  | 0, _, cs => .error ⟨.tooDeep, cs, none⟩
  | n + 1, first, cs => do
    match ← token nested cs with
    | (.both, rest) =>
      let (second, rest) ← pipeline nested whole list (skipLines rest.length rest)
      andOrAfter n (.andThen first second) rest
    | (.either, rest) =>
      let (second, rest) ← pipeline nested whole list (skipLines rest.length rest)
      andOrAfter n (.orElse first second) rest
    | _ => return (first, cs)

/-- Reads pipelines that are joined by conditions. -/
def andOr : Reader Command := fun cs => do
  let (first, rest) ← pipeline nested whole list cs
  andOrAfter nested whole list (cs.length + 1) first rest

end

/-- Reads a list of commands. The number bounds how many commands there are one after another or
inside one another, and `whole` is the number of line ends in the whole script. -/
def commandList (aliases : List (Bytes × Bytes)) (whole : Nat) :
    Nat → Ending → Reader (List Command)
  | 0, _, cs => .error ⟨.tooDeep, cs, none⟩
  | n + 1, ending, cs => do
    let list := commandList aliases whole n
    let refuse (cs : Bytes) : Except Fault (Script × Bytes) := .error ⟨.tooDeep, cs, none⟩
    let flat : Nested := ⟨whole, [], fun _ cs => refuse cs, fun cs => (refuse cs).map (·.1)⟩
    let nested : Nested :=
      { whole, aliases
        untilParenthesis := fun whole cs => do
          let (script, rest) ← commandList aliases whole n .free cs
          match ← token flat rest with
          | (.closeParenthesis, rest) => return (script, rest)
          | (t, rest) => unexpected t rest (some ")") true
        all := fun text =>
          let whole := lineEnds text
          match commandList aliases whole n .free text with
          | .ok (script, _) => .ok script
          | .error f => .error (f.inText whole) }
    let cs := nested.withAlias (if ending = .line then cs else skipLines cs.length cs)
    match ← token nested cs with
    | (.finish, rest) => return ([], rest)
    | (.newLine, rest) => return ([], rest)
    | (t, _) =>
      if ending = .free && t.endsList then return ([], cs)
      else
        let (c, rest) ← andOr nested whole list cs
        let following : Ending := if ending = .line then .line else .free
        match ← token nested rest with
        | (.finish, _) => return ([c], rest)
        | (.newLine, after) =>
          if ending = .line then return ([c], after)
          else
            let (more, rest) ← commandList aliases whole n following after
            return (c :: more, rest)
        | (.semicolon, after) =>
          let (more, rest) ← commandList aliases whole n following after
          return (c :: more, rest)
        | (.ampersand, after) =>
          let (more, rest) ← commandList aliases whole n following after
          return (.background c :: more, rest)
        | (t, after) => if ending = .line then unexpected t after none true else return ([c], rest)

/-- The parts of a text in which expansions take place, as in a document. -/
def textParts (text : Bytes) : Except Fault (List Part) :=
  let all (text : Bytes) : Except Fault Script :=
    (commandList [] (lineEnds text) (text.length + 2) .free text).map (·.1)
  let nested : Nested := ⟨lineEnds text, [], fun _ cs => .error ⟨.tooDeep, cs, none⟩, all⟩
  (document nested none text).map (·.1)

/-- Reads the commands of the next line of a script. -/
def nextLine (aliases : List (Bytes × Bytes)) (whole : Nat) : Reader (List Command) := fun cs =>
  commandList aliases whole (cs.length + 2 + (aliases.map fun a => a.2.length).foldl Nat.add 0) .line
    cs

end TokenConformance.Sandbox.Shell
