import TokenConformance.Sandbox.Calendar.Reader
import TokenConformance.Sandbox.Shell.Finding.Syntax
import TokenConformance.Sandbox.Shell.Tool.Placing

/-! # Reading what is looked for

* `piecesOf`: the parts of a format.
* `range?`, `sizeRange?`: ranges of numbers, such as `+3`.
* `Draft`: how far arguments have been read; `readWords` reads them.
* `Symbol`, `treeOf`: tests, deeds and operators, and how they are put together.
* `planOf`: what arguments ask for.
-/

namespace TokenConformance.Sandbox.Shell.Finding

open Sandbox.Text (Bytes Regex)
open Shell.Tool

/-- A text between a backquote and a quote. -/
def inMarks (text : Bytes) : Bytes := "`".toList ++ text ++ ['\'']

/-! ## Formats -/

/-- The directive in a format that starts with a percent sign, and what follows it. -/
def directive (cs : Bytes) : Directive × Bytes :=
  let flags := cs.takeWhile fun c => c ∈ ['-', '+', ' ', '#', '0']
  let width := (cs.drop flags.length).takeWhile Char.isDigit
  let rest := cs.drop (flags.length + width.length)
  match rest with
  | '.' :: rest =>
    let digits := rest.takeWhile Char.isDigit
    (⟨flags, digitsValue width, some (digitsValue digits)⟩, rest.drop digits.length)
  | _ => (⟨flags, digitsValue width, none⟩, rest)

/-- The letters that stand for something in a format. -/
def fieldLetters : Bytes := "abcdDfFgGhHiklmMnpPsStuUyYZ".toList

/-- The letters after which another one tells how a time is written. -/
def timeLetters : Bytes := ['A', 'B', 'C', 'T']

/-- The letters of forms of a time. -/
def timeForms : Bytes := "@HIklMprSTXZ+aAbBcdDFGghjmnstuUvVwWxyYCeRz".toList.filter (· ≠ 'v')

/-- The parts of a format, and what there is to warn of. An error ends everything. The number bounds how
long the format is. -/
def piecesOf : Nat → Bytes → List Bytes → Except Bytes (List Piece × List Bytes)
  | 0, _, warnings => .ok ([], warnings)
  | _, [], warnings => .ok ([], warnings)
  | n + 1, '\\' :: rest, warnings =>
    let goOn (text rest : Bytes) (warnings : List Bytes) : Except Bytes (List Piece × List Bytes) := do
      let (pieces, warnings) ← piecesOf n rest warnings
      return (.text text :: pieces, warnings)
    match rest with
    | [] => .ok ([.text ['\\']],
        warnings ++ ["warning: escape `\\' followed by nothing at all".toList])
    | 'c' :: _ => .ok ([.finish], warnings)
    | 'e' :: _ | '"' :: _ => goOn ('\\' :: rest.take 1) (rest.drop 1) (warnings ++ [unknown rest])
    | _ =>
      match escape? rest with
      | some (c, rest) => goOn [c] rest warnings
      | none => goOn ('\\' :: rest.take 1) (rest.drop 1) (warnings ++ [unknown rest])
  | n + 1, '%' :: rest, warnings =>
    let (d, after) := directive rest
    let whole (count : Nat) : Bytes := '%' :: rest.take (rest.length - after.length + count)
    let goOn (p : Piece) (rest : Bytes) (warnings : List Bytes) :
        Except Bytes (List Piece × List Bytes) := do
      let (pieces, warnings) ← piecesOf n rest warnings
      return (p :: pieces, warnings)
    match after with
    | [] => .error "error: % at end of format string".toList
    | '%' :: after => goOn (.text (whole 0)) after warnings
    | c :: after =>
      if fieldLetters.contains c then goOn (.field d c none) after warnings
      else if timeLetters.contains c then
        match after with
        | [] => .error "error: % at end of format string".toList
        | form :: after =>
          if timeForms.contains form then goOn (.field d c (some form)) after warnings
          else goOn (.text (whole 2)) after warnings
      else
        goOn (.text (whole 1)) after
          (warnings ++ ["warning: unrecognized format directive ".toList ++ inMarks (whole 1)])
  | n + 1, c :: rest, warnings => do
    let isPlain (c : Char) : Bool := c ≠ '%' && c ≠ '\\'
    let (pieces, warnings) ← piecesOf n (rest.dropWhile isPlain) warnings
    return (.text (c :: rest.takeWhile isPlain) :: pieces, warnings)
where
  /-- What there is to say about an escape that stands for nothing. -/
  unknown (rest : Bytes) : Bytes :=
    "warning: unrecognized escape ".toList ++ inMarks ('\\' :: rest.take 1)

/-! ## Numbers -/

/-- How a number is meant to stand to others, and the number. -/
def boundOf : Bytes → Bound × Bytes
  | '+' :: rest => (.above, rest)
  | '-' :: rest => (.below, rest)
  | rest => (.exactly, rest)

/-- A range such as `+3`. -/
def range? (text : Bytes) : Option Range :=
  let (bound, digits) := boundOf text
  (digitsValue? digits).map (⟨bound, ·⟩)

/-- The bytes that a letter after a size stands for. -/
def sizeUnit? : Char → Option Nat
  | 'b' => some 512
  | 'c' => some 1
  | 'w' => some 2
  | 'k' => some 1024
  | 'M' => some (Nat.pow 1024 2)
  | 'G' => some (Nat.pow 1024 3)
  | _ => none

/-- A range of sizes with its unit, or what is wrong with it. -/
def sizeRange (text : Bytes) : Except Bytes Test :=
  match text.getLast? with
  | none => .error "invalid null argument to -size".toList
  | some last =>
    let invalid : Except Bytes Test :=
      .error (filled "Invalid argument % to -size" [inMarks text])
    let read (unit : Nat) (text : Bytes) : Except Bytes Test :=
      match range? text with
      | some r => .ok (.size unit r)
      | none => invalid
    match sizeUnit? last with
    | some unit => read unit text.dropLast
    | none =>
      if last.isDigit then read 512 text
      else .error ("invalid -size type ".toList ++ inMarks [last])

/-! ## Arguments -/

/-- A test, a deed or an operator among arguments. -/
inductive Symbol where
  | leaf (q : Query)
  | opening (isOwn : Bool)
  | closing (isOwn : Bool)
  | not (name : Bytes)
  | and (name : Bytes)
  | or (name : Bytes)
  | comma

/-- How far arguments have been read. -/
structure Draft where
  /-- What has been read, the last symbol first. -/
  symbols : List Symbol
  following : Following
  least : Nat
  most : Option Nat
  isDepthFirst : Bool
  /-- How expressions are written: the name of the form. -/
  form : String
  /-- Whether some deed tells what has been found. -/
  hasDeed : Bool
  groups : List Group
  /-- The last test or deed that was read. -/
  last : Bytes
deriving Inhabited

namespace Draft

/-- The draft with one more operator. -/
def add (d : Draft) (s : Symbol) : Draft := { d with symbols := s :: d.symbols }

/-- The draft with what something new starts, which has to hold together with what is before it. -/
def addNew (d : Draft) (s : Symbol) : Draft :=
  match d.symbols with
  | .leaf _ :: _ | .closing _ :: _ => (d.add (.and "-a".toList)).add s
  | _ => d.add s

/-- The draft with a test. -/
def addTest (d : Draft) (t : Test) : Draft := d.addNew (.leaf (.test t))

/-- The draft with a deed that tells what has been found. -/
def addDeed (d : Draft) (deed : Deed) : Draft :=
  { d.addNew (.leaf (.deed deed)) with hasDeed := true }

end Draft

/-- Reading arguments, which may fail. -/
abbrev Reading := ExceptT Bytes Action

/-- The forms of expressions, each with whether parentheses have a meaning without a backslash. -/
def expressionForms : List (String × Bool) :=
  [("findutils-default", false), ("ed", false), ("emacs", false), ("gnu-awk", true), ("grep", false),
    ("posix-awk", true), ("awk", true), ("posix-basic", false), ("posix-egrep", true),
    ("egrep", true), ("posix-extended", true), ("posix-minimal-basic", false), ("sed", false)]

/-- An expression with the signs of repetition that need no backslash in it, as one in which they need
it. -/
def withEscapes : Bytes → Bytes
  | [] => []
  | ['\\'] => ['\\']
  | '\\' :: c :: rest =>
    if c ∈ ['+', '?', '\x7b'] then c :: withEscapes rest else '\\' :: c :: withEscapes rest
  | '[' :: rest => '[' :: inSet true rest
  | c :: rest => if c ∈ ['+', '?'] then '\\' :: c :: withEscapes rest else c :: withEscapes rest
where
  /-- The same for what stands between brackets. -/
  inSet : Bool → Bytes → Bytes
    | _, [] => []
    | isFirst, c :: rest =>
      if c = ']' && !isFirst then c :: withEscapes rest
      else c :: inSet (isFirst && c = '^') rest

/-- Reads an expression that has to match a whole path. -/
def readExpression (form : String) (ignoresCase : Bool) (text : Bytes) : Except Bytes Test :=
  let isExtended := (expressionForms.lookup form).getD false
  let text' := if ["findutils-default", "emacs"].contains form then withEscapes text else text
  match Regex.read ⟨isExtended, ignoresCase, false, false⟩ text' with
  | .ok (r, _) => .ok (.expression r)
  | .error fault =>
    let fault := if "Unmatched [".isPrefixOf fault then "Invalid regular expression" else fault
    .error (filled "failed to compile regular expression '%': %" [text, fault.toList])

/-- The kinds in a list with commas, or what is wrong with it. -/
def kindsOf (predicate : Bytes) : Bytes → Except Bytes Bytes
  | [] => .error (filled "Arguments to % should contain at least one letter" [predicate])
  | c :: rest =>
    if c ∉ "bcdflpsD".toList then
      .error (filled "Unknown argument to %: %" [predicate, [c]])
    else
      match rest with
      | [] => .ok [c]
      | ',' :: [] =>
        .error (filled "Last file type in list argument to % is missing, i.e., list is ending on: ','"
          [predicate])
      | ',' :: more => do return c :: (← kindsOf predicate more)
      | _ :: _ =>
        .error (filled "Must separate multiple arguments to % using: ','" [predicate])

/-- Reads permissions that are wanted. -/
def modeTest? (text : Bytes) : Option Test :=
  let (t, bits) : ModeTest × Bytes := match text with
    | '-' :: rest => (.all, rest)
    | '/' :: rest => (.some, rest)
    | _ => (.exactly, text)
  (permissions? 0 false bits 0).map (.mode t)

/-- A pair of braces, which stands for a file. -/
def braces : Bytes := ['\x7b', '\x7d']

/-- Whether a pair of braces is in a text. -/
def hasBraces : Bytes → Bool
  | [] => false
  | c :: rest => braces.isPrefixOf (c :: rest) || hasBraces rest

/-- The arguments of a program up to the one that ends them, and what follows it. A plus sign after
a pair of braces ends them too, where many files are given together. -/
def programWords (predicate : Bytes) (takesMany : Bool) :
    List Bytes → List Bytes → Except Bytes (List Bytes × Bool × List Bytes)
  | _, [] => .error ("missing argument to ".toList ++ inMarks predicate)
  | before, word :: rest =>
    let last := before.headD []
    if word = [';'] then .ok (before.reverse, false, rest)
    else if takesMany && word = ['+'] && hasBraces last then
      if last = braces then .ok (before.reverse, true, rest)
      else
        .error (filled "In '% ... % +' the '%' must appear by itself, but you specified %"
          [predicate, braces, braces, inSingleQuotes last])
    else programWords predicate takesMany (word :: before) rest

/-- Opens a file that deeds write to. -/
def channelFor (path : Bytes) : Reading Nat := do
  match ← openPath .writing path with
  | .ok channel => return channel
  | .error e => throw (inSingleQuotes path ++ ": ".toList ++ describe e)

/-- The time of the file that a path names. -/
def timeOf (path : Bytes) : Reading Int := do
  match (← get).nodeOf path with
  | .ok (_, node) => return node.time
  | .error e => throw (inSingleQuotes path ++ ": ".toList ++ describe e)

/-- The parts of a format, with warnings that are given at once. -/
def readFormat (c : Call) (text : Bytes) : Reading (List Piece) := do
  match piecesOf (text.length + 1) text [] with
  | .ok (pieces, warnings) =>
    for warning in warnings do
      c.say warning
    return pieces
  | .error fault => throw fault

/-- What is said about a test that stands alone though it needs more. -/
def missing (predicate : Bytes) : Bytes := "missing argument to ".toList ++ inMarks predicate

/-- What is said about an argument that a test cannot take. -/
def invalidArgument (predicate text : Bytes) : Bytes :=
  filled "invalid argument % to %" [inMarks text, inMarks predicate]

/-- What there is to say about permissions of which some are wanted and that are none. -/
def emptyMode : String :=
  "warning: you have specified a mode pattern % (which is equivalent to /000). The meaning of " ++
    "-perm /000 has now been changed to be consistent with -perm -000; that is, while it used to " ++
    "match no files, it now matches all files."

/-- Reads a test or deed with one argument, if it is one. -/
def readValued (c : Call) (d : Draft) (predicate text : Bytes) : Reading (Option Draft) := do
  let lift {α : Type} : Except Bytes α → Reading α
    | .ok a => return a
    | .error e => throw e
  let tested (t : Test) : Reading (Option Draft) := return some (d.addTest t)
  let ranged (f : Range → Test) : Reading (Option Draft) :=
    match range? text with
    | some r => tested (f r)
    | none => throw (invalidArgument predicate text)
  let number : Reading Nat :=
    match digitsValue? text with
    | some n => return n
    | none =>
      throw (filled "Expected a positive decimal integer argument to %, but got %"
        [predicate, inSingleQuotes text])
  let owner (kind : String) : Reading (Option Draft) :=
    if text = "root".toList then tested (.owner ⟨.exactly, 0⟩)
    else
      match digitsValue? text with
      | some n => tested (.owner ⟨.exactly, n⟩)
      | none => throw (filled ("% is not the name of " ++ kind) [inSingleQuotes text])
  match String.ofList predicate with
  | "-name" => tested (.name false text)
  | "-iname" => tested (.name true text)
  | "-path" | "-wholename" | "-ipath" | "-iwholename" =>
    let ignoresCase := predicate[1]? = some 'i'
    if 1 < text.length && text.getLast? = some '/' then
      c.say (filled "warning: % % will not match anything because it ends with /." [predicate, text])
    tested (.path ignoresCase text)
  | "-lname" => tested (.target false text)
  | "-ilname" => tested (.target true text)
  | "-regex" => tested (← lift (readExpression d.form false text))
  | "-iregex" => tested (← lift (readExpression d.form true text))
  | "-regextype" =>
    match expressionForms.find? fun f => f.1.toList = text with
    | some (form, _) => return some { d with form }
    | none =>
      let known := Bytes.joined [',', ' '] (expressionForms.map fun f => inSingleQuotes f.1.toList)
      throw (filled "Unknown regular expression type %; valid types are %."
        [inSingleQuotes text, known])
  | "-type" => tested (.kind (← lift (kindsOf predicate text)) false)
  | "-xtype" => tested (.kind (← lift (kindsOf predicate text)) true)
  | "-size" => tested (← lift (sizeRange text))
  | "-newer" | "-anewer" | "-cnewer" => tested (.newer (← timeOf text))
  | "-mtime" | "-atime" | "-ctime" => ranged (.age true)
  | "-mmin" | "-amin" | "-cmin" => ranged (.age false)
  | "-perm" =>
    match modeTest? text with
    | some t =>
      if text.head? = some '/' && (match t with | .mode _ wanted => wanted = 0 | _ => false) then
        c.say (filled emptyMode [text])
      tested t
    | none => throw ("invalid mode ".toList ++ inSingleQuotes text)
  | "-links" => ranged .links
  | "-inum" => ranged .number
  | "-uid" | "-gid" => ranged .owner
  | "-user" => owner "a known user"
  | "-group" => owner "an existing group"
  | "-samefile" =>
    match (← get).nodeOf text with
    | .ok (n, _) => tested (.node n)
    | .error e => throw (inSingleQuotes text ++ ": ".toList ++ describe e)
  | "-fstype" => tested (.always false)
  | "-used" => ranged fun _ => .always false
  | "-maxdepth" => return some { d with most := some (← number) }
  | "-mindepth" => return some { d with least := ← number }
  | "-printf" => return some (d.addDeed (.format (← readFormat c text) none))
  | "-fprint" => return some (d.addDeed (.print '\n' (some (← channelFor text))))
  | "-fprint0" => return some (d.addDeed (.print '\x00' (some (← channelFor text))))
  | "-fls" => return some (d.addDeed (.list (some (← channelFor text))))
  | name =>
    if "-newer".isPrefixOf name && name.length = 8 then
      let letters := predicate.drop 6
      if !letters.all (· ∈ "aBcmt".toList) || letters.head? = some 't' then
        throw ("invalid predicate ".toList ++ inMarks predicate)
      else if letters.getLast? = some 't' then
        match Calendar.Moment.read? (← get).files.time text with
        | some time => tested (.newer time)
        | none =>
          throw (filled "I cannot figure out how to interpret % as a date or time"
            [inSingleQuotes text])
      else tested (.newer (← timeOf text))
    else return none

/-- The tests and deeds that have an argument. -/
def valuedNames : List String :=
  ["-name", "-iname", "-path", "-wholename", "-ipath", "-iwholename", "-lname", "-ilname", "-regex",
    "-iregex", "-regextype", "-type", "-xtype", "-size", "-newer", "-anewer", "-cnewer", "-mtime",
    "-atime", "-ctime", "-mmin", "-amin", "-cmin", "-perm", "-links", "-inum", "-uid", "-gid",
    "-user", "-group", "-samefile", "-fstype", "-used", "-maxdepth", "-mindepth", "-printf", "-fprint",
    "-fprint0", "-fls"]

/-- Reads a deed that starts a program. -/
def readProgram (d : Draft) (predicate : Bytes) (rest : List Bytes) : Reading (List Bytes × Draft) := do
  let isInside := predicate = "-execdir".toList || predicate = "-okdir".toList
  let asks := "-ok".toList.isPrefixOf predicate
  match programWords predicate (!asks) [] rest with
  | .error fault => throw fault
  | .ok ([], _, _) => throw (invalidArgument predicate [';'])
  | .ok (words, false, rest) => return (rest, d.addDeed (.run words isInside asks))
  | .ok (words, true, rest) =>
    let before := words.dropLast
    if before.contains braces then
      throw (filled "Only one instance of % is supported with % ... +" [braces, predicate])
    return (rest, { d.addDeed (.collect d.groups.length isInside) with
      groups := d.groups ++ [⟨before, isInside⟩] })

/-- Reads a test, a deed or an operator. -/
def readPredicate (c : Call) (d : Draft) (predicate : Bytes) (rest : List Bytes) :
    Reading (List Bytes × Draft) := do
  let one (d : Draft) : Reading (List Bytes × Draft) := return (rest, d)
  match String.ofList predicate with
  | "(" => one (d.addNew (.opening true))
  | ")" => one (d.add (.closing true))
  | "!" | "-not" => one (d.addNew (.not predicate))
  | "-a" | "-and" => one (d.add (.and predicate))
  | "-o" | "-or" => one (d.add (.or predicate))
  | "," => one (d.add .comma)
  | "-print" => one (d.addDeed (.print '\n' none))
  | "-print0" => one (d.addDeed (.print '\x00' none))
  | "-ls" => one (d.addDeed (.list none))
  | "-delete" => one { d.addDeed .delete with isDepthFirst := true }
  | "-prune" => one (d.addNew (.leaf (.deed .prune)))
  | "-quit" => one (d.addNew (.leaf (.deed .quit)))
  | "-true" => one (d.addTest (.always true))
  | "-false" | "-nouser" | "-nogroup" => one (d.addTest (.always false))
  | "-empty" => one (d.addTest .isEmpty)
  | "-readable" => one (d.addTest (.usable 'r'))
  | "-writable" => one (d.addTest (.usable 'w'))
  | "-executable" => one (d.addTest (.usable 'x'))
  | "-depth" | "-d" => one { d with isDepthFirst := true }
  | "-follow" => one { d with following := .all }
  | "-daystart" | "-mount" | "-xdev" | "-noleaf" | "-warn" | "-nowarn" | "-ignore_readdir_race"
  | "-noignore_readdir_race" => one d
  | "-exec" | "-execdir" | "-ok" | "-okdir" => readProgram d predicate rest
  | "-context" => throw "invalid predicate -context: SELinux is not enabled.".toList
  | "-fprintf" =>
    match rest with
    | path :: text :: rest => do
      let channel ← channelFor path
      return (rest, d.addDeed (.format (← readFormat c text) (some channel)))
    | _ => throw (missing predicate)
  | name =>
    let isValued := valuedNames.contains name ||
      "-newer".isPrefixOf name && name.length = 8
    if !isValued then throw ("unknown predicate ".toList ++ inMarks predicate)
    match rest with
    | [] => throw (missing predicate)
    | text :: rest =>
      match ← readValued c d predicate text with
      | some d => return (rest, d)
      | none => throw ("unknown predicate ".toList ++ inMarks predicate)

/-- Whether an argument belongs to what is looked for, and does not tell where. -/
def isQuery (isFirst : Bool) : Bytes → Bool
  | ['('] | ['!'] => true
  | [')'] | [','] => !isFirst
  | '-' :: _ :: _ => true
  | _ => false

/-- Reads tests, deeds and operators. The number bounds how many arguments there are. -/
def readWords (c : Call) : Nat → List Bytes → Draft → Reading Draft
  | 0, _, d => return d
  | _, [], d => return d
  | n + 1, word :: rest, d => do
    if !isQuery false word then
      c.say ("paths must precede expression: ".toList ++ inMarks word)
      let isThere := ((← get).nodeOf word).toOption.isSome
      if d.last ≠ [] && isThere then
        throw (filled "possible unquoted pattern after predicate %?" [inMarks d.last])
      throw []
    let (rest, d) ← readPredicate c d word rest
    readWords c n rest { d with last := word }

/-! ## Putting together -/

/-- How closely an operator binds. -/
def Symbol.binding : Symbol → Nat
  | .not _ => 4
  | .and _ => 3
  | .or _ => 2
  | .comma => 1
  | _ => 0

/-- The name of a symbol. -/
def Symbol.name : Symbol → Bytes
  | .not name | .and name | .or name => name
  | .comma => [',']
  | .opening _ => ['(']
  | .closing _ => [')']
  | .leaf _ => []

/-- Whether something has to follow a symbol. -/
def Symbol.isOperator : Symbol → Bool
  | .not _ | .and _ | .or _ | .comma => true
  | _ => false

/-- A fault of something that is put together wrongly. -/
def wrong {α : Type} (text : String) : Except Bytes α :=
  .error ("invalid expression; " ++ text).toList

mutual

/-- What symbols ask for, up to an operator that does not bind more closely than a number says, and what
is left of them. The symbol before them is given. The first number bounds how many there are. -/
def treeOf : Nat → Nat → Symbol → List Symbol → Except Bytes (Query × List Symbol)
  | 0, _, _, _ => .error "invalid expression".toList
  | n + 1, least, before, symbols => do
    let (q, rest) ← match symbols with
      | [] => throw "invalid expression".toList
      | .leaf q :: rest => pure (q, rest)
      | .not name :: rest =>
        let (q, rest) ← treeOf n 4 (.not name) rest
        pure (.not q, rest)
      | .opening isOwn :: rest =>
        match rest with
        | [] | .closing false :: _ =>
          wrong ("expected to find a ')' but didn't see one. " ++
            "Perhaps you need an extra predicate after '('")
        | .closing true :: _ => wrong "empty parentheses are not allowed."
        | _ =>
          let (q, rest) ← treeOf n 0 (.opening isOwn) rest
          match rest with
          | .closing _ :: rest => pure (q, rest)
          | _ => wrong "I was expecting to find a ')' somewhere but did not see one."
      | .closing isOwn :: _ =>
        if before.isOperator && isOwn then
          throw (filled "expected an expression between % and ')'" [inSingleQuotes before.name])
        else if !isOwn then
          throw (filled "expected an expression after %" [inSingleQuotes before.name])
        else wrong "you have too many ')'"
      | s :: _ =>
        wrong ("you have used a binary operator " ++ String.ofList (inSingleQuotes s.name) ++
          " with nothing before it.")
    restOf n least q rest

/-- What symbols ask for that go on with something. -/
def restOf : Nat → Nat → Query → List Symbol → Except Bytes (Query × List Symbol)
  | 0, _, q, rest => .ok (q, rest)
  | _, _, q, [] => .ok (q, [])
  | n + 1, least, q, s :: rest =>
    if s.binding ≤ least then .ok (q, s :: rest)
    else
      match s with
      | .and _ => do
        let (p, rest) ← treeOf n 3 s rest
        restOf n least (.both q p) rest
      | .or _ => do
        let (p, rest) ← treeOf n 2 s rest
        restOf n least (.either q p) rest
      | .comma => do
        let (p, rest) ← treeOf n 1 s rest
        restOf n least (.sequence q p) rest
      | _ => .error "invalid expression".toList

end

/-- What a draft asks for. What has been found is printed if nothing else is said. -/
def Draft.query (d : Draft) : Except Bytes Query := do
  let symbols := d.symbols.reverse
  let symbols :=
    if symbols.isEmpty then [.leaf (.deed (.print '\n' none))]
    else if d.hasDeed then symbols
    else .opening false :: symbols ++
      [.closing false, .and "-a".toList, .leaf (.deed (.print '\n' none))]
  let (q, rest) ← treeOf (2 * symbols.length + 2) 0 (.opening false) symbols
  match rest with
  | [] => return q
  | .closing _ :: _ => throw "you have too many ')'".toList
  | _ => throw "unexpected extra predicate".toList

/-- The options before everything else, and what follows them. -/
def readOptions : Following → List Bytes → Following × List Bytes
  | f, word :: rest =>
    match String.ofList word with
    | "-P" => readOptions .none rest
    | "-L" => readOptions .all rest
    | "-H" => readOptions .starts rest
    | "--" => (f, rest)
    | text => if "-O".isPrefixOf text then readOptions f rest else (f, word :: rest)
  | f, [] => (f, [])

/-- What arguments ask for. -/
def planOf (c : Call) : Reading Plan := do
  let (following, words) := readOptions .none c.arguments
  let starts := words.takeWhile fun w => !isQuery true w
  let d : Draft := ⟨[], following, 0, none, false, "findutils-default", false, [], []⟩
  let d ← readWords c (words.length + 1) (words.drop starts.length) d
  match d.query with
  | .error e => throw e
  | .ok query =>
    return ⟨query, if starts = [] then [['.']] else starts, d.following, d.least, d.most,
      d.isDepthFirst, d.groups⟩

end TokenConformance.Sandbox.Shell.Finding
