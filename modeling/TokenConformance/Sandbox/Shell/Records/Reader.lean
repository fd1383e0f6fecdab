import TokenConformance.Sandbox.Shell.Records.Matching
import TokenConformance.Sandbox.Shell.Records.Syntax

/-! # Reading scripts that work on records

* `Reading`, `Parse`: how far a script has been read, and what reads on; `Halt`: why it stops.
* `unexpected`: a token cannot stand where it is; `recovering`: goes on after the statement.
* `Grammar`: the parts of an expression, each of which may hold whole expressions.
* `statement`, `item`: reads a statement, and a rule or a routine.
* `readScript`: reads a script, or tells what is wrong with it.
-/

namespace TokenConformance.Sandbox.Shell.Records

open Sandbox.Text (Bytes Regex)
open Shell.Tool (filled)

/-- Something that a routine gets from another one which may be a table. -/
structure Passing where
  routine : Bytes
  parameter : Nat
  called : Bytes
  position : Nat
deriving DecidableEq, Inhabited

/-- How far a script has been read. -/
structure Reading where
  tokens : List (Token × Nat)
  /-- The line of the last token that has been passed. -/
  line : Nat
  names : Array Bytes
  /-- The shared names of which it is known whether they are tables. -/
  kinds : List (Nat × Bool)
  /-- The routine that is read, and its parameters. -/
  routine : Option Bytes
  parameters : List Bytes
  /-- The parameters of the routine that are tables, and those that are not. -/
  tables : List Nat
  scalars : List Nat
  passings : List Passing
  /-- The routines that are called, the last one first, each with how many arguments it gets and the
  line. -/
  calls : List (Bytes × Nat × Nat)
  /-- The routines that have been read, each with how many parameters it has. -/
  known : List (Bytes × Nat)
  /-- The names that are known to be those of routines. -/
  routines : List Bytes
  /-- How many tokens have been passed, and how many there were before the last expression. -/
  place : Nat
  start : Nat
  /-- How many parentheses, braces and loops are open. -/
  parentheses : Nat
  braces : Nat
  loops : Nat
  /-- Whether records are worked on where the reading is. -/
  hasRecords : Bool
  /-- Whether a statement has just ended, so that a brace may close the block. -/
  hasEnded : Bool
  /-- Whether a brace has just been left out, so that the end of the line counts. -/
  isStray : Bool
  /-- Whether the ends of lines mean nothing here. -/
  eatsLines : Bool
  /-- How many tokens have to be passed until a token that cannot stand where it is is told again. -/
  quiet : Nat
  /-- What is wrong, the last fault first. -/
  faults : List Bytes
deriving Inhabited

/-- Why reading stops. -/
inductive Halt where
  /-- The next token cannot stand where it is. -/
  | unexpected (s : Reading)
  /-- Nothing more is read. -/
  | over (faults : List Bytes)

/-- Reads something, or stops. -/
abbrev Parse := StateT Reading (Except Halt)

/-! ## Tokens -/

/-- The next token, which is not passed. -/
def peek : Parse Token := do
  let s ← get
  let isVariable (name : Bytes) : Bool :=
    s.parameters.contains name ||
      ((s.names.toList.idxOf? name).bind fun i => s.kinds.lookup i).isSome
  match (s.tokens.head?.getD (.finish, 0)).1 with
  | .name name => return if s.routines.contains name then .routine name else .name name
  | .routine name =>
    return if !s.routines.contains name && isVariable name then .name name else .routine name
  | t => return t

/-- The line of the next token. -/
def currentLine : Parse Nat := do return ((← get).tokens.head?.getD (.finish, 0)).2

/-- Reads nothing more. -/
def giveUp {α : Type} : Parse α := do throw (.over (← get).faults.reverse)

/-- How many faults are told. -/
def mostFaults : Nat := 5

/-- Tells a fault. -/
def tell (fault : Bytes) : Parse Unit := do
  modify fun s => { s with faults := fault :: s.faults }
  if mostFaults ≤ (← get).faults.length then giveUp

/-- Tells what is wrong in the line of the next token. -/
def wrong (why : Bytes) : Parse Unit := do
  tell ("line ".toList ++ Bytes.ofInt (← currentLine) ++ ": ".toList ++ why)

/-- How many tokens of one kind there may be in a row. -/
def mostTokens : Nat := 100000

/-- Passes signs that close what is not open, which are faults. The number bounds how many there
are. -/
def settle : Nat → Parse Unit
  | 0 => return ()
  | n + 1 => do
    let s ← get
    match s.tokens with
    | (.broken why, _) :: _ => throw (.over (why :: s.faults).reverse)
    | (.strange '\\', _) :: rest =>
      if s.eatsLines then
        tell (filled "%: unexpected character '%'" [Bytes.ofInt s.line, ['\\']])
        modify fun s => { s with tokens := rest, isStray := true }
        settle n
    | (.sign ")", _) :: rest =>
      if s.parentheses = 0 then
        wrong "extra ')'".toList
        modify fun s => { s with tokens := rest }
        settle n
    | (.sign "\x7d", _) :: rest =>
      if s.braces = 0 then
        wrong "extra '\x7d'".toList
        let rest := match rest with
          | (.sign ";", _) :: rest => rest
          | _ => rest
        modify fun s => { s with tokens := rest, isStray := true }
        settle n
    | _ => return ()

/-- What follows a closing brace, without the ends of lines and without what may end a rule. -/
def afterBrace (isRule : Bool) (ts : List (Token × Nat)) : List (Token × Nat) :=
  let isEnd (t : Token × Nat) : Bool := match t.1 with
    | .newline => true
    | _ => false
  match isRule, ts with
  | true, (.sign ";", _) :: rest => rest.dropWhile isEnd
  | _, _ => ts.dropWhile isEnd

/-- Whether the ends of lines after a token mean nothing. -/
def Token.eatsLines : Token → Bool
  | sign s => s ∈ ["\x7b", "\x7d", "&&", "||", ",", ";"]
  | newline => true
  | _ => false

/-- Passes the next token. -/
def advance : Parse Unit := do
  let s ← get
  match s.tokens with
  | (t, line) :: next :: rest =>
    let rest := next :: rest
    let s := { s with
      line, quiet := s.quiet - 1, hasEnded := false, isStray := false, place := s.place + 1
      eatsLines := t.eatsLines }
    set (match t with
      | .sign "(" => { s with tokens := rest, parentheses := s.parentheses + 1 }
      | .sign ")" => { s with tokens := rest, parentheses := s.parentheses - 1 }
      | .sign "\x7b" => { s with tokens := rest, braces := s.braces + 1 }
      | .sign "\x7d" => { s with
          tokens := afterBrace (s.braces ≤ 1) rest, braces := s.braces - 1, hasEnded := true }
      | .sign ";" | .newline => { s with tokens := rest, hasEnded := true }
      | _ => { s with tokens := rest })
    settle mostTokens
  | _ => return ()

/-- Tells that the next token cannot stand where it is, unless another one has just been told. -/
def tellUnexpected : Parse Unit := do
  let s ← get
  let t ← peek
  let isClosing := match t with
    | .sign s => s = "\x7d" || s = ";"
    | .newline | .finish => true
    | _ => false
  if s.quiet = 0 then
    let endsBlocks := match t with
      | .keyword word => word = "BEGIN" || word = "END"
      | .finish => true
      | _ => false
    match t with
    | .strange c =>
      let shown : Bytes := if ' ' < c && c < '\x7f' then ['\'', c, '\'']
        else filled "0x%%" [[Text.Hex.digit (c.toNat / 16)], [Text.Hex.digit (c.toNat % 16)]]
      tell (filled "%: unexpected character %" [Bytes.ofInt (← currentLine), shown])
    | _ =>
      if isClosing && 0 < s.parentheses then
        wrong ("missing ) near ".toList ++ t.shown)
        modify fun s => { s with parentheses := 0 }
      else if endsBlocks && 0 < s.braces then
        wrong ("missing \x7d near ".toList ++ t.shown)
        modify fun s => { s with braces := 0 }
      else wrong ("syntax error at or near ".toList ++ t.shown)

/-- The next token cannot stand where it is. -/
def unexpected {α : Type} : Parse α := do
  tellUnexpected
  match ← peek with
  | .finish => giveUp
  | _ => throw (.unexpected (← get))

/-- Whether the next token is a sign. -/
def isSign (text : String) : Parse Bool := do
  match ← peek with
  | .sign s => return s = text
  | _ => return false

/-- Whether the next token is a word with a meaning of its own. -/
def isKeyword (text : String) : Parse Bool := do
  match ← peek with
  | .keyword s => return s = text
  | _ => return false

/-- Passes a sign, if it is the next token. -/
def passSign (text : String) : Parse Bool := do
  let found ← isSign text
  if found then advance
  return found

/-- The next token cannot stand where it is, or the one after it if the output of a command could be
read here. -/
def unexpectedAfter {α : Type} : Parse α := do
  if ← isSign "|" then advance
  unexpected

/-- Passes a sign, which has to come next. -/
def expect (text : String) : Parse Unit := do
  if !(← passSign text) then if text = "(" then unexpected else unexpectedAfter

/-- Passes the ends of lines. -/
def skipLines : Parse Unit := do
  let isEnd (t : Token × Nat) : Bool := match t.1 with
    | .newline => true
    | _ => false
  modify fun s => { s with tokens := s.tokens.dropWhile isEnd, isStray := false }
  settle mostTokens

/-! ## Going on after faults -/

/-- Passes tokens up to the end of a statement. The number bounds how many there are. -/
def passStatement : Nat → Parse Unit
  | 0 => giveUp
  | n + 1 => do
    let finish : Parse Unit :=
      modify fun s => { s with quiet := 0, parentheses := 0, hasEnded := true }
    match ← peek with
    | .finish => giveUp
    | .newline =>
      finish
      skipLines
    | .sign ";" =>
      advance
      finish
      skipLines
    | .sign "\x7d" =>
      if (← get).hasEnded then
        advance
        passStatement n
      else finish
    | t =>
      advance
      if t.eatsLines then skipLines
      passStatement n

/-- Reads a statement. If that fails, what follows it is read. -/
def recovering {α : Type} (p : Parse α) (instead : α) : Parse α := fun s =>
  match p s with
  | .error (.unexpected s) =>
    let pass : Parse α := do
      passStatement mostTokens
      return instead
    pass s
  | result => result

/-- Passes tokens up to an opening brace. The number bounds how many there are. -/
def passToBlock : Nat → Parse Unit
  | 0 => giveUp
  | n + 1 => do
    match ← peek with
    | .finish => giveUp
    | .sign "\x7b" => modify fun s => { s with quiet := 3 }
    | _ =>
      advance
      passToBlock n

/-! ## Names -/

/-- The place of a name. -/
def slotOf (name : Bytes) : Parse Slot := do
  let s ← get
  match s.parameters.idxOf? name with
  | some i => return .own i
  | none =>
    match s.names.toList.idxOf? name with
    | some i => return .shared i
    | none =>
      set { s with names := s.names.push name }
      return .shared s.names.size

/-- Notes whether a name is that of a table. -/
def note (name : Bytes) (slot : Slot) (isTable : Bool) : Parse Unit := do
  let s ← get
  match slot with
  | .own i =>
    let (same, others) := if isTable then (s.tables, s.scalars) else (s.scalars, s.tables)
    if others.contains i then
      wrong (filled "illegal reference to local % %"
        [if isTable then "variable".toList else "array".toList, name])
    else if !same.contains i then
      set (if isTable then { s with tables := i :: same } else { s with scalars := i :: same })
  | .shared i =>
    match s.kinds.lookup i with
    | none => set { s with kinds := (i, isTable) :: s.kinds }
    | some known =>
      if known ≠ isTable then
        wrong (filled "illegal reference to % %"
          [if known then "array".toList else "variable".toList, name])

/-- The place of a table. -/
def tableOf (name : Bytes) : Parse Slot := do
  let slot ← slotOf name
  note name slot true
  return slot

/-! ## Expressions -/

/-- What ends an expression that would be part of it elsewhere. -/
structure Bounds where
  greater : Bool
  isIn : Bool
deriving DecidableEq, Inhabited

/-- The parts of an expression, which may hold whole expressions. -/
structure Grammar where
  whole : Bounds → Parse Expr
  /-- An operand with the signs before it. -/
  signed : Parse Expr
  /-- An operand without signs around it. -/
  bare : Parse Expr

/-- Whether something can be put into what an expression is. -/
def Expr.isTarget : Expr → Bool
  | .variable _ | .field _ | .element _ _ => true
  | _ => false

/-- Whether a token starts an operand that is joined with the one before it. -/
def Token.startsOperand : Token → Bool
  | number _ _ | text _ | regex _ | name _ | routine _ | known _ => true
  | keyword word => word = "getline"
  | sign s => s ∈ ["(", "$", "!", "++", "--"]
  | _ => false

/-- The operation of a sign that puts a value somewhere. -/
def assignment? : Token → Option (Option Operation)
  | .sign "=" => some none
  | .sign "+=" => some (some .plus)
  | .sign "-=" => some (some .minus)
  | .sign "*=" => some (some .times)
  | .sign "/=" => some (some .over)
  | .sign "%=" => some (some .rest)
  | .sign "^=" => some (some .power)
  | _ => none

/-- The operation of a sign that changes a number by one. -/
def step? : Token → Option Operation
  | .sign "++" => some .plus
  | .sign "--" => some .minus
  | _ => none

/-- Reads operands with operations between them that belong together from the left. Lines may end
after an operation if that is said. The number bounds how many there are. -/
def leftward (part : Parse Expr) (goesOn : Bool) (operation? : Token → Option (Expr → Expr → Expr)) :
    Nat → Expr → Parse Expr
  | 0, a => return a
  | n + 1, a => do
    match operation? (← peek) with
    | some f =>
      advance
      if goesOn then skipLines
      leftward part goesOn operation? n (f a (← part))
    | none => return a

/-- How many operations there may be in a row. -/
def mostOperations : Nat := 100000

/-- Reads operands with operations between them. -/
def chain (part : Parse Expr) (goesOn : Bool) (operation? : Token → Option (Expr → Expr → Expr)) :
    Parse Expr := do
  leftward part goesOn operation? mostOperations (← part)

namespace Grammar

/-- Reads expressions up to a sign. The number bounds how many there are. -/
def list (g : Grammar) (closing : String) : Nat → Parse (List Expr)
  | 0 => unexpected
  | n + 1 => do
    let e ← g.whole ⟨false, false⟩
    if ← passSign "," then
      skipLines
      return e :: (← list g closing n)
    else
      expect closing
      return [e]

/-- Reads arguments after their parenthesis. -/
def arguments (g : Grammar) : Parse (List Expr) := do
  if ← passSign ")" then return []
  else g.list ")" mostOperations

/-- Reads something into which a value can be put, if it comes next. -/
def target? (g : Grammar) : Parse (Option Expr) := do
  match ← peek with
  | .name _ | .sign "$" => return some (← g.bare)
  | .sign "(" =>
    advance
    if !(← isSign "$") then unexpected
    let e ← g.bare
    expect ")"
    return some e
  | _ => return none

/-- How many arguments a known routine takes at least and at most. -/
def argumentCounts (name : String) : Nat × Nat :=
  match name with
  | "length" => (0, 1)
  | "rand" | "systime" => (0, 0)
  | "srand" | "fflush" => (0, 1)
  | "sprintf" => (1, mostOperations)
  | "substr" | "split" => (2, 3)
  | "sub" | "gsub" => (2, 3)
  | "index" | "match" | "atan2" => (2, 2)
  | "strftime" => (0, 3)
  | _ => (1, 1)

/-- Reads an argument of a routine. A name that stands alone may be that of a table. -/
def argument (g : Grammar) : Parse Expr := do
  match ← peek, (← get).tokens with
  | .name name, _ :: (.sign closing, _) :: _ =>
    if closing = "," || closing = ")" then
      advance
      return .variable (← slotOf name)
    else g.whole ⟨false, false⟩
  | _, _ => g.whole ⟨false, false⟩

/-- Reads a name that is that of a table. -/
def tableName : Parse Expr := do
  match ← peek with
  | .name name =>
    advance
    if !((← isSign ",") || (← isSign ")")) then unexpected
    return .variable (← tableOf name)
  | _ => unexpected

/-- An expression that has to be matched. A text that is one is read at once. -/
def asPattern (e : Expr) : Parse Expr := do
  match e with
  | .text t =>
    match readRegex t with
    | .ok r => return .regex r
    | .error why =>
      wrong (regexFault t why)
      return e
  | _ => return e

/-- Reads arguments of a routine whose arguments have places of their own, where some have been read
before. The number bounds how many there are. -/
def ownArguments (g : Grammar) (name : String) : Nat → Nat → Parse (List Expr)
  | 0, _ => unexpected
  | n + 1, count => do
    let (least, most) := argumentCounts name
    if least ≤ count then if ← passSign ")" then return []
    if most ≤ count then unexpected
    if 0 < count then
      expect ","
      skipLines
    let e ← match name, count with
      | "split", 1 => tableName
      | "sub", 2 | "gsub", 2 =>
        match ← g.target? with
        | some e => pure e
        | none => unexpected
      | "length", _ => g.argument
      | "sub", 0 | "gsub", 0 | "match", 1 => asPattern (← g.whole ⟨false, false⟩)
      | "split", 2 =>
        match ← g.whole ⟨false, false⟩ with
        | .text t => if t.length ≤ 1 then pure (.text t) else asPattern (.text t)
        | e => pure e
      | _, _ => g.whole ⟨false, false⟩
    return e :: (← ownArguments g name n (count + 1))

/-- Reads the call of a known routine after its name. -/
def knownCall (g : Grammar) (name : String) : Parse Expr := do
  if name = "length" && !(← isSign "(") then return .known name []
  expect "("
  if name ∈ ["length", "split", "sub", "gsub", "match"] then
    return .known name (← g.ownArguments name 5 0)
  else
    let es ← g.arguments
    let (least, most) := argumentCounts name
    if es.length < least || most < es.length then
      wrong ("wrong number of arguments in call to ".toList ++ name.toList)
    return .known name es

/-- Reads the arguments of a routine. The number bounds how many there are. -/
def routineArguments (g : Grammar) : Nat → Parse (List Expr)
  | 0 => unexpected
  | n + 1 => do
    let e ← g.argument
    if ← passSign "," then
      skipLines
      return e :: (← routineArguments g n)
    else
      expect ")"
      return [e]

/-- Reads the call of a routine after its name. -/
def routineCall (g : Grammar) (name : Bytes) : Parse Expr := do
  let line ← currentLine
  expect "("
  let es ← if ← passSign ")" then pure [] else g.routineArguments mostOperations
  let passed (s : Reading) : List Passing := (es.zipIdx.filterMap fun (e, i) =>
    match e, s.routine with
    | .variable (.own k), some r => some ⟨r, k, name, i⟩
    | _, _ => none)
  modify fun s => { s with passings := passed s ++ s.passings }
  match (← get).known.lookup name with
  | some count => if count < es.length then wrong ("too many arguments in call to ".toList ++ name)
  | none => modify fun s => { s with calls := (name, es.length, line) :: s.calls }
  return .call name es

/-- Reads an operand without signs around it. -/
def operand (g : Grammar) : Parse Expr := do
  let t ← peek
  match t with
  | .number x _ =>
    advance
    return .number x
  | .text t =>
    advance
    return .text t
  | .regex t =>
    match readRegex t with
    | .ok r =>
      advance
      return .regex r
    | .error why =>
      wrong (regexFault t why)
      advance
      return .number 0
  | .sign "$" =>
    advance
    match ← peek with
    | .sign "-" | .sign "+" | .sign "!" => return .field (← g.signed)
    | _ => return .field (← g.bare)
  | .sign "(" =>
    let s ← get
    advance
    let first ← g.whole ⟨false, false⟩
    if s.place ≠ s.start || !(← isSign ",") then
      expect ")"
      match first with
      | .field _ => return first
      | _ => return .inside first
    else
      advance
      skipLines
      let es := first :: (← g.list ")" mostOperations)
      if ← isKeyword "in" then
        advance
        match ← peek with
        | .name table =>
          advance
          return .member es (← tableOf table)
        | _ => unexpected
      else unexpected
  | .name name =>
    advance
    if ← passSign "[" then
      let keys ← g.list "]" mostOperations
      return .element (← tableOf name) keys
    else
      let slot ← slotOf name
      note name slot false
      return .variable slot
  | .routine name =>
    modify fun s => { s with routines := name :: s.routines }
    advance
    g.routineCall name
  | .known name =>
    advance
    g.knownCall name
  | .keyword "getline" =>
    advance
    let target ← g.target?
    if ← passSign "<" then return .read (.file (← g.bare)) target
    else return .read .input target
  | _ =>
    match step? t with
    | some o =>
      advance
      match ← g.target? with
      | some e => if e.isTarget then return .step o false e else unexpected
      | none => unexpected
    | none => unexpected

/-- Reads an operand with the sign after it. -/
def withStep (g : Grammar) : Parse Expr := do
  let e ← g.bare
  match step? (← peek) with
  | some o =>
    if e.isTarget then
      advance
      return .step o true e
    else return e
  | none => return e

/-- Reads an operand with its power. -/
def power (g : Grammar) : Parse Expr := do
  let e ← g.withStep
  if ← passSign "^" then return .operation .power e (← g.signed) else return e

/-- Reads an operand with the signs before it. -/
def prefixed (g : Grammar) : Parse Expr := do
  if ← passSign "!" then return .not (← g.signed)
  else if ← passSign "-" then return .negative (← g.signed)
  else if ← passSign "+" then return .positive (← g.signed)
  else g.power

/-- Reads commands from which records are read. The number bounds how many there are. -/
def piped (g : Grammar) : Nat → Expr → Parse Expr
  | 0, e => return e
  | n + 1, e => do
    let isRead := match (← get).tokens with
      | (.sign "|", _) :: (.keyword "getline", _) :: _ => true
      | _ => false
    if isRead then
      advance
      advance
      let target ← g.target?
      piped g n (.read (.command e) target)
    else return e

/-- Reads a product. -/
def product (g : Grammar) : Parse Expr :=
  chain (do g.piped mostOperations (← g.signed)) false fun
    | .sign "*" => some (.operation .times)
    | .sign "/" => some (.operation .over)
    | .sign "%" => some (.operation .rest)
    | _ => none

/-- Reads a sum. -/
def sum (g : Grammar) : Parse Expr :=
  chain g.product false fun
    | .sign "+" => some (.operation .plus)
    | .sign "-" => some (.operation .minus)
    | _ => none

/-- Reads operands that are joined. The number bounds how many there are. -/
def joined (g : Grammar) : Nat → Expr → Parse Expr
  | 0, e => return e
  | n + 1, e => do
    if (← peek).startsOperand then joined g n (.join e (← g.sum)) else return e

/-- Reads a value that is put somewhere, or operands that are joined. -/
def assigned (g : Grammar) (b : Bounds) : Parse Expr := do
  modify fun s => { s with start := s.place }
  let e ← g.sum
  match e.isTarget, assignment? (← peek) with
  | true, some o =>
    advance
    return .assign o e (← g.whole b)
  | _, _ =>
    match e with
    | .member _ _ => return e
    | _ => g.joined mostOperations e

/-- Reads a comparison. -/
def compared (g : Grammar) (b : Bounds) : Parse Expr :=
  chain (g.assigned b) false fun
    | .sign "<" => some (.comparison .less)
    | .sign "<=" => some (.comparison .atMost)
    | .sign "==" => some (.comparison .equal)
    | .sign "!=" => some (.comparison .different)
    | .sign ">=" => some (.comparison .atLeast)
    | .sign ">" => if b.greater then none else some (.comparison .greater)
    | _ => none

/-- Reads an expression that has to be matched. -/
def pattern (g : Grammar) (b : Bounds) : Parse Expr := do asPattern (← g.compared b)

/-- Reads what has to match expressions. The number bounds how many there are. -/
def matchedBy (g : Grammar) (b : Bounds) : Nat → Expr → Parse Expr
  | 0, e => return e
  | n + 1, e => do
    match ← peek with
    | .sign "~" =>
      advance
      matchedBy g b n (.matching false e (← g.pattern b))
    | .sign "!~" =>
      advance
      matchedBy g b n (.matching true e (← g.pattern b))
    | _ => return e

/-- Reads what may have to match something. -/
def matched (g : Grammar) (b : Bounds) : Parse Expr := do
  g.matchedBy b mostOperations (← g.compared b)

/-- Reads tables in which something may be. The number bounds how many there are. -/
def memberships : Nat → Expr → Parse Expr
  | 0, e => return e
  | n + 1, e => do
    if ← isKeyword "in" then
      advance
      match ← peek with
      | .name table =>
        advance
        memberships n (.member [e] (← tableOf table))
      | _ => unexpected
    else return e

/-- Reads something that may be in a table. -/
def memberOf (g : Grammar) (b : Bounds) : Parse Expr := do
  let e ← g.matched b
  if b.isIn then return e else memberships mostOperations e

/-- Reads conditions of which all or one have to hold, and what depends on them. -/
def conditional (g : Grammar) (b : Bounds) : Parse Expr := do
  let both := chain (g.memberOf b) true fun
    | .sign "&&" => some .both
    | _ => none
  let c ← chain both true fun
    | .sign "||" => some .either
    | _ => none
  if ← passSign "?" then
    let first ← g.whole b
    expect ":"
    return .choice c first (← g.whole b)
  else return c

/-- The grammar of expressions. The number bounds how deep they are. -/
def ofDepth : Nat → Grammar
  | 0 => ⟨fun _ => unexpected, unexpected, unexpected⟩
  | n + 1 =>
    { whole := fun b => (ofDepth n).conditional b
      signed := fun s => (ofDepth n).prefixed s
      bare := fun s => (ofDepth n).operand s }

end Grammar

/-- How deep expressions and statements may be. -/
def mostDepth : Nat := 2000

/-- Reads an expression. -/
def expr (b : Bounds) : Parse Expr := (Grammar.ofDepth mostDepth).whole b

/-- Reads an expression in parentheses. -/
def inParentheses : Parse Expr := do
  expect "("
  let e ← expr ⟨false, false⟩
  expect ")"
  return e

/-! ## Statements -/

/-- Whether a simple statement ends here. -/
def isAtEnd : Parse Bool := do
  match ← peek with
  | .newline | .finish => return true
  | .sign s => return s ∈ [";", "\x7d"]
  | _ => return false

/-- Notes that a statement has ended. -/
def noteEnd : Parse Unit := modify fun s => { s with hasEnded := true, quiet := s.quiet - 1 }

/-- Passes the end of a simple statement. -/
def endStatement : Parse Unit := do
  match ← peek with
  | .newline =>
    noteEnd
    skipLines
  | .sign ";" =>
    advance
    skipLines
  | .sign "\x7d" => if (← get).hasEnded then unexpected else noteEnd
  | _ => unexpectedAfter

/-- An expression, unless the statement ends here. -/
def expr? : Parse (Option Expr) := do
  if ← isAtEnd then return none else return some (← expr ⟨false, false⟩)

/-- Reads expressions up to the end of what is printed. The number bounds how many there are. -/
def printedList : Nat → Parse (List Expr)
  | 0 => unexpected
  | n + 1 => do
    let e ← expr ⟨true, false⟩
    if ← passSign "," then
      skipLines
      return e :: (← printedList n)
    else return [e]

/-- Reads what is printed. -/
def printed : Parse (List Expr) := do
  let isOver : Parse Bool := do
    if ← isAtEnd then return true
    match ← peek with
    | .sign s => return s ∈ [">", ">>", "|"]
    | _ => return false
  if ← isOver then return []
  if let (.sign "(", _) :: (.sign ")", _) :: _ := (← get).tokens then
    advance
    advance
    if ← isOver then return [] else unexpected
  let s ← get
  if ← passSign "(" then
    let close : Parse (List Expr) := (Grammar.ofDepth mostDepth).list ")" mostOperations
    match close.run (← get) with
    | .ok (es, after) =>
      set after
      if ← isOver then return es
    | .error _ => pure ()
    set s
  printedList mostOperations

/-- Reads to what something is printed. -/
def target : Parse Target := do
  if ← passSign ">" then return .file (← expr ⟨true, false⟩)
  else if ← passSign ">>" then return .append (← expr ⟨true, false⟩)
  else if ← passSign "|" then return .command (← expr ⟨true, false⟩)
  else return .output

/-- Reads what is part of a loop. -/
def inLoop {α : Type} (p : Parse α) : Parse α := do
  modify fun s => { s with loops := s.loops + 1 }
  let result ← p
  modify fun s => { s with loops := s.loops - 1 }
  return result

/-- Reads a statement of one line after its word. -/
def simple (word : String) : Parse Statement := do
  let s ← get
  match word with
  | "print" =>
    advance
    let es ← printed
    return .print es (← target)
  | "printf" =>
    advance
    let es ← printed
    let t ← target
    if es.isEmpty then
      if !(← isAtEnd) then unexpectedAfter
      wrong "no arguments in call to printf".toList
    return .format es t
  | "next" | "nextfile" =>
    advance
    if !(← isAtEnd) then unexpected
    if !s.hasRecords then wrong ("improper use of ".toList ++ word.toList)
    return if word = "next" then .next else .nextFile
  | "exit" =>
    advance
    return .exit (← expr?)
  | "return" =>
    advance
    let e? ← expr?
    if !(← isAtEnd) then unexpectedAfter
    if s.routine.isNone then wrong "return outside function body".toList
    return .giveBack e?
  | "break" | "continue" =>
    advance
    if !(← isAtEnd) then unexpected
    if s.loops = 0 && s.faults.isEmpty then
      wrong (word.toList ++ " statement outside of loop".toList)
    return if word = "break" then .leave else .goOn
  | "delete" =>
    advance
    match ← peek with
    | .name name =>
      advance
      if ← passSign "[" then
        let keys ← (Grammar.ofDepth mostDepth).list "]" mostOperations
        return .delete (← tableOf name) (some keys)
      else return .delete (← tableOf name) none
    | _ => unexpected
  | _ => unexpected

/-- Reads what comes after the parenthesis of a loop that counts or goes through a table. -/
def loopHead : Parse (Statement → Statement) := do
  match (← get).tokens with
  | (.name name, _) :: (.keyword "in", _) :: (.name table, _) :: (.sign ")", _) :: _ =>
    let slot ← slotOf name
    note name slot false
    let table ← tableOf table
    advance
    advance
    advance
    expect ")"
    return .each slot table
  | _ =>
    let part (closing : String) : Parse (Option Expr) := do
      if ← passSign closing then return none
      let e ← expr ⟨false, false⟩
      expect closing
      return some e
    let start ← part ";"
    skipLines
    let c ← part ";"
    skipLines
    let step ← part ")"
    return .count start c step

/-- Reads what comes after the body of a loop that is run at least once: if it does not come next, a
statement is passed. The number bounds how often. -/
def loopEnd : Nat → Parse Expr
  | 0 => giveUp
  | n + 1 => do
    skipLines
    let c? : Option Expr ← recovering (do
      if !(← isKeyword "while") then unexpected
      advance
      let c ← inParentheses
      endStatement
      return some c) none
    match c? with
    | some c => return c
    | none => loopEnd n

/-- Reads a statement. The number bounds how deep statements are. -/
def statement : Nat → Parse Statement
  | 0 => unexpected
  | n + 1 => recovering (do
    let body : Parse Statement := do
      skipLines
      if (← isSign "\x7d") && !(← get).hasEnded then
        noteEnd
        return .block []
      else statement n
    match ← peek with
    | .sign "\x7b" =>
      advance
      let rec statements : Nat → Parse (List Statement)
        | 0 => unexpected
        | k + 1 => do
          skipLines
          if ← passSign "\x7d" then return []
          let s ← statement n
          return s :: (← statements k)
      return .block (← statements mostOperations)
    | .sign ";" =>
      advance
      skipLines
      return .block []
    | .keyword "if" =>
      advance
      let c ← inParentheses
      let a ← body
      let before ← get
      skipLines
      if ← isKeyword "else" then
        advance
        return .condition c a (some (← body))
      else
        set before
        return .condition c a none
    | .keyword "while" =>
      advance
      let c ← inParentheses
      return .loop c (← inLoop body)
    | .keyword "do" =>
      advance
      let s ← inLoop body
      return .loopOnce s (← loopEnd mostTokens)
    | .keyword "for" =>
      advance
      expect "("
      let head ← loopHead
      return head (← inLoop body)
    | .keyword "getline" =>
      let e ← expr ⟨false, false⟩
      endStatement
      return .expr e
    | .keyword word =>
      let s ← simple word
      endStatement
      return s
    | _ =>
      let e ← expr ⟨false, false⟩
      endStatement
      return .expr e) (.block [])

/-- Reads statements in braces. -/
def block : Parse Statement := do
  if !(← isSign "\x7b") then unexpected
  statement mostDepth

/-! ## Scripts -/

/-- Reads the parameters of a routine after their parenthesis. The number bounds how many there
are. -/
def parameters : Nat → Parse (List Bytes)
  | 0 => unexpected
  | n + 1 => do
    match ← peek with
    | .name name =>
      advance
      if ← passSign "," then
        skipLines
        let others ← parameters n
        if name ∈ others then wrong (name ++ " is duplicated in argument list".toList)
        return name :: others
      else
        expect ")"
        return [name]
    | _ => unexpected

/-- Reads a routine after its word. -/
def routine : Parse Routine := do
  let name ← match ← peek with
    | .name name | .routine name => pure name
    | _ => unexpected
  advance
  expect "("
  let ps ← if ← passSign ")" then pure [] else parameters mostOperations
  skipLines
  if (← get).known.any fun r => r.1 = name then wrong ("redefinition of ".toList ++ name)
  modify fun s => { s with
    routine := some name, parameters := ps, tables := [], scalars := [], hasRecords := true
    known := (name, ps.length) :: s.known, routines := name :: s.routines }
  let body ← block
  let s ← get
  set { s with routine := none, parameters := [], tables := [], scalars := [] }
  return ⟨name, ps, body, ps.zipIdx.map fun (_, i) => s.tables.contains i⟩

/-- A rule or a routine. -/
inductive Item where
  | rule (r : Rule)
  | routine (r : Routine)
deriving Inhabited

/-- Reads a rule or a routine. -/
def item : Parse Item := do
  let withRecords (hasRecords : Bool) : Parse Unit := modify fun s => { s with hasRecords }
  let special (s : Selection) : Parse Item := do
    advance
    withRecords false
    return .rule ⟨s, ← block⟩
  match ← peek with
  | .keyword "BEGIN" => special .atStart
  | .keyword "END" => special .atEnd
  | .keyword "function" =>
    advance
    return .routine (← routine)
  | .sign "\x7b" =>
    withRecords true
    return .rule ⟨.always, ← block⟩
  | _ =>
    withRecords true
    let start ← expr ⟨false, false⟩
    let selection ← if ← passSign "," then do
        skipLines
        pure (.range start (← expr ⟨false, false⟩))
      else pure (.where start)
    if ← isSign "\x7b" then return .rule ⟨selection, ← block⟩
    else
      match ← peek with
      | .newline =>
        skipLines
        return .rule ⟨selection, .print [] .output⟩
      | .sign ";" =>
        advance
        skipLines
        return .rule ⟨selection, .print [] .output⟩
      | .finish => return .rule ⟨selection, .print [] .output⟩
      | _ => unexpectedAfter

/-- Reads a rule or a routine. If that fails, what follows is passed up to a block, which is read. -/
def item? : Parse (Option Item) := fun s =>
  match item s with
  | .ok (i, s) => .ok (some i, s)
  | .error (.unexpected s) =>
    let pass : Parse (Option Item) := do
      modify fun s => { s with routine := none, parameters := [], tables := [], scalars := [] }
      passToBlock mostTokens
      let _ ← block
      return none
    pass s
  | .error (.over faults) => .error (.over faults)

/-- Reads rules and routines. The number bounds how many there are. -/
def items : Nat → Parse (List Item)
  | 0 => return []
  | n + 1 => do
    if !(← get).isStray then skipLines
    match ← peek with
    | .finish => return []
    | _ =>
      let i? ← item?
      return i?.toList ++ (← items n)

/-- Routines of which it is known which parameters are tables, because they are passed on as such. The
number bounds how often they are passed on. -/
def withTables (ps : List Passing) : Nat → List Routine → List Routine
  | 0, rs => rs
  | n + 1, rs =>
    let isTable (called : Bytes) (position : Nat) : Bool :=
      rs.any fun r => r.name = called && r.areTables.getD position false
    let isPassed (r : Routine) (i : Nat) : Bool := ps.any fun p =>
      p.routine = r.name && p.parameter = i && isTable p.called p.position
    withTables ps n (rs.map fun r =>
      { r with areTables := r.areTables.zipIdx.map fun (known, i) => known || isPassed r i })

/-- What is wrong with calls of routines that were not known when they were read, the last call first.
A line that is told stays the line for the faults after it. -/
def callFaults (rs : List Routine) : Nat → List (Bytes × Nat × Nat) → List Bytes
  | _, [] => []
  | last, (name, count, line) :: calls =>
    match rs.find? fun r => r.name = name with
    | none => filled "line %: function % never defined" [Bytes.ofInt last, name] ::
        callFaults rs last calls
    | some r =>
      if r.parameters.length < count then
        filled "line %: too many arguments in call to %" [Bytes.ofInt line, name] ::
          callFaults rs line calls
      else callFaults rs last calls

/-- Reads a script, or tells what is wrong with it. -/
def readScript (text : Bytes) : Except (List Bytes) Script :=
  let text := text ++ ['\n']
  let tokens := Token.all (text.length + 1) 1 .newline text
  let start : Reading :=
    { tokens, line := 0, names := (knownNames.map String.toList).toArray, kinds := [], routine := none
      parameters := [], tables := [], scalars := [], passings := [], calls := [], known := []
      routines := [], place := 0, start := 0
      parentheses := 0, braces := 0, loops := 0, hasRecords := false, hasEnded := false
      isStray := false, eatsLines := true, quiet := 0, faults := [] }
  let reading : Parse (List Item) := do
    settle mostTokens
    items (tokens.length + 1)
  match reading.run start with
  | .error (.over faults) => .error faults
  | .error (.unexpected s) => .error s.faults.reverse
  | .ok (is, s) =>
    let rules := is.filterMap fun
      | .rule r => some r
      | .routine _ => none
    let routines := is.filterMap fun
      | .routine r => some r
      | .rule _ => none
    let routines := withTables s.passings (routines.length + 1) routines
    let lastLine := (tokens.getLast?.getD (.finish, 0)).2
    let faults := if s.faults.isEmpty then (callFaults routines lastLine s.calls).take mostFaults
      else s.faults.reverse
    if faults.isEmpty then .ok ⟨rules, routines, s.names⟩ else .error faults

end TokenConformance.Sandbox.Shell.Records
