import TokenConformance.Sandbox.Shell.Machine

/-! # Arithmetic in scripts

* `Expression`: an expression over signed numbers of 64 bits.
* `Expression.read`: reads an expression; operators bind as they do in C.
* `Expression.value`: the value of an expression, with the assignments that it makes.
* `number?`: reads a number as a whole text.
-/

namespace TokenConformance.Sandbox.Shell

open Sandbox.Text (Bytes)

/-- An operator between two values. -/
inductive Operator where
  | multiply
  | divide
  | remainder
  | add
  | subtract
  | shiftLeft
  | shiftRight
  | less
  | lessOrEqual
  | greater
  | greaterOrEqual
  | equal
  | different
  | bitAnd
  | bitXor
  | bitOr
  | both
  | either
deriving DecidableEq, Inhabited

/-- An operator before a value. -/
inductive Sign where
  | plus
  | minus
  | not
  | complement
deriving DecidableEq, Inhabited

/-- An expression. -/
inductive Expression where
  | number (n : Int)
  | parameter (name : Bytes)
  | signed (sign : Sign) (e : Expression)
  | binary (o : Operator) (left right : Expression)
  | choice (test whenTrue whenFalse : Expression)
  | assign (name : Bytes) (o : Option Operator) (e : Expression)
deriving Inhabited

/-! ## Reading -/

/-- The spellings of the operators, the longer ones first, with how strongly they bind. -/
def operators : List (String × Operator × Nat) :=
  [("<<", .shiftLeft, 8), (">>", .shiftRight, 8), ("<=", .lessOrEqual, 7),
    (">=", .greaterOrEqual, 7), ("==", .equal, 6), ("!=", .different, 6), ("&&", .both, 2),
    ("||", .either, 1), ("*", .multiply, 10), ("/", .divide, 10), ("%", .remainder, 10),
    ("+", .add, 9), ("-", .subtract, 9), ("<", .less, 7), (">", .greater, 7), ("&", .bitAnd, 5),
    ("^", .bitXor, 4), ("|", .bitOr, 3)]

/-- A text without the blanks at its start. -/
def skipSpaces (cs : Bytes) : Bytes := cs.dropWhile fun c => c ∈ [' ', '\t', '\n']

/-- The operator at the start of a text, with how strongly it binds, and what follows it. -/
def operator? (cs : Bytes) : Option ((Operator × Nat) × Bytes) :=
  operators.findSome? fun (s, o, strength) =>
    if s.toList.isPrefixOf cs then some ((o, strength), cs.drop s.length) else none

/-- The assignment operator at the start of a text, and what follows it. -/
def assignment : Bytes → Option (Option Operator × Bytes)
  | '=' :: '=' :: _ => none
  | '=' :: rest => some (none, rest)
  | cs =>
    match operator? cs with
    | some ((o, strength), '=' :: rest) => if 3 ≤ strength && strength ≠ 6 && strength ≠ 7
      then some (some o, rest) else none
    | _ => none

/-- The value of a digit. -/
def digitValue (c : Char) : Nat :=
  if c.isDigit then c.toNat - '0'.toNat
  else if 'a' ≤ c ∧ c ≤ 'f' then c.toNat - 'a'.toNat + 10
  else if 'A' ≤ c ∧ c ≤ 'F' then c.toNat - 'A'.toNat + 10
  else 16

/-- The largest signed number of 64 bits. -/
def largest : Int := 9223372036854775807

/-- The number that agrees with another one in the lowest 64 bits. -/
def wrapped (n : Int) : Int := n.bmod 18446744073709551616

/-- The number that is nearest to another one. -/
def clamped (n : Int) : Int := max (-largest - 1) (min largest n)

/-- The digits of a number in a base at the start of a text as a number, and what follows them. -/
def digitsIn (base : Nat) (cs : Bytes) : Nat × Bytes :=
  let isDigit (c : Char) : Bool := digitValue c < base
  ((cs.takeWhile isDigit).foldl (fun n c => n * base + digitValue c) 0, cs.dropWhile isDigit)

/-- The number at the start of a text, which starts with a digit, and what follows it. -/
def unsignedNumber (cs : Bytes) : Nat × Bytes :=
  match cs with
  | '0' :: mark :: c :: rest =>
    if mark ≠ 'x' && mark ≠ 'X' then digitsIn 8 (mark :: c :: rest)
    else if digitValue c < 16 then digitsIn 16 (c :: rest)
    else (0, mark :: c :: rest)
  | '0' :: rest => digitsIn 8 rest
  | _ => digitsIn 10 cs

/-- Reads a number as a whole text; `base` is the way in which its digits are read. -/
def signedNumber? (digits : Bytes → Nat × Bytes) (text : Bytes) : Option Int :=
  let text := text.dropWhile fun c => c = ' ' || (9 ≤ c.toNat && c.toNat ≤ 13)
  let (isNegative, rest) :=
    match text with
    | '-' :: rest => (true, rest)
    | '+' :: rest => (false, rest)
    | _ => (false, text)
  if (rest.head?.map Char.isDigit).getD false then
    let (n, rest) := digits rest
    if rest.all fun c => c = ' ' || (9 ≤ c.toNat && c.toNat ≤ 13) then
      some (if isNegative then -(n : Int) else n)
    else none
  else none

/-- Reads a decimal number as a whole text. -/
def number? (text : Bytes) : Option Int := signedNumber? (digitsIn 10) text

/-- Reads a number as a whole text, with a base that its first characters tell. -/
def anyNumber? (text : Bytes) : Option Int := signedNumber? unsignedNumber text

/-- What reads an expression: a text is what was expected. -/
abbrev ExpressionReader := Bytes → Except String (Expression × Bytes)

section

variable (whole : ExpressionReader)

/-- Reads a value with the signs before it. The number bounds how many there are. -/
def readValue : Nat → ExpressionReader
  | 0, _ => .error "expecting primary"
  | n + 1, cs =>
    let signed (s : Sign) (rest : Bytes) := do
      let (e, rest) ← readValue n rest
      return (Expression.signed s e, rest)
    match skipSpaces cs with
    | '(' :: rest => do
      let (e, rest) ← whole rest
      match skipSpaces rest with
      | ')' :: rest => return (e, rest)
      | _ => throw "expecting ')'"
    | '!' :: '=' :: _ => .error "expecting primary"
    | '!' :: rest => signed .not rest
    | '~' :: rest => signed .complement rest
    | '-' :: rest => signed .minus rest
    | '+' :: rest => signed .plus rest
    | c :: rest =>
      if c.isDigit then
        let (n, rest) := unsignedNumber (c :: rest)
        .ok (.number (clamped n), rest)
      else if c.isAlpha || c = '_' then
        let continues (c : Char) : Bool := c.isAlphanum || c = '_'
        .ok (.parameter (c :: rest.takeWhile continues), rest.dropWhile continues)
      else .error "expecting primary"
    | [] => .error "expecting primary"

/-- Reads what follows an expression, as far as it binds at least as strongly as is said. -/
def readOperators : Nat → Nat → Expression → ExpressionReader
  | 0, _, left, cs => .ok (left, cs)
  | n + 1, least, left, cs =>
    match operator? (skipSpaces cs) with
    | some ((o, strength), rest) =>
      if strength < least || (assignment (skipSpaces cs)).isSome then .ok (left, cs)
      else do
        let (right, rest) ← readValue whole rest.length rest
        let (right, rest) ← readOperators n (strength + 1) right rest
        readOperators n least (.binary o left right) rest
    | none => .ok (left, cs)

end

/-- Reads an expression. The number bounds how deep it is. -/
def Expression.read : Nat → ExpressionReader
  | 0, _ => .error "expecting primary"
  | n + 1, cs => do
    let assigned? :=
      match readValue (Expression.read n) (cs.length + 1) cs with
      | .ok (.parameter name, rest) => (assignment (skipSpaces rest)).map (name, ·)
      | _ => none
    match assigned? with
    | some (name, o, rest) =>
      let (e, rest) ← Expression.read n rest
      return (.assign name o e, rest)
    | none =>
      let (left, rest) ← readValue (Expression.read n) (cs.length + 1) cs
      let (test, rest) ← readOperators (Expression.read n) cs.length 1 left rest
      match skipSpaces rest with
      | '?' :: rest =>
        let (whenTrue, rest) ← Expression.read n rest
        match skipSpaces rest with
        | ':' :: rest =>
          let (whenFalse, rest) ← Expression.read n rest
          return (.choice test whenTrue whenFalse, rest)
        | _ => throw "expecting ':'"
      | rest => return (test, rest)

/-! ## Values -/

/-- A truth value as a number. -/
def truth (b : Bool) : Int := if b then 1 else 0

/-- The value of an operator, unless it divides by zero. -/
def Operator.apply (o : Operator) (a b : Int) : Option Int :=
  let bits (f : BitVec 64 → BitVec 64 → BitVec 64) : Int :=
    (f (BitVec.ofInt 64 a) (BitVec.ofInt 64 b)).toInt
  let count := (b % 64).toNat
  match o with
  | multiply => some (wrapped (a * b))
  | divide => if b = 0 then none else some (wrapped (a.tdiv b))
  | remainder => if b = 0 then none else some (a.tmod b)
  | add => some (wrapped (a + b))
  | subtract => some (wrapped (a - b))
  | shiftLeft => some ((BitVec.ofInt 64 a <<< count).toInt)
  | shiftRight => some (((BitVec.ofInt 64 a).sshiftRight count).toInt)
  | less => some (truth (a < b))
  | lessOrEqual => some (truth (a ≤ b))
  | greater => some (truth (a > b))
  | greaterOrEqual => some (truth (a ≥ b))
  | equal => some (truth (a = b))
  | different => some (truth (a ≠ b))
  | bitAnd => some (bits (· &&& ·))
  | bitXor => some (bits (· ^^^ ·))
  | bitOr => some (bits (· ||| ·))
  | both => some (truth (a ≠ 0 && b ≠ 0))
  | either => some (truth (a ≠ 0 || b ≠ 0))

/-- The value of a sign before a number. -/
def Sign.apply (s : Sign) (a : Int) : Int :=
  match s with
  | plus => a
  | minus => wrapped (-a)
  | not => truth (a = 0)
  | complement => -a - 1

/-- Ends the shell because of an expression. -/
def arithmeticFault {α : Type} (reason : String) (text : Bytes) : Action α :=
  abort ("arithmetic expression: ".toList ++ reason.toList ++ ": \"".toList ++ text ++ ['"'])

/-- The number that a variable holds. -/
def numberOf (name : Bytes) : Action Int := do
  let m ← get
  match m.lookup? name with
  | none => return 0
  | some value =>
    if skipSpaces value = [] then return 0
    match anyNumber? value with
    | some n => return clamped n
    | none => abort ("Illegal number: ".toList ++ value)

/-- The value of an expression, which was written as a text. -/
def Expression.value (text : Bytes) : Expression → Action Int
  | .number n => return n
  | .parameter name => numberOf name
  | .signed s e => return s.apply (← e.value text)
  | .choice test whenTrue whenFalse => do
    if (← test.value text) ≠ 0 then whenTrue.value text else whenFalse.value text
  | .binary .both left right => do
    if (← left.value text) = 0 then return 0
    return truth ((← right.value text) ≠ 0)
  | .binary .either left right => do
    if (← left.value text) ≠ 0 then return 1
    return truth ((← right.value text) ≠ 0)
  | .binary o left right => do
    let a ← left.value text
    let b ← right.value text
    applied o a b
  | .assign name o e => do
    let n ← match o with
      | none => e.value text
      | some o => do
        let a ← numberOf name
        let b ← e.value text
        applied o a b
    setVariable name (Bytes.ofInt n)
    return n
where
  /-- The value of an operator, or the end of the shell. -/
  applied (o : Operator) (a b : Int) : Action Int :=
    match o.apply a b with
    | some n => pure n
    | none => arithmeticFault "division by zero" text

/-- The value of an expression that is given as a text. -/
def evaluate (text : Bytes) : Action Int := do
  match Expression.read (text.length + 1) text with
  | .ok (e, rest) =>
    if skipSpaces rest = [] then e.value text else arithmeticFault "expecting EOF" text
  | .error reason => arithmeticFault reason text

end TokenConformance.Sandbox.Shell
