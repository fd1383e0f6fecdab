import TokenConformance.Sandbox.Shell.Arithmetic

/-! # Conditions

What `test` finds out about texts, numbers and files.

* `Mark`: what a word of a condition is; `mark` tells it from the words that follow.
* `Machine.fileTest`, `Machine.fileRelation`: whether something holds of a file, or of two.
* `holds`: whether a condition holds.
-/

namespace TokenConformance.Sandbox.Shell

open Sandbox.Text (Bytes)
open Sandbox (Kind Node)

/-- What a word of a condition is. -/
inductive Mark where
  | finish
  | operand
  | unary (name : Char)
  | binary (name : String)
  | not
  | both
  | either
  | opening
  | closing
deriving DecidableEq, Inhabited

/-- The operators between two words. -/
def binaryTests : List String :=
  ["=", "!=", "<", ">", "-eq", "-ne", "-gt", "-ge", "-lt", "-le", "-nt", "-ot", "-ef"]

/-- What a word is as an operator. -/
def operatorMark? (w : Bytes) : Option Mark :=
  match w with
  | ['!'] => some .not
  | ['('] => some .opening
  | [')'] => some .closing
  | ['-', 'a'] => some .both
  | ['-', 'o'] => some .either
  | ['-', c] => if c ∈ "rwxefdcbpugkstznhOGLS".toList then some (.unary c) else none
  | _ => (binaryTests.find? fun s => s.toList = w).map .binary

/-- Whether a word is an operator between two others. -/
def isBinary (w : Bytes) : Bool :=
  match operatorMark? w with
  | some (.binary _) => true
  | _ => false

/-- What the first one of some words is. An operator that has nothing to work on is a text. -/
def mark (ws : List Bytes) : Mark :=
  match ws with
  | [] => .finish
  | w :: rest =>
    match operatorMark? w with
    | none => .operand
    | some (.unary c) =>
      match rest with
      | [] => .operand
      | [_] => .unary c
      | next :: after :: _ => if isBinary next && after ≠ [')'] then .operand else .unary c
    | some .opening => if rest = [] then .operand else .opening
    | some m => m

/-- Whether a file with some permissions may be run. -/
def isRunnable (node : Node) : Bool := node.kind = .directory || node.mode &&& 0o111 ≠ 0

/-- Whether something holds of what stands at a path. -/
def Machine.fileTest (m : Machine) (test : Char) (path : Bytes) : Bool :=
  let node? := (m.nodeOf path).toOption.map (·.2)
  let kind? : Option Kind := node?.map (·.kind)
  let hasMode (bits : Nat) : Bool := node?.any fun n => n.mode &&& bits ≠ 0
  match test with
  | 'e' | 'r' | 'w' | 'O' | 'G' => node?.isSome
  | 'x' => node?.any isRunnable
  | 'f' =>
    match kind? with
    | some (.file _) | some (.program _) => true
    | _ => false
  | 'd' => kind? = some .directory
  | 'c' =>
    match kind? with
    | some (.device _) => true
    | _ => false
  | 'p' =>
    match kind? with
    | some (.pipe _) => true
    | _ => false
  | 'h' | 'L' =>
    match m.kindNamed? path with
    | some (.link _) => true
    | _ => false
  | 's' =>
    match kind? with
    | some (.file content) => content ≠ []
    | some .directory | some (.program _) => true
    | _ => false
  | 'u' => hasMode 0o4000
  | 'g' => hasMode 0o2000
  | 'k' => hasMode 0o1000
  | _ => false

/-- Whether something holds of what stands at two paths. -/
def Machine.fileRelation (m : Machine) (left right : Bytes) (test : Nat × Node → Nat × Node → Bool) :
    Bool :=
  match m.nodeOf left, m.nodeOf right with
  | .ok a, .ok b => test a b
  | _, _ => false

/-- A number in a condition. -/
def conditionNumber (text : Bytes) : Except Bytes Int :=
  match (number? text).filter fun n => clamped n = n with
  | some n => .ok n
  | none => .error ("Illegal number: ".toList ++ text)

/-- Whether an operator holds between two words. -/
def Machine.binaryTest (m : Machine) (name : String) (left right : Bytes) : Except Bytes Bool := do
  let compared (test : Int → Int → Bool) : Except Bytes Bool := do
    let a ← conditionNumber left
    let b ← conditionNumber right
    return test a b
  match name with
  | "=" => return left = right
  | "!=" => return left ≠ right
  | "<" => return !Bytes.isAtMost right left
  | ">" => return !Bytes.isAtMost left right
  | "-eq" => compared (· == ·)
  | "-ne" => compared (· != ·)
  | "-gt" => compared (· > ·)
  | "-ge" => compared (· ≥ ·)
  | "-lt" => compared (· < ·)
  | "-le" => compared (· ≤ ·)
  | "-ef" => return m.fileRelation left right fun a b => a.1 = b.1
  | "-nt" => return m.fileRelation left right fun a b => a.2.time > b.2.time
  | "-ot" => return m.fileRelation left right fun a b => a.2.time < b.2.time
  | _ => return false

/-- The fault of a word in a condition. -/
def wordFault {α : Type} (w : Bytes) (reason : String) : Except Bytes α :=
  .error ((if w = [] then [] else w ++ ": ".toList) ++ reason.toList)

section

variable (m : Machine)

/-- Whether a condition without `-a` and `-o` holds. The words from its last one on are left.
`inner` decides what stands in parentheses. -/
def primaryHolds (inner : List Bytes → Except Bytes (Bool × List Bytes)) (first : Mark)
    (ws : List Bytes) : Except Bytes (Bool × List Bytes) :=
  match first, ws with
  | .finish, _ => .ok (false, ws)
  | _, [] => .ok (false, [])
  | .opening, _ :: rest =>
    if mark rest = .closing then .ok (false, rest)
    else do
      let (value, left) ← inner rest
      if mark left.tail = .closing then return (value, left.tail)
      else throw "closing paren expected".toList
  | .unary c, w :: rest =>
    match rest with
    | [] => wordFault w "argument expected"
    | operand :: _ =>
      match c with
      | 'z' => .ok (operand = [], rest)
      | 'n' => .ok (operand ≠ [], rest)
      | 't' => (conditionNumber operand).map fun _ => (false, rest)
      | _ => .ok (m.fileTest c operand, rest)
  | _, w :: rest =>
    match mark rest, rest with
    | .binary name, _ :: [] => wordFault name.toList "argument expected"
    | .binary name, _ :: right :: after => do
      return (← m.binaryTest name w right, right :: after)
    | _, _ => .ok (w ≠ [], w :: rest)

/-- Whether a condition holds that may be negated. -/
def negationHolds (inner : List Bytes → Except Bytes (Bool × List Bytes)) :
    Nat → Mark → List Bytes → Except Bytes (Bool × List Bytes)
  | n + 1, .not, ws => do
    let next := mark ws.tail
    let (value, left) ← negationHolds inner n next (if next = .finish then ws else ws.tail)
    return (!value, left)
  | _, first, ws => primaryHolds m inner first ws

/-- Whether all or any of some conditions hold that are joined by an operator. -/
def joinedHolds (operator : Mark) (join : Bool → Bool → Bool)
    (one : Mark → List Bytes → Except Bytes (Bool × List Bytes)) :
    Nat → Bool → Mark → List Bytes → Except Bytes (Bool × List Bytes)
  | 0, before, _, ws => .ok (before, ws)
  | n + 1, before, first, ws => do
    let (value, left) ← one first ws
    let value := join before value
    if mark left.tail = operator then
      joinedHolds operator join one n value (mark (left.drop 2)) (left.drop 2)
    else return (value, left)

/-- Whether a whole condition holds. The number bounds how deep its parentheses are. -/
def conditionHolds : Nat → Mark → List Bytes → Except Bytes (Bool × List Bytes)
  | 0, _, ws => .ok (false, ws)
  | n + 1, first, ws =>
    let inner (ws : List Bytes) := conditionHolds n (mark ws) ws
    let negation := negationHolds m inner (ws.length + 1)
    let all := joinedHolds .both (· && ·) negation (ws.length + 1) true
    joinedHolds .either (· || ·) all (ws.length + 1) false first ws

/-- Whether the words of a condition hold, after as many negations as there are. -/
def holdsAfter : Nat → Bool → List Bytes → Except Bytes Bool
  | 0, isNegated, _ => .ok isNegated
  | n + 1, isNegated, ws =>
    let decided (first : Mark) (ws : List Bytes) : Except Bytes Bool := do
      let (value, left) ← conditionHolds m (ws.length + 1) first ws
      match left with
      | w :: _ :: _ => wordFault w "unexpected operator"
      | _ => return value != isNegated
    let short : Except Bytes Bool :=
      match ws with
      | ['('] :: rest =>
        if rest.getLast? = some [')'] then decided (mark rest.dropLast) rest.dropLast
        else decided (mark ws) ws
      | ['!'] :: rest => holdsAfter n (!isNegated) rest
      | _ => decided (mark ws) ws
    match ws with
    | [] => .ok isNegated
    | [_, operator, _] => if isBinary operator then decided .operand ws else short
    | [_, _, _, _] => short
    | _ => decided (mark ws) ws

/-- Whether the words of a condition hold. -/
def holds (ws : List Bytes) : Except Bytes Bool := holdsAfter m (ws.length + 1) false ws

end

end TokenConformance.Sandbox.Shell
