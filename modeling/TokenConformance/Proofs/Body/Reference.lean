import TokenConformance.Proofs.Body.Position

/-! # Names that refer in another way

A name in a tree stands by itself or as a member of the contract that declares it, and carries the
number of its declaration or none. Which names of a tree are written in another way is chosen by
the places at which they stand.

* `Reference`: how a name is written and what number it carries.
* `References`: a choice for each place.
* `Expression.refer`, `Statement.refer`, `referBody`: a tree with its names written as chosen.
* `referBody_plain`: names that are left as they are change nothing.
-/

namespace TokenConformance.Solidity

/-- How a name is written: by itself, or as a member of a contract that is named before it. -/
structure Reference where
  /-- The name of the contract and the number that this name carries. -/
  contract : Option (String × Option NodeId)
  declaration : Option NodeId
deriving DecidableEq

/-- The expression that a name with a reference is. -/
def Reference.to (r : Reference) (name : String) : Expression :=
  match r.contract with
  | none => .identifier name r.declaration
  | some (contract, declaration) =>
    .member (.identifier contract declaration) name r.declaration

/-- A reference for each name that stands by itself, by its place, its text and its number. -/
abbrev References := Position → String → Option NodeId → Reference

/-- The references in one part of a tree. -/
def References.below (f : References) (i : Nat) : References := fun p => f (i :: p)

/-- Every name is left as it is. -/
def References.plain : References := fun _ _ declaration => ⟨none, declaration⟩

@[simp] theorem References.plain_below (i : Nat) : plain.below i = plain := rfl

/-! ## Expressions -/

namespace Expression

mutual

/-- An expression with its names written as chosen. -/
def refer (f : References) : Expression → Expression
  | .identifier name declaration => (f [] name declaration).to name
  | .member object name declaration => .member (object.refer (f.below 0)) name declaration
  | .index base subscript => .index (base.refer (f.below 0)) (referOption (f.below 1) subscript)
  | .call callee arguments => .call (callee.refer (f.below 0)) (referList f 1 arguments)
  | .withOptions callee => .withOptions (callee.refer (f.below 0))
  | .binary left right => .binary (left.refer (f.below 0)) (right.refer (f.below 1))
  | .unary operator operand => .unary operator (operand.refer (f.below 0))
  | .assign target value => .assign (target.refer (f.below 0)) (value.refer (f.below 1))
  | .conditional condition whenTrue whenFalse =>
    .conditional (condition.refer (f.below 0)) (whenTrue.refer (f.below 1))
      (whenFalse.refer (f.below 2))
  | .tuple components => .tuple (referComponents f 0 components)
  | .other => .other

/-- An expression that may be missing. -/
def referOption (f : References) : Option Expression → Option Expression
  | none => none
  | some e => some (e.refer f)

/-- Several expressions, the first of them at the number `n`. -/
def referList (f : References) (n : Nat) : List Expression → List Expression
  | [] => []
  | e :: rest => e.refer (f.below n) :: referList f (n + 1) rest

/-- The components of a tuple, the first of them at the number `n`. -/
def referComponents (f : References) (n : Nat) :
    List (Option Expression) → List (Option Expression)
  | [] => []
  | e :: rest => referOption (f.below n) e :: referComponents f (n + 1) rest

end

mutual

theorem refer_plain : ∀ e : Expression, e.refer .plain = e
  | .identifier _ _ | .other => rfl
  | .member object _ _ => by simp [refer, refer_plain object]
  | .index base subscript => by simp [refer, refer_plain base, referOption_plain subscript]
  | .call callee arguments => by simp [refer, refer_plain callee, referList_plain arguments]
  | .withOptions callee => by simp [refer, refer_plain callee]
  | .binary left right => by simp [refer, refer_plain left, refer_plain right]
  | .unary _ operand => by simp [refer, refer_plain operand]
  | .assign target value => by simp [refer, refer_plain target, refer_plain value]
  | .conditional condition whenTrue whenFalse => by
    simp [refer, refer_plain condition, refer_plain whenTrue, refer_plain whenFalse]
  | .tuple components => by simp [refer, referComponents_plain components]

theorem referOption_plain : ∀ e : Option Expression, referOption .plain e = e
  | none => rfl
  | some e => by rw [referOption, refer_plain e]

theorem referList_plain : ∀ (es : List Expression) {n : Nat}, referList .plain n es = es
  | [], _ => rfl
  | e :: rest, _ => by rw [referList, References.plain_below, refer_plain e, referList_plain rest]

theorem referComponents_plain :
    ∀ (es : List (Option Expression)) {n : Nat}, referComponents .plain n es = es
  | [], _ => rfl
  | e :: rest, _ => by
    rw [referComponents, References.plain_below, referOption_plain e, referComponents_plain rest]

end

end Expression

/-! ## Statements -/

namespace Statement

open Expression (referOption)

mutual

/-- A statement with its names written as chosen. -/
def refer (f : References) : Statement → Statement
  | .block statements => .block (referList f 0 statements)
  | .unchecked statements => .unchecked (referList f 0 statements)
  | .expression value => .expression (value.refer (f.below 0))
  | .branch condition whenTrue whenFalse =>
    .branch (condition.refer (f.below 0)) (whenTrue.refer (f.below 1))
      (referMissing (f.below 2) whenFalse)
  | .declaration initial => .declaration (referOption (f.below 0) initial)
  | .ret value => .ret (referOption (f.below 0) value)
  | .emit event => .emit (event.refer (f.below 0))
  | .revert error => .revert (error.refer (f.below 0))
  | .forLoop initial condition step body =>
    .forLoop (referMissing (f.below 0) initial) (referOption (f.below 1) condition)
      (referMissing (f.below 2) step) (body.refer (f.below 3))
  | .whileLoop condition body => .whileLoop (condition.refer (f.below 0)) (body.refer (f.below 1))
  | .doWhileLoop condition body =>
    .doWhileLoop (condition.refer (f.below 0)) (body.refer (f.below 1))
  | .other => .other

/-- A statement that may be missing. -/
def referMissing (f : References) : Option Statement → Option Statement
  | none => none
  | some s => some (s.refer f)

/-- Several statements, the first of them at the number `n`. -/
def referList (f : References) (n : Nat) : List Statement → List Statement
  | [] => []
  | s :: rest => s.refer (f.below n) :: referList f (n + 1) rest

end

mutual

theorem refer_plain : ∀ s : Statement, s.refer .plain = s
  | .block statements => by rw [refer, referList_plain statements]
  | .unchecked statements => by rw [refer, referList_plain statements]
  | .expression value => by simp [refer, Expression.refer_plain]
  | .branch condition whenTrue whenFalse => by
    simp [refer, Expression.refer_plain, refer_plain whenTrue, referMissing_plain whenFalse]
  | .declaration initial => by simp [refer, Expression.referOption_plain]
  | .ret value => by simp [refer, Expression.referOption_plain]
  | .emit event => by simp [refer, Expression.refer_plain]
  | .revert error => by simp [refer, Expression.refer_plain]
  | .forLoop initial condition step body => by
    simp [refer, Expression.referOption_plain, referMissing_plain initial, referMissing_plain step,
      refer_plain body]
  | .whileLoop condition body => by simp [refer, Expression.refer_plain, refer_plain body]
  | .doWhileLoop condition body => by simp [refer, Expression.refer_plain, refer_plain body]
  | .other => rfl

theorem referMissing_plain : ∀ s : Option Statement, referMissing .plain s = s
  | none => rfl
  | some s => by rw [referMissing, refer_plain s]

theorem referList_plain : ∀ (ss : List Statement) {n : Nat}, referList .plain n ss = ss
  | [], _ => rfl
  | s :: rest, _ => by rw [referList, References.plain_below, refer_plain s, referList_plain rest]

end

end Statement

/-- A body with its names written as chosen. -/
def referBody (f : References) (body : List Statement) : List Statement :=
  Statement.referList f 0 body

@[simp] theorem referBody_plain (body : List Statement) : referBody .plain body = body :=
  Statement.referList_plain body

end TokenConformance.Solidity
