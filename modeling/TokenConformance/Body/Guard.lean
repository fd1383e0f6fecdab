import TokenConformance.Body.Effect

/-! # Guards

A guard is the condition of an `if`, of a loop, or of a `require` or `assert`. It gates a write
when a write is reached only past it.

* `reads`: what a condition reads.
* `assertedCondition?`: the condition of a `require` or `assert`.
* `terminates`: whether control never goes past a statement.
* `guards`: the guards of a list of statements, outer before inner.
-/

namespace TokenConformance.Body

open Solidity

/-- What one expression of a condition reads: a state variable, or the function that it calls. -/
def readOf (scope : Scope) : Expression → Option String
  | .identifier name declaration => scope.stateVar? name declaration
  | .call (.identifier name _) _ => some name
  | .call (.member _ name _) _ => some name
  | _ => none

/-- What a condition reads. -/
def reads (scope : Scope) (condition : Expression) : OrderedSet String :=
  .ofList (condition.nodes.filterMap (readOf scope))

/-- The condition of a `require` or `assert`. -/
def assertedCondition? : Expression → Option Expression
  | .call (.identifier name _) arguments =>
    if name = "require" ∨ name = "assert" then arguments.head? else none
  | _ => none

/-- Whether an expression is a call of `revert`. -/
def isRevertCall : Expression → Bool
  | .call (.identifier name _) _ => name = "revert"
  | _ => false

mutual

/-- Whether control never goes past a statement. Of a block the last statement decides. -/
def terminates : Statement → Bool
  | .revert _ => true
  | .ret _ => true
  | .expression e => isRevertCall e
  | .block statements => lastTerminates statements
  | .unchecked statements => lastTerminates statements
  | .branch _ whenTrue whenFalse => terminates whenTrue && someTerminates whenFalse
  | _ => false

/-- Whether there is a last statement and control never goes past it. -/
def lastTerminates : List Statement → Bool
  | [] => false
  | [s] => terminates s
  | _ :: s :: rest => lastTerminates (s :: rest)

/-- Whether there is a statement and control never goes past it. -/
def someTerminates : Option Statement → Bool
  | none => false
  | some s => terminates s

end

/-- Whether a statement that may be missing changes the state. -/
def optionWrites (scope : Scope) : Option Statement → Bool
  | none => false
  | some s => statementWrites scope s

mutual

/-- The guards of a list of statements. -/
def guards (scope : Scope) : List Statement → List Guard
  | [] => []
  | s :: rest => guardsOf scope (rest.any (statementWrites scope)) s ++ guards scope rest

/-- The guards of one statement, when `later` tells whether a later statement of its list changes
the state. -/
def guardsOf (scope : Scope) (later : Bool) : Statement → List Guard
  | .branch condition whenTrue whenFalse =>
    ⟨reads scope condition,
      statementWrites scope whenTrue || optionWrites scope whenFalse ||
        (terminates whenTrue && later)⟩ ::
      (guardsOf scope false whenTrue ++ guardsOfOption scope whenFalse)
  | .expression e =>
    match assertedCondition? e with
    | none => []
    | some condition => [⟨reads scope condition, later⟩]
  | .forLoop _ condition _ body =>
    (condition.map fun c => ⟨reads scope c, statementWrites scope body⟩).toList ++
      guardsOf scope false body
  | .whileLoop condition body =>
    ⟨reads scope condition, statementWrites scope body⟩ :: guardsOf scope false body
  | .doWhileLoop condition body =>
    ⟨reads scope condition, statementWrites scope body⟩ :: guardsOf scope false body
  | .block statements => guards scope statements
  | .unchecked statements => guards scope statements
  | _ => []

/-- The guards of a statement that may be missing. -/
def guardsOfOption (scope : Scope) : Option Statement → List Guard
  | none => []
  | some s => guardsOf scope false s

end

end TokenConformance.Body
