import TokenConformance.Body.Scope
import TokenConformance.Body.Traversal

/-! # Calls and writes

* `callees`: the functions of the hierarchy that a call may run. A member counts only on `super`
  and `this`; any other member belongs to another contract.
* `isStateRooted`: whether an expression denotes a place in the state.
* `writes`: whether one expression, apart from what is inside it, changes the state.
* `statementWrites`: whether anything in a statement does.
* `calls`: the functions of the hierarchy that a body calls.
-/

namespace TokenConformance.Body

open Solidity

/-- The functions of the hierarchy that a call of an expression may run. -/
def callees (scope : Scope) : Expression → List Callee
  | .identifier name declaration => scope.callees name declaration
  | .member (.identifier object _) name declaration =>
    if object = "super" ∨ object = "this" then scope.callees name declaration else []
  | .withOptions callee => callees scope callee
  | _ => []

mutual

/-- Whether an expression denotes a place in the state. Of a tuple one component is enough. -/
def isStateRooted (scope : Scope) : Expression → Bool
  | .identifier name declaration => (scope.stateVar? name declaration).isSome
  | .index base _ => isStateRooted scope base
  | .member object _ _ => isStateRooted scope object
  | .tuple components => anyStateRooted scope components
  | _ => false

/-- Whether a component of a tuple denotes a place in the state. -/
def anyStateRooted (scope : Scope) : List (Option Expression) → Bool
  | [] => false
  | none :: rest => anyStateRooted scope rest
  | some e :: rest => isStateRooted scope e || anyStateRooted scope rest

end

/-- Whether an operator with one operand changes it. -/
def changesOperand (operator : String) : Bool :=
  operator = "++" || operator = "--" || operator = "delete"

/-- Whether a call of an expression changes the state: `push` and `pop` change the place that they
are members of, and a function of the hierarchy what its mutability allows. -/
def callWrites (scope : Scope) (callee : Expression) : Bool :=
  match callee with
  | .member object name _ =>
    if name = "push" ∨ name = "pop" then isStateRooted scope object
    else (callees scope callee).any fun c => c.mutability.mutatesState
  | _ => (callees scope callee).any fun c => c.mutability.mutatesState

/-- Whether one expression, apart from what is inside it, changes the state. -/
def writes (scope : Scope) : Expression → Bool
  | .assign target _ => isStateRooted scope target
  | .unary operator operand => changesOperand operator && isStateRooted scope operand
  | .call callee _ => callWrites scope callee
  | _ => false

/-- Whether anything in a statement changes the state. -/
def statementWrites (scope : Scope) (s : Statement) : Bool := s.expressions.any (writes scope)

/-- The functions that one expression, apart from what is inside it, calls. -/
def callsOf (scope : Scope) : Expression → List Selector
  | .call callee _ => (callees scope callee).map (·.selector)
  | _ => []

/-- The functions of the hierarchy that statements call. -/
def calls (scope : Scope) (statements : List Statement) : OrderedSet Selector :=
  .ofList ((statements.flatMap Statement.expressions).flatMap (callsOf scope))

end TokenConformance.Body
