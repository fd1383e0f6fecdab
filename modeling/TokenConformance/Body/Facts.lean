import TokenConformance.Body.Guard

/-! # Facts about a body

One body is looked at alone. Calls are recorded and not followed.

* `emission?`: the event of an `emit` statement.
* `bodyFacts`: the guards, events and calls of a body, none of them where there is no body.
-/

namespace TokenConformance.Body

open Solidity

/-- The event that a call names, with the types of its declaration. -/
def emissionOf? (scope : Scope) : Expression → Option Emission
  | .call (.identifier name declaration) _ =>
    some ⟨name, (scope.event? name declaration).map EventShape.types⟩
  | .call (.member _ name declaration) _ =>
    some ⟨name, (scope.event? name declaration).map EventShape.types⟩
  | _ => none

/-- The event of an `emit` statement. -/
def emission? (scope : Scope) : Statement → Option Emission
  | .emit event => emissionOf? scope event
  | _ => none

/-- The events that statements emit, in the order of the statements. -/
def emissions (scope : Scope) (statements : List Statement) : List Emission :=
  (statements.flatMap Statement.nodes).filterMap (emission? scope)

/-- What is known of a function with or without a body. -/
def bodyFacts (scope : Scope) : Option (List Statement) → BodyFacts
  | none => .empty
  | some statements => ⟨guards scope statements, emissions scope statements, calls scope statements⟩

end TokenConformance.Body
