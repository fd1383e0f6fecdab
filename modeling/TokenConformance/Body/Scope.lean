import TokenConformance.Contract.Shape
import TokenConformance.Solidity.Syntax

/-! # What names and references mean in a contract hierarchy

* `Callee`: a function of the hierarchy as calls see it.
* `Scope`: the declarations of the hierarchy, by the number that references carry and by name.
* `Scope.stateVar?`, `Scope.callees`, `Scope.event?`: the look-ups.

A reference number decides alone where a variable or a function is looked up; the name counts only
where there is no number. An event is looked up by its name also when its number is unknown.
-/

namespace TokenConformance.Body

open Solidity (NodeId)

/-- A function of the hierarchy as calls see it. -/
structure Callee where
  selector : Selector
  mutability : Mutability
deriving DecidableEq, Inhabited

/-- The declarations of a contract hierarchy. -/
structure Scope where
  stateVariables : OrderedMap NodeId String
  stateVariableNames : OrderedSet String
  functions : OrderedMap NodeId Callee
  functionsNamed : OrderedMap String (List Callee)
  events : OrderedMap NodeId EventShape
  eventsNamed : OrderedMap String EventShape
deriving DecidableEq

namespace Scope

/-- The state variable that a name with a reference means. -/
def stateVar? (scope : Scope) (name : String) : Option NodeId → Option String
  | some id => scope.stateVariables.find? id
  | none => if name ∈ scope.stateVariableNames then some name else none

/-- The functions that a name with a reference may mean. -/
def callees (scope : Scope) (name : String) : Option NodeId → List Callee
  | some id => (scope.functions.find? id).toList
  | none => (scope.functionsNamed.find? name).getD []

/-- The event that a name with a reference means. -/
def event? (scope : Scope) (name : String) (declaration : Option NodeId) : Option EventShape :=
  (declaration.bind scope.events.find?).or (scope.eventsNamed.find? name)

end Scope

end TokenConformance.Body
