import TokenConformance.Contract.Shape

/-! # The order of members

Members are listed by what identifies them, so the order of their declarations does not show.

* `sortedBy`: stable sorting by a key.
* `sortFunctions`, `sortEvents`: by name, then by the parameter types one after another.
* `sortModifiers`: by name.
-/

namespace TokenConformance

/-- A list in the order of a key. Elements with one key keep their order. -/
def sortedBy {α κ : Type} [Ord κ] (key : α → κ) (l : List α) : List α :=
  l.mergeSort fun a b => (compare (key a) (key b)).isLE

/-- Functions in the order of their selectors. -/
def sortFunctions : List FunctionShape → List FunctionShape := sortedBy FunctionShape.selector

/-- Events in the order of their selectors. -/
def sortEvents : List EventShape → List EventShape := sortedBy EventShape.selector

/-- Modifiers in the order of their names. -/
def sortModifiers : List ModifierShape → List ModifierShape := sortedBy ModifierShape.name

end TokenConformance
