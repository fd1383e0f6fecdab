import TokenConformance.Body.Facts
import TokenConformance.Proofs.Body.Position

/-! # What is recorded of a body

* `Emits`: the event that an `emit` statement names.
* `CallOccurs`: a call in a body of something that may be a function of the hierarchy.
* `collect_emissions`: the emissions inside a statement come after its own.
* `emissions_calls_recorded`: the emissions of a body are those of its `emit` statements, one for
  each and in their order, and its calls are those that occur in it.
-/

namespace TokenConformance.Body

open Solidity

/-- A statement emits an event that it names, alone or as a member. The types are those of the
declaration. -/
inductive Emits (scope : Scope) : Statement → Emission → Prop where
  | name (event declaration arguments) :
      Emits scope (.emit (.call (.identifier event declaration) arguments))
        ⟨event, (scope.event? event declaration).map EventShape.types⟩
  | member (object event declaration arguments) :
      Emits scope (.emit (.call (.member object event declaration) arguments))
        ⟨event, (scope.event? event declaration).map EventShape.types⟩

/-- A call occurs in a body at any depth, and may run a function with a selector. -/
def CallOccurs (scope : Scope) (body : List Statement) (k : Selector) : Prop :=
  ∃ callee arguments, ExpressionOccurs body (.call callee arguments) ∧
    ∃ c ∈ callees scope callee, c.selector = k

theorem emission?_eq_some_iff {scope : Scope} {s : Statement} {m : Emission} :
    emission? scope s = some m ↔ Emits scope s m := by
  constructor
  · intro h
    unfold emission? at h
    split at h
    case h_1 event =>
      unfold emissionOf? at h
      split at h
      · obtain rfl := Option.some.inj h
        exact .name _ _ _
      · obtain rfl := Option.some.inj h
        exact .member _ _ _ _
      · exact absurd h nofun
    case h_2 => exact absurd h nofun
  · rintro (_ | _) <;> rfl

/-- The emissions inside a statement come after its own. -/
theorem collect_emissions (scope : Scope) (s : Statement) :
    s.nodes.filterMap (emission? scope) = (emission? scope s).toList ++
      s.parts.flatMap fun t => t.nodes.filterMap (emission? scope) := by
  rw [Statement.nodes_eq, List.filterMap_cons, List.filterMap_flatMap]
  cases emission? scope s <;> rfl

theorem mem_calls_iff {scope : Scope} {body : List Statement} {k : Selector} :
    k ∈ calls scope body ↔ CallOccurs scope body k := by
  rw [calls, OrderedSet.mem_ofList, List.mem_flatMap]
  constructor
  · rintro ⟨e, he, hk⟩
    unfold callsOf at hk
    split at hk
    case h_1 callee arguments =>
      exact ⟨callee, arguments, mem_expressions_iff.1 he, List.mem_map.1 hk⟩
    case h_2 => exact absurd hk List.not_mem_nil
  · rintro ⟨callee, arguments, hcall, hk⟩
    exact ⟨_, mem_expressions_iff.2 hcall, List.mem_map.2 hk⟩

/-- Nothing is left out of what is recorded of a body, and nothing is recorded twice. Every `emit`
statement that names an event, at whatever depth, has one emission, in the order in which the
statements stand; the start and the step of a `for` come before its body. And a function is recorded
as called exactly if a call that may run it occurs in some expression of some statement; the event
of an `emit` and the error of a `revert` are not calls, but calls may occur in their arguments. -/
theorem emissions_calls_recorded (scope : Scope) (body : List Statement) :
    (∃ places, IsListing Statement.parts (fun s => ∃ m, Emits scope s m) (.block body) places ∧
      List.Forall₂ (fun place m => Emits scope place.2 m) places
        (bodyFacts scope (some body)).emissions) ∧
    ∀ k, k ∈ (bodyFacts scope (some body)).calls ↔ CallOccurs scope body k := by
  refine ⟨?_, fun k => mem_calls_iff⟩
  have hbody : (Statement.block body).nodes.filterMap (emission? scope) =
      (bodyFacts scope (some body)).emissions := by
    rw [Statement.nodes, Statement.nodesOfList_eq]
    rfl
  obtain ⟨places, hlisting, hemissions⟩ := exists_listing sizeOf
    (fun _ _ => Statement.sizeOf_lt_of_mem_parts) (collect_emissions scope) (.block body)
  refine ⟨places, hlisting.congr fun s => ?_, hbody ▸ hemissions.imp fun _ _ => ?_⟩
  · rw [Option.isSome_iff_exists]
    exact exists_congr fun m => emission?_eq_some_iff
  · exact emission?_eq_some_iff.1

end TokenConformance.Body
