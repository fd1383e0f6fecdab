import TokenConformance.Proofs.Hierarchy.MostDerived
import TokenConformance.Proofs.Solidity.Foreign

/-! # Members of other kinds do not show in a flat contract

* `knownUnit`, `knownContract`: a source file and a contract without the members of other kinds.
* `contracts_known`, `target_known`, `ancestry_known`, `missingBases_known`: the hierarchy of a
  contract is the same without them.
* `filterMap_members_known`: so is what its contracts declare.
* `flatten_known`: flattening does not see them.
* `knownUnit_eq_of_inserted`: what a foreign member in a source file comes to.
-/

namespace TokenConformance.Hierarchy

open Solidity

/-! ## Source files without other members -/

/-- Whether a member is of a kind that is looked at. -/
def isKnown : ContractMember → Bool
  | .other => false
  | _ => true

/-- A contract without the members of other kinds. -/
def knownContract (c : ContractDefinition) : ContractDefinition :=
  { c with members := c.members.filter isKnown }

/-- A member of a source file without what is of other kinds. -/
def knownMember : SourceMember → Option SourceMember
  | .contract c => some (.contract (knownContract c))
  | .other => none

/-- A source file without the members of other kinds, of itself and of its contracts. -/
def knownUnit (u : SourceUnit) : SourceUnit := ⟨u.path, u.members.filterMap knownMember⟩

/-- A contract of a source file without the members of other kinds. -/
def knownLocated (l : Located) : Located := ⟨knownContract l.contract, l.path⟩

/-! ## The contracts of a hierarchy -/

section Lineage

variable (units : List SourceUnit) (name sourcePath : String) (c : ContractDefinition)

theorem contractsOf_known (u : SourceUnit) :
    contractsOf (knownUnit u) = (contractsOf u).map knownLocated := by
  rw [contractsOf, contractsOf, knownUnit, List.filterMap_filterMap, List.map_filterMap]
  exact List.filterMap_congr fun m _ => by cases m <;> rfl

theorem contracts_known : contracts (units.map knownUnit) = (contracts units).map knownLocated := by
  rw [contracts, contracts, List.flatMap_map, List.map_flatMap]
  exact List.flatMap_congr fun u _ => contractsOf_known u

theorem target_known : target (units.map knownUnit) name sourcePath =
    (target units name sourcePath).map knownLocated := by
  have hcandidates : ((contracts (units.map knownUnit)).filter fun l => l.contract.name = name) =
      ((contracts units).filter fun l => l.contract.name = name).map knownLocated := by
    rw [contracts_known, List.filter_map]
    rfl
  have hnames : (contracts (units.map knownUnit)).map (·.contract.name) =
      (contracts units).map (·.contract.name) := by
    rw [contracts_known, List.map_map]
    rfl
  have hmatch : (((contracts units).filter fun l => l.contract.name = name).map
        knownLocated).find? (fun l => pathsMatch l.path sourcePath) =
      (((contracts units).filter fun l => l.contract.name = name).find? fun l =>
        pathsMatch l.path sourcePath).map knownLocated := List.find?_map
  simp only [target, hcandidates, hnames, hmatch, List.head?_map, ← Option.map_or]
  cases (((contracts units).filter fun l => l.contract.name = name).find? fun l =>
      pathsMatch l.path sourcePath).or
    ((contracts units).filter fun l => l.contract.name = name).head? <;> rfl

theorem find?_contractsById_known (id : NodeId) : (contractsById (units.map knownUnit)).find? id =
    ((contractsById units).find? id).map knownLocated := by
  rw [find?_contractsById, find?_contractsById, contracts_known, ← List.map_reverse, List.find?_map]
  rfl

theorem ancestry_known : ancestry (units.map knownUnit) (knownContract c) =
    (ancestry units c).map knownLocated := by
  rw [ancestry, ancestry, List.map_filterMap]
  exact List.filterMap_congr fun id _ => find?_contractsById_known units id

theorem missingBases_known :
    missingBases (units.map knownUnit) (knownContract c) = missingBases units c :=
  List.filter_congr fun id _ => by rw [find?_contractsById_known, Option.isNone_map]

end Lineage

/-! ## What the contracts declare -/

section Members

variable (hierarchy : List Located)

theorem filterMap_members_known {α : Type} {f g : LocatedMember → Option α}
    (hother : ∀ l, f (l, .other) = none)
    (h : ∀ l m, isKnown m = true → g (knownLocated l, m) = f (l, m)) :
    (members (hierarchy.map knownLocated)).filterMap g = (members hierarchy).filterMap f := by
  rw [members, members, List.flatMap_map, List.filterMap_flatMap, List.filterMap_flatMap]
  refine List.flatMap_congr fun l _ => ?_
  simp only [knownLocated, knownContract, List.filterMap_map, List.filterMap_filter]
  refine List.filterMap_congr fun m _ => ?_
  cases hm : isKnown m with
  | true => exact h l m hm
  | false =>
    cases m with
    | other => exact (hother l).symm
    | _ => exact absurd hm (by simp [isKnown])

theorem stateVariables_known :
    stateVariables (members (hierarchy.map knownLocated)) = stateVariables (members hierarchy) :=
  filterMap_members_known hierarchy (fun _ => rfl) fun _ m _ => by cases m <;> rfl

theorem events_known :
    events (members (hierarchy.map knownLocated)) = events (members hierarchy) :=
  filterMap_members_known hierarchy (fun _ => rfl) fun _ m _ => by cases m <;> rfl

theorem modifiers_known : modifiers (members (hierarchy.map knownLocated)) =
    (modifiers (members hierarchy)).map fun m => (knownLocated m.1, m.2) := by
  rw [modifiers, modifiers, List.map_filterMap]
  exact filterMap_members_known hierarchy (fun _ => rfl) fun _ m _ => by cases m <;> rfl

theorem declaredCallables_known : declaredCallables (members (hierarchy.map knownLocated)) =
    (declaredCallables (members hierarchy)).map fun m => (knownLocated m.1, m.2) := by
  rw [declaredCallables, declaredCallables, List.map_filterMap]
  refine filterMap_members_known hierarchy (fun _ => rfl) fun l m _ => ?_
  simp only [Option.map_map, Function.comp_def]

theorem modifierNames_known :
    modifierNames (members (hierarchy.map knownLocated)) = modifierNames (members hierarchy) := by
  rw [modifierNames, modifierNames, modifiers_known, List.map_map]
  rfl

theorem shapedCallables_known :
    shapedCallables (members (hierarchy.map knownLocated)) =
      shapedCallables (members hierarchy) := by
  rw [shapedCallables, shapedCallables, declaredCallables_known, modifierNames_known,
    List.mapM_map]
  rfl

theorem scope_known (callables : List ShapedCallable) :
    scope (members (hierarchy.map knownLocated)) callables =
      scope (members hierarchy) callables := by
  rw [scope, scope, stateVariables_known, events_known]

theorem modifierShapes_known (libraryPrefixes : List String) :
    ((modifiers (members (hierarchy.map knownLocated))).map fun (c, m) =>
        modifierShape libraryPrefixes c m) =
      (modifiers (members hierarchy)).map fun (c, m) => modifierShape libraryPrefixes c m := by
  rw [modifiers_known, List.map_map]
  rfl

end Members

/-- Members of other kinds, of source files and of contracts, do not show in a flat contract. -/
theorem flatten_known (units : List SourceUnit) (name sourcePath : String)
    (libraryPrefixes : List String) :
    flatten (units.map knownUnit) name sourcePath libraryPrefixes =
      flatten units name sourcePath libraryPrefixes := by
  rw [flatten, flatten, target_known]
  cases target units name sourcePath with
  | error failure => rfl
  | ok t =>
    have hancestry : ancestry (units.map knownUnit) (knownLocated t).contract =
        (ancestry units t.contract).map knownLocated := ancestry_known units t.contract
    have hmissing : missingBases (units.map knownUnit) (knownLocated t).contract =
        missingBases units t.contract := missingBases_known units t.contract
    simp only [Except.map, bind, Except.bind, hancestry, hmissing, shapedCallables_known,
      scope_known, events_known, modifierShapes_known]
    rfl

/-! ## A foreign member -/

/-- A node in which members of other kinds may stand. -/
def Outer : Node → Prop
  | .unit _ => True
  | .member _ => True
  | _ => False

/-- Below the members of a contract no node can have a member more. -/
theorem outer_of_inserted {p : Place} {x y : Node} (h : Node.At OtherInserted p x y) : Outer x := by
  induction h with
  | here h => cases h <;> trivial
  | unitMember => trivial
  | contractMember => trivial
  | _ => assumption

theorem knownMember_eq_of_inserted {p : Place} {m m' : SourceMember}
    (h : Node.At OtherInserted p (.member m) (.member m')) : knownMember m' = knownMember m := by
  cases h with
  | here h =>
    cases h with
    | contract before after hc =>
      simp only [knownMember, knownContract, hc, List.filter_append, List.filter_cons, isKnown]
      rfl
  | contractMember _ _ h => exact absurd (outer_of_inserted h) id

/-- A source file with a member of another kind more is the same without members of other kinds. -/
theorem knownUnit_eq_of_inserted {p : Place} {u u' : SourceUnit}
    (h : Node.At OtherInserted p (.unit u) (.unit u')) : knownUnit u' = knownUnit u := by
  cases h with
  | here h =>
    cases h with
    | unit path before after =>
      simp only [knownUnit, List.filterMap_append, List.filterMap_cons, knownMember]
  | unitMember _ h =>
    simp only [knownUnit, List.filterMap_append, List.filterMap_cons, knownMember_eq_of_inserted h]

end TokenConformance.Hierarchy
