import TokenConformance.Proofs.Collection.KeyedList

/-! # How a flat contract is made

`flatten` opened once, so that what is proved of flat contracts need not look into it:

* `Callable.selector`: the identity of a member that can be called, whether it is malformed or not.
* `forall₂_shapedCallables`: the members that can be called and their shapes, one by one.
* `Flattening`, `exists_flattening`: a flat contract with the target and the members it is made of.
* `flatten_eq_error_iff`: when there is none.
* `Flattening.find?_facts`, `filter_functions`, `filter_events`, `filter_modifiers`: what it has
  under one identity.
* `Sample`: a token with an override, an overload and a getter.
-/

namespace TokenConformance.Hierarchy

open Solidity Body

/-! ## Members that can be called -/

/-- The identity of a member that can be called. -/
def Callable.selector : Callable → Selector
  | .function d => ⟨d.name, d.parameters.map declaredType⟩
  | .getter v => ⟨v.name, (getterTypesOf v.typeName).1⟩

/-- The facts of the body. A getter has none. -/
def Callable.facts (scope : Scope) : Callable → BodyFacts
  | .function d => bodyFacts scope d.body
  | .getter _ => .empty

theorem visibility_ok {declaredIn : String} {d : FunctionDefinition} {v : Visibility}
    (h : visibility declaredIn d = .ok v) : Visibility.ofKeyword? d.visibility = some v := by
  unfold visibility at h
  split at h
  · next hv => rw [hv, Except.ok.inj h]
  · exact absurd h (by simp)

theorem mutability_ok {declaredIn : String} {d : FunctionDefinition} {m : Mutability}
    (h : mutability declaredIn d = .ok m) : Mutability.ofKeyword? d.mutability = some m := by
  unfold mutability at h
  split at h
  · next hm => rw [hm, Except.ok.inj h]
  · exact absurd h (by simp)

theorem functionShape_ok {names : OrderedMap NodeId String} {declaredIn : String}
    {d : FunctionDefinition} {f : FunctionShape} (h : functionShape names declaredIn d = .ok f) :
    ∃ v m, Visibility.ofKeyword? d.visibility = some v ∧
      Mutability.ofKeyword? d.mutability = some m ∧
      f = { name := d.name, parameters := d.parameters.map fun p => ⟨p.name, declaredType p⟩,
            returns := d.returns.map declaredType, visibility := v, mutability := m,
            modifiers := .ofList (appliedModifiers names d), declaredIn } := by
  unfold functionShape at h
  cases hv : visibility declaredIn d with
  | error _ => simp [hv, bind, Except.bind] at h
  | ok v =>
    cases hm : mutability declaredIn d with
    | error _ => simp [hv, hm, bind, Except.bind] at h
    | ok m =>
      refine ⟨v, m, visibility_ok hv, mutability_ok hm, ?_⟩
      simpa [hv, hm, bind, Except.bind, pure, Except.pure, eq_comm] using h

theorem shape_selector {names : OrderedMap NodeId String} {declaredIn : String} {m : Callable}
    {f : FunctionShape} (h : m.shape names declaredIn = .ok f) : f.selector = m.selector := by
  cases m with
  | function d =>
    obtain ⟨v, m, -, -, rfl⟩ := functionShape_ok h
    simp [FunctionShape.selector, FunctionShape.types, Callable.selector, Function.comp_def]
  | getter v =>
    obtain rfl := Except.ok.inj h
    simp [FunctionShape.selector, FunctionShape.types, Callable.selector, getterShape,
      Function.comp_def]

theorem mapM_eq_ok_iff {ε α β : Type} (f : α → Except ε β) (l : List α) (m : List β) :
    l.mapM f = .ok m ↔ List.Forall₂ (fun a b => f a = .ok b) l m := by
  induction l generalizing m with
  | nil => cases m <;> simp [pure, Except.pure]
  | cons a rest ih =>
    rw [List.mapM_cons]
    cases ha : f a with
    | error failure => cases m <;> simp [bind, Except.bind, ha]
    | ok b =>
      cases hrest : rest.mapM f with
      | error failure => cases m <;> simp [bind, Except.bind, ← ih, hrest, ha]
      | ok bs => cases m <;> simp [bind, Except.bind, pure, Except.pure, ← ih, hrest, ha]

theorem mapM_eq_ok_iff_filterMap {ε α β : Type} (f : α → Except ε β) (l : List α) (m : List β) :
    l.mapM f = .ok m ↔ (∀ a ∈ l, ∃ b, f a = .ok b) ∧ m = l.filterMap fun a => (f a).toOption := by
  rw [mapM_eq_ok_iff]
  induction l generalizing m with
  | nil => simp
  | cons a rest ih =>
    rw [List.filterMap_cons]
    cases ha : f a with
    | error failure => simp [ha, List.forall₂_cons_left_iff]
    | ok b => simp [ha, List.forall₂_cons_left_iff, ih, Except.toOption, and_assoc]

theorem exists_of_forall₂ {α β : Type} {R : α → β → Prop} {l : List α} {m : List β} {a : α}
    (h : List.Forall₂ R l m) (ha : a ∈ l) : ∃ b ∈ m, R a b := by
  induction h with
  | nil => exact absurd ha List.not_mem_nil
  | cons hab _ ih =>
    rcases List.mem_cons.1 ha with rfl | ha
    · exact ⟨_, List.mem_cons_self, hab⟩
    · obtain ⟨b, hb, hR⟩ := ih ha
      exact ⟨b, List.mem_cons_of_mem _ hb, hR⟩

/-- A shaped member is the member with its shape in the contract that declares it. -/
def IsShapeOf (names : OrderedMap NodeId String) (m : Located × Callable) (s : ShapedCallable) :
    Prop :=
  s.callable = m.2 ∧ m.2.shape names m.1.contract.name = .ok s.shape

theorem forall₂_shapedCallables {ms : List LocatedMember} {cs : List ShapedCallable}
    (h : shapedCallables ms = .ok cs) :
    List.Forall₂ (IsShapeOf (modifierNames ms)) (declaredCallables ms) cs := by
  refine ((mapM_eq_ok_iff _ _ _).1 h).imp fun m s hs => ?_
  cases hshape : m.2.shape (modifierNames ms) m.1.contract.name with
  | error failure => simp [hshape, bind, Except.bind] at hs
  | ok f =>
    have hsf : (⟨m.2, f⟩ : ShapedCallable) = s := by
      simpa [hshape, bind, Except.bind, pure, Except.pure] using hs
    exact hsf ▸ ⟨rfl, hshape⟩

theorem IsShapeOf.selector_eq {names : OrderedMap NodeId String} {m : Located × Callable}
    {s : ShapedCallable} (h : IsShapeOf names m s) : s.shape.selector = m.2.selector :=
  shape_selector h.2

theorem IsShapeOf.facts_eq {names : OrderedMap NodeId String} {m : Located × Callable}
    {s : ShapedCallable} (h : IsShapeOf names m s) (scope : Scope) :
    s.facts scope = m.2.facts scope := by
  unfold ShapedCallable.facts
  rw [h.1]
  cases m.2 <;> rfl

/-- Under one identity, the first member and the first shaped member belong together. -/
theorem find?_of_forall₂ {names : OrderedMap NodeId String} {l : List (Located × Callable)}
    {cs : List ShapedCallable} (h : List.Forall₂ (IsShapeOf names) l cs) (k : Selector) :
    Option.Rel (IsShapeOf names) (l.find? fun m => m.2.selector = k)
      (cs.find? fun s => s.shape.selector = k) :=
  find?_of_related h fun _ _ hms => by rw [hms.selector_eq]

/-! ## The parts of a flat contract -/

attribute [ext] FlatContract

/-- A contract is the flat contract of a target with the given hierarchy and shaped members. -/
structure Flattening (units : List SourceUnit) (name sourcePath : String)
    (libraryPrefixes : List String) (t : Located) (hierarchy : List Located)
    (cs : List ShapedCallable) (c : FlatContract) : Prop where
  target : Hierarchy.target units name sourcePath = .ok t
  ancestry : hierarchy = Hierarchy.ancestry units t.contract
  contract : c.name = t.contract.name ∧ c.kind = t.contract.kind ∧ c.sourcePath = t.path
  callables : shapedCallables (members hierarchy) = .ok cs
  functions : c.functions = sortFunctions ((firstBy (·.shape.selector) cs).map (·.shape))
  events : c.events = sortEvents (firstBy (·.selector)
    ((Hierarchy.events (members hierarchy)).map eventShape))
  modifiers : c.modifiers = sortModifiers (firstBy (·.name)
    ((Hierarchy.modifiers (members hierarchy)).map fun (l, m) =>
      modifierShape libraryPrefixes l m))
  facts : c.facts = .ofList ((firstBy (·.shape.selector) cs).map fun s =>
    (s.shape.selector, s.facts (scope (members hierarchy) cs)))
  warnings : c.warnings = Hierarchy.warnings t.contract (missingBases units t.contract)
    ((firstBy (·.shape.selector) cs).map (·.shape))
    (firstBy (·.name) ((Hierarchy.modifiers (members hierarchy)).map fun (l, m) =>
      modifierShape libraryPrefixes l m))

theorem exists_flattening {units : List SourceUnit} {name sourcePath : String}
    {libraryPrefixes : List String} {c : FlatContract}
    (h : flatten units name sourcePath libraryPrefixes = .ok c) :
    ∃ t hierarchy cs, Flattening units name sourcePath libraryPrefixes t hierarchy cs c := by
  unfold flatten at h
  cases ht : Hierarchy.target units name sourcePath with
  | error _ => simp [ht, bind, Except.bind] at h
  | ok t =>
    cases hcs : shapedCallables (members (ancestry units t.contract)) with
    | error _ => simp [ht, hcs, bind, Except.bind] at h
    | ok cs =>
      obtain rfl : _ = c := by
        simpa [ht, hcs, bind, Except.bind, pure, Except.pure] using h
      exact ⟨t, _, cs, ht, rfl, ⟨rfl, rfl, rfl⟩, hcs, rfl, rfl, rfl, rfl, rfl⟩

theorem exists_of_isOk {ε α : Type} {e : Except ε α} (h : e.isOk = true) : ∃ a, e = .ok a := by
  cases e with
  | error failure => exact absurd h Bool.false_ne_true
  | ok a => exact ⟨a, rfl⟩

theorem flatten_eq_error_iff {units : List SourceUnit} {name sourcePath : String}
    {libraryPrefixes : List String} {failure : SourceFailure} :
    flatten units name sourcePath libraryPrefixes = .error failure ↔
      target units name sourcePath = .error failure ∨
        ∃ t, target units name sourcePath = .ok t ∧
          shapedCallables (members (ancestry units t.contract)) = .error failure := by
  unfold flatten
  cases ht : target units name sourcePath with
  | error other => simp [bind, Except.bind]
  | ok t =>
    cases hcs : shapedCallables (members (ancestry units t.contract)) with
    | error other => simp [hcs, bind, Except.bind]
    | ok cs => simp [hcs, bind, Except.bind, pure, Except.pure]

theorem exists_flatten_of_callables {units : List SourceUnit} {name sourcePath : String}
    {t : Located} {cs : List ShapedCallable} (ht : target units name sourcePath = .ok t)
    (hcs : shapedCallables (members (ancestry units t.contract)) = .ok cs)
    (libraryPrefixes : List String) :
    ∃ c, flatten units name sourcePath libraryPrefixes = .ok c := by
  cases hc : flatten units name sourcePath libraryPrefixes with
  | ok c => exact ⟨c, rfl⟩
  | error failure =>
    rcases flatten_eq_error_iff.1 hc with hfailure | ⟨t', ht', hfailure⟩
    · exact absurd (ht.symm.trans hfailure) (by simp)
    · obtain rfl := Except.ok.inj (ht.symm.trans ht')
      exact absurd (hcs.symm.trans hfailure) (by simp)

namespace Flattening

variable {units : List SourceUnit} {name sourcePath : String} {libraryPrefixes : List String}
  {t : Located} {hierarchy : List Located} {cs : List ShapedCallable} {c : FlatContract}

theorem pairwise_visible (cs : List ShapedCallable) :
    ((firstBy (·.shape.selector) cs).map (·.shape)).Pairwise fun f g =>
      f.selector ≠ g.selector :=
  List.pairwise_map.2 (pairwise_firstBy _ cs)

theorem filter_functions (h : Flattening units name sourcePath libraryPrefixes t hierarchy cs c)
    (k : Selector) :
    (c.functions.filter fun f => f.selector = k) =
      ((cs.find? fun s => s.shape.selector = k).map (·.shape)).toList := by
  rw [h.functions, sortFunctions, filter_sortedBy (pairwise_visible cs), List.find?_map]
  congr 2
  exact find?_firstBy _ cs k

theorem find?_facts (h : Flattening units name sourcePath libraryPrefixes t hierarchy cs c)
    (k : Selector) :
    c.facts.find? k = (cs.find? fun s => s.shape.selector = k).map
      (·.facts (scope (members hierarchy) cs)) := by
  have hdistinct : ((firstBy (·.shape.selector) cs).map fun s =>
      (s.shape.selector, s.facts (scope (members hierarchy) cs))).Pairwise
        fun a b => a.1 ≠ b.1 := List.pairwise_map.2 (pairwise_firstBy _ cs)
  rw [h.facts, find?_ofList_of_pairwise hdistinct, List.find?_map, Option.map_map]
  congr 1
  exact find?_firstBy _ cs k

theorem filter_events (h : Flattening units name sourcePath libraryPrefixes t hierarchy cs c)
    (k : Selector) :
    (c.events.filter fun e => e.selector = k) =
      (((Hierarchy.events (members hierarchy)).map eventShape).find? fun e =>
        e.selector = k).toList := by
  rw [h.events, sortEvents, filter_sortedBy (pairwise_firstBy _ _), find?_firstBy]

theorem filter_modifiers (h : Flattening units name sourcePath libraryPrefixes t hierarchy cs c)
    (n : String) :
    (c.modifiers.filter fun m => m.name = n) =
      (((Hierarchy.modifiers (members hierarchy)).find? fun m => m.2.name = n).map
        fun (l, m) => modifierShape libraryPrefixes l m).toList := by
  rw [h.modifiers, sortModifiers, filter_sortedBy (pairwise_firstBy _ _), find?_firstBy,
    List.find?_map]
  rfl

end Flattening

/-! ## A small token

The derived contract overrides a function of its base, overloads it, and has a getter in the place
of another one. The base comes from a library. -/

namespace Sample

def parameter (id : NodeId) (name type : String) : VariableDeclaration where
  id
  name
  descriptions := ⟨some type⟩
  typeName := none
  stateVariable := false
  visibility := "internal"
  indexed := false
  constant := false

def transferParameters (id : NodeId) : ParameterList :=
  [parameter id "to" "address", parameter (id + 1) "value" "uint256"]

def transferEvent : EventDefinition where
  id := 2
  name := "Transfer"
  parameters := [
    { parameter 10 "from" "address" with indexed := true },
    { parameter 11 "to" "address" with indexed := true }, parameter 12 "value" "uint256"]

/-- A function that returns whether it has succeeded. -/
def function (id : NodeId) (parameters : ParameterList) (modifiers : List ModifierInvocation)
    (s : Statement) : FunctionDefinition where
  id
  name := "transfer"
  kind := "function"
  visibility := "public"
  mutability := "nonpayable"
  parameters
  returns := [parameter (id + 20) "" "bool"]
  modifiers
  body := some [s]

/-- Emits the event. -/
def baseTransfer : FunctionDefinition :=
  function 4 (transferParameters 13) [] (.emit (.call (.identifier "Transfer" (some 2)) []))

/-- Calls the overridden function. -/
def transfer : FunctionDefinition :=
  function 8 (transferParameters 15) [⟨"guarded", some 3, some "modifierInvocation"⟩]
    (.ret (some (.call (.member (.identifier "super" none) "transfer" (some 4)) [])))

/-- Calls the function with two parameters. -/
def overload : FunctionDefinition :=
  function 9 [parameter 17 "to" "address"] []
    (.ret (some (.call (.identifier "transfer" (some 8)) [])))

def baseSupply : FunctionDefinition where
  id := 5
  name := "totalSupply"
  kind := "function"
  visibility := "external"
  mutability := "view"
  parameters := []
  returns := [parameter 25 "" "uint256"]
  modifiers := []
  body := none

def supply : VariableDeclaration where
  id := 7
  name := "totalSupply"
  descriptions := ⟨some "uint256"⟩
  typeName := none
  stateVariable := true
  visibility := "public"
  indexed := false
  constant := false

def base : ContractDefinition where
  id := 1
  name := "Base"
  kind := "contract"
  isAbstract := true
  linearizedBases := [1]
  members := [
    .event transferEvent, .modifier ⟨3, "guarded"⟩, .function baseTransfer, .function baseSupply]

def token : ContractDefinition where
  id := 6
  name := "Token"
  kind := "contract"
  isAbstract := false
  linearizedBases := [6, 1]
  members := [.variable supply, .function transfer, .function overload]

def units : List SourceUnit :=
  [⟨"lib/Base.sol", [.contract base]⟩, ⟨"Token.sol", [.contract token]⟩]

def hierarchy : List Located := [⟨token, "Token.sol"⟩, ⟨base, "lib/Base.sol"⟩]

theorem target_units : target units "Token" "Token.sol" = .ok ⟨token, "Token.sol"⟩ := rfl

theorem flatten_units : ∃ c, flatten units "Token" "Token.sol" ["lib/"] = .ok c :=
  exists_of_isOk rfl

end Sample

end TokenConformance.Hierarchy
