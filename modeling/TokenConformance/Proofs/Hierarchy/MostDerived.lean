import TokenConformance.Proofs.Hierarchy.Flattening

/-! # The most derived declaration wins

Along the linearised hierarchy the first declaration of an identity is the one that counts, for what
callers see of it and for what is known of its body alike:

* `firstCallable?`: the first member with an identity.
* `MostDerivedWins`: a flat contract has of every identity the first declaration and nothing else.
* `flatten_mostDerivedWins`: every flat contract is of this kind.
-/

namespace TokenConformance.Hierarchy

open Solidity Body

/-- The first member with an identity, contract by contract and then in the order of the text. -/
def firstCallable? (ms : List LocatedMember) (k : Selector) : Option (Located × Callable) :=
  (declaredCallables ms).find? fun m => m.2.selector = k

theorem find?_contractsById (units : List SourceUnit) (id : NodeId) :
    (contractsById units).find? id =
      (contracts units).reverse.find? fun l => l.contract.id = id := by
  rw [contractsById, OrderedMap.find?_ofList, ← List.map_reverse, List.find?_map, Option.map_map]
  exact Option.map_id'

/-- The contracts of the hierarchy are those of the lineage that the compiler output has. -/
theorem ancestry_eq (units : List SourceUnit) (c : ContractDefinition) :
    ancestry units c = (lineage c).filterMap fun id =>
      (contracts units).reverse.find? fun l => l.contract.id = id :=
  List.filterMap_congr fun id _ => find?_contractsById units id

/-- Of every identity, a flat contract has the first declaration of a hierarchy and nothing else.
The facts of a function are those of the body of the same declaration; a getter has none. -/
structure MostDerivedWins (hierarchy : List Located) (libraryPrefixes : List String)
    (scope : Scope) (c : FlatContract) : Prop where
  present : ∀ k l m, firstCallable? (members hierarchy) k = some (l, m) →
    ∃ f, m.shape (modifierNames (members hierarchy)) l.contract.name = .ok f ∧ f.selector = k ∧
      (c.functions.filter fun g => g.selector = k) = [f] ∧
      c.facts.find? k = some (m.facts scope)
  absent : ∀ k, firstCallable? (members hierarchy) k = none →
    (∀ f ∈ c.functions, f.selector ≠ k) ∧ c.facts.find? k = none
  events : ∀ k, (c.events.filter fun e => e.selector = k) =
    (((events (members hierarchy)).map eventShape).find? fun e => e.selector = k).toList
  modifiers : ∀ n, (c.modifiers.filter fun m => m.name = n) =
    (((modifiers (members hierarchy)).find? fun m => m.2.name = n).map fun (l, m) =>
      ⟨m.name, !isLibraryPath libraryPrefixes l.path, l.contract.name⟩).toList

namespace Flattening

variable {units : List SourceUnit} {name sourcePath : String} {libraryPrefixes : List String}
  {t : Located} {hierarchy : List Located} {cs : List ShapedCallable} {c : FlatContract}

theorem find?_shaped (h : Flattening units name sourcePath libraryPrefixes t hierarchy cs c)
    (k : Selector) :
    Option.Rel (IsShapeOf (modifierNames (members hierarchy)))
      (firstCallable? (members hierarchy) k) (cs.find? fun s => s.shape.selector = k) :=
  find?_of_forall₂ (forall₂_shapedCallables h.callables) k

theorem find?_shaped_of_some (h : Flattening units name sourcePath libraryPrefixes t hierarchy cs c)
    {k : Selector} {m : Located × Callable}
    (hfirst : firstCallable? (members hierarchy) k = some m) :
    ∃ s, (cs.find? fun s => s.shape.selector = k) = some s ∧
      IsShapeOf (modifierNames (members hierarchy)) m s := by
  have hrel := h.find?_shaped k
  rw [hfirst] at hrel
  cases hs : cs.find? fun s => s.shape.selector = k with
  | none => rw [hs] at hrel; cases hrel
  | some s =>
    rw [hs] at hrel
    obtain ⟨hms⟩ := hrel
    exact ⟨s, rfl, hms⟩

theorem find?_shaped_of_none (h : Flattening units name sourcePath libraryPrefixes t hierarchy cs c)
    {k : Selector} (hfirst : firstCallable? (members hierarchy) k = none) :
    (cs.find? fun s => s.shape.selector = k) = none := by
  have hrel := h.find?_shaped k
  rw [hfirst] at hrel
  cases hs : cs.find? fun s => s.shape.selector = k with
  | none => rfl
  | some s => rw [hs] at hrel; cases hrel

/-- The facts under an identity are those of the body of the first declaration. -/
theorem find?_facts_eq (h : Flattening units name sourcePath libraryPrefixes t hierarchy cs c)
    (k : Selector) :
    c.facts.find? k = (firstCallable? (members hierarchy) k).map fun m =>
      m.2.facts (scope (members hierarchy) cs) := by
  rw [h.find?_facts]
  cases hfirst : firstCallable? (members hierarchy) k with
  | none => rw [h.find?_shaped_of_none hfirst]; rfl
  | some m =>
    obtain ⟨s, hs, hms⟩ := h.find?_shaped_of_some hfirst
    rw [hs, Option.map_some, Option.map_some, hms.facts_eq]

theorem mostDerivedWins (h : Flattening units name sourcePath libraryPrefixes t hierarchy cs c) :
    MostDerivedWins hierarchy libraryPrefixes (scope (members hierarchy) cs) c where
  present := by
    intro k l m hfirst
    obtain ⟨s, hs, hms⟩ := h.find?_shaped_of_some hfirst
    have hselector : s.shape.selector = k := by simpa using List.find?_some hs
    refine ⟨s.shape, hms.2, hselector, ?_, ?_⟩
    · rw [h.filter_functions, hs]; rfl
    · rw [h.find?_facts_eq, hfirst]; rfl
  absent := by
    intro k hfirst
    have hfilter : (c.functions.filter fun f => f.selector = k) = [] := by
      rw [h.filter_functions, h.find?_shaped_of_none hfirst]; rfl
    refine ⟨fun f hf hk => ?_, by rw [h.find?_facts_eq, hfirst]; rfl⟩
    exact List.filter_eq_nil_iff.1 hfilter f hf (by simpa using hk)
  events := h.filter_events
  modifiers := h.filter_modifiers

end Flattening

/-- Overrides, overloads, getters, interfaces that declare members again and bases that are missing
leave no other choice than the first declaration. -/
theorem flatten_mostDerivedWins {units : List SourceUnit} {name sourcePath : String}
    {libraryPrefixes : List String} {c : FlatContract}
    (h : flatten units name sourcePath libraryPrefixes = .ok c) :
    ∃ t hierarchy cs, target units name sourcePath = .ok t ∧
      hierarchy =
        (if t.contract.linearizedBases = [] then [t.contract.id]
          else t.contract.linearizedBases).filterMap
            (fun id => (contracts units).reverse.find? fun l => l.contract.id = id) ∧
      shapedCallables (members hierarchy) = .ok cs ∧
      MostDerivedWins hierarchy libraryPrefixes (scope (members hierarchy) cs) c := by
  obtain ⟨t, hierarchy, cs, hflat⟩ := exists_flattening h
  exact ⟨t, hierarchy, cs, hflat.target, hflat.ancestry.trans (ancestry_eq units t.contract),
    hflat.callables, hflat.mostDerivedWins⟩

theorem sample_mostDerivedWins :
    ∃ c cs, flatten Sample.units "Token" "Token.sol" ["lib/"] = .ok c ∧
      MostDerivedWins Sample.hierarchy ["lib/"] (scope (members Sample.hierarchy) cs) c := by
  obtain ⟨c, hc⟩ := Sample.flatten_units
  obtain ⟨t, hierarchy, cs, ht, hhierarchy, -, hwins⟩ := flatten_mostDerivedWins hc
  obtain rfl : ⟨Sample.token, "Token.sol"⟩ = t := Except.ok.inj (Sample.target_units.symm.trans ht)
  obtain rfl : hierarchy = Sample.hierarchy := hhierarchy
  exact ⟨c, cs, hc, hwins⟩

end TokenConformance.Hierarchy
