import TokenConformance.Proofs.Hierarchy.Flattening
import TokenConformance.Standard.Evaluation

/-! # What holds of every flat contract

* `Consistent`: the members stand in strict order, every function has facts, and calls lead to
  functions of the contract.
* `Consistent.length_filter_admits_le`: a template fits one function at most.
* `Consistent.evaluate_ok`: every requirement gets an answer.
* `flatten_consistent`: flat contracts are consistent, and what follows from it.
-/

namespace TokenConformance

theorem FunctionTemplate.selector_of_admits {t : FunctionTemplate} {f : FunctionShape}
    (h : t.admits f = true) : f.selector = ⟨t.name, t.types⟩ := by
  simp only [FunctionTemplate.admits, Bool.and_eq_true, decide_eq_true_eq] at h
  rw [FunctionShape.selector, h.1.1.1.1, h.1.1.1.2]

/-- The members of a contract stand in strict order, and what is known of bodies fits to them. -/
structure Consistent (c : FlatContract) : Prop where
  functions : c.functions.Pairwise fun f g => compare f.selector g.selector = .lt
  events : c.events.Pairwise fun d e => compare d.selector e.selector = .lt
  modifiers : c.modifiers.Pairwise fun m n => compare m.name n.name = .lt
  warnings : c.warnings.Pairwise fun v w => compare v w = .lt
  keys : ∀ k, k ∈ c.facts.keys ↔ ∃ f ∈ c.functions, f.selector = k
  calls : ∀ k facts, c.facts.find? k = some facts → ∀ l ∈ facts.calls, l ∈ c.facts.keys

namespace Consistent

variable {c : FlatContract}

theorem pairwise_ne (h : Consistent c) :
    c.functions.Pairwise fun f g => f.selector ≠ g.selector :=
  h.functions.imp fun {f g} hlt heq => by simp [heq, Std.ReflCmp.compare_self] at hlt

/-- A template fits one function at most, since it states the whole identity. -/
theorem length_filter_admits_le (h : Consistent c) (t : FunctionTemplate) :
    (c.functions.filter t.admits).length ≤ 1 := by
  have hsub : (c.functions.filter t.admits).Sublist
      (c.functions.filter fun f => f.selector = ⟨t.name, t.types⟩) :=
    List.monotone_filter_right _ fun f hf => by simpa using FunctionTemplate.selector_of_admits hf
  have hle := hsub.length_le
  rw [filter_key_of_pairwise h.pairwise_ne] at hle
  exact Nat.le_trans hle Option.length_toList_le

theorem eq_of_selector_eq (h : Consistent c) {f g : FunctionShape} (hf : f ∈ c.functions)
    (hg : g ∈ c.functions) (hselector : f.selector = g.selector) : f = g := by
  have hsymm : Std.Symm fun f g : FunctionShape => f.selector ≠ g.selector :=
    ⟨fun _ _ => Ne.symm⟩
  by_contra hne
  exact h.pairwise_ne.forall hf hg hne hselector

/-- What a template admits is what it finds. -/
theorem find?_of_admits (h : Consistent c) {t : FunctionTemplate} {f : FunctionShape}
    (hf : f ∈ c.functions) (ht : t.admits f = true) : t.find? c.functions = some f := by
  obtain ⟨g, hg⟩ := Option.isSome_iff_exists.1 (List.find?_isSome.2 ⟨f, hf, ht⟩)
  have hselector : f.selector = g.selector :=
    (FunctionTemplate.selector_of_admits ht).trans
      (FunctionTemplate.selector_of_admits (List.find?_some hg)).symm
  exact h.eq_of_selector_eq hf (List.mem_of_find?_eq_some hg) hselector ▸ hg

theorem find?_facts_ne_none (h : Consistent c) {t : FunctionTemplate} {f : FunctionShape}
    (hf : t.find? c.functions = some f) : ∃ facts, c.facts.find? f.selector = some facts := by
  have hkey : f.selector ∈ c.facts.keys := (h.keys _).2 ⟨f, List.mem_of_find?_eq_some hf, rfl⟩
  exact Option.isSome_iff_exists.1 (OrderedMap.mem_keys_iff.1 hkey)

theorem evaluateEmission_ok (h : Consistent c) (t : FunctionTemplate) (e : EventTemplate) :
    ∃ v, evaluateEmission c t e = .ok v := by
  unfold evaluateEmission
  cases hf : t.find? c.functions with
  | none => exact ⟨_, rfl⟩
  | some f =>
    obtain ⟨facts, hfacts⟩ := h.find?_facts_ne_none hf
    simp only [hfacts, Option.isNone_some, Bool.false_eq_true, if_false]
    split
    · exact ⟨_, rfl⟩
    · exact ⟨_, rfl⟩

theorem evaluateBalance_ok (h : Consistent c) (t : FunctionTemplate) :
    ∃ v, evaluateBalance c t = .ok v := by
  unfold evaluateBalance
  cases hf : t.find? c.functions with
  | none => exact ⟨_, rfl⟩
  | some f =>
    obtain ⟨facts, hfacts⟩ := h.find?_facts_ne_none hf
    simp only [hfacts]
    split
    · exact ⟨_, rfl⟩
    · exact ⟨_, rfl⟩

/-- No rule goes without an answer. -/
theorem evaluate_ok (h : Consistent c) (r : Requirement) : ∃ v, r.evaluate c = .ok v := by
  cases r with
  | function t => exact ⟨_, rfl⟩
  | event e => exact ⟨_, rfl⟩
  | noCustomModifiers ts => exact ⟨_, rfl⟩
  | emitsEvent t e => exact h.evaluateEmission_ok t e
  | noBalanceGuard t => exact h.evaluateBalance_ok t

end Consistent

namespace Hierarchy

open Solidity Body

/-! ## Calls stay in the hierarchy -/

theorem mem_scope_of_mem_callees {scope : Scope} {e : Expression} {callee : Callee}
    (h : callee ∈ callees scope e) :
    ∃ name declaration, callee ∈ scope.callees name declaration := by
  fun_induction callees scope e with
  | case1 name declaration => exact ⟨name, declaration, h⟩
  | case2 object _ name declaration hobject => exact ⟨name, declaration, h⟩
  | case3 => simp at h
  | case4 e ih => exact ih h
  | case5 => simp at h

theorem mem_callables_of_mem_scope {ms : List LocatedMember} {cs : List ShapedCallable}
    {name : String} {declaration : Option NodeId} {callee : Callee}
    (h : callee ∈ (scope ms cs).callees name declaration) : ∃ s ∈ cs, s.callee = callee := by
  have key : ∀ l : List ShapedCallable, ∀ d, (d, callee) ∈ l.filterMap (·.function?) →
      ∃ s ∈ l, s.callee = callee := by
    intro l d hd
    obtain ⟨s, hs, hfunction⟩ := List.mem_filterMap.1 hd
    refine ⟨s, hs, ?_⟩
    unfold ShapedCallable.function? at hfunction
    split at hfunction
    · exact (Prod.ext_iff.1 (Option.some.inj hfunction)).2
    · exact absurd hfunction (by simp)
  cases declaration with
  | some id =>
    have hfind : (scope ms cs).functions.find? id = some callee := by
      simpa [Scope.callees] using h
    rw [scope, OrderedMap.find?_ofList] at hfind
    obtain ⟨e, he, rfl⟩ := Option.map_eq_some_iff.1 hfind
    have hmem := List.mem_reverse.1 (List.mem_of_find?_eq_some he)
    obtain ⟨⟨d, callee⟩, hd, rfl⟩ := List.mem_map.1 hmem
    exact key cs d hd
  | none =>
    rw [Scope.callees, scope, OrderedMap.find?_ofGroups] at h
    obtain ⟨e, he, rfl⟩ := List.mem_map.1 h
    obtain ⟨⟨d, callee⟩, hd, rfl⟩ := List.mem_map.1 (List.mem_filter.1 he).1
    obtain ⟨s, hs, hcallee⟩ := key _ d hd
    exact ⟨s, (firstBy_sublist _ cs).subset hs, hcallee⟩

theorem mem_callables_of_mem_calls {ms : List LocatedMember} {cs : List ShapedCallable}
    {s : ShapedCallable} {l : Selector} (h : l ∈ (s.facts (scope ms cs)).calls) :
    ∃ s' ∈ cs, s'.shape.selector = l := by
  unfold ShapedCallable.facts at h
  split at h
  · next d _ =>
    cases hbody : d.body with
    | none => simp [hbody, bodyFacts, BodyFacts.empty, OrderedSet.mem_def, OrderedSet.empty] at h
    | some statements =>
      simp only [hbody, bodyFacts, calls, OrderedSet.mem_ofList, List.mem_flatMap] at h
      obtain ⟨e, -, he⟩ := h
      unfold callsOf at he
      split at he
      · obtain ⟨callee, hcallee, rfl⟩ := List.mem_map.1 he
        obtain ⟨name, declaration, hscope⟩ := mem_scope_of_mem_callees hcallee
        obtain ⟨s', hs', rfl⟩ := mem_callables_of_mem_scope hscope
        exact ⟨s', hs', rfl⟩
      · simp at he
  · simp [BodyFacts.empty, OrderedSet.mem_def, OrderedSet.empty] at h

/-! ## Flat contracts are consistent -/

namespace Flattening

variable {units : List SourceUnit} {name sourcePath : String} {libraryPrefixes : List String}
  {t : Located} {hierarchy : List Located} {cs : List ShapedCallable} {c : FlatContract}

theorem mem_keys_iff (h : Flattening units name sourcePath libraryPrefixes t hierarchy cs c)
    (k : Selector) : k ∈ c.facts.keys ↔ ∃ s ∈ cs, s.shape.selector = k := by
  rw [OrderedMap.mem_keys_iff, h.find?_facts, Option.isSome_map, List.find?_isSome]
  simp

theorem exists_function_iff (h : Flattening units name sourcePath libraryPrefixes t hierarchy cs c)
    (k : Selector) : (∃ f ∈ c.functions, f.selector = k) ↔ ∃ s ∈ cs, s.shape.selector = k := by
  have hfilter : (∃ f ∈ c.functions, f.selector = k) ↔
      (c.functions.filter fun f => f.selector = k) ≠ [] := by
    simp [List.filter_eq_nil_iff]
  rw [hfilter, h.filter_functions]
  cases hs : cs.find? fun s => s.shape.selector = k with
  | none => simpa using List.find?_eq_none.1 hs
  | some s => simpa using ⟨s, List.mem_of_find?_eq_some hs, by simpa using List.find?_some hs⟩

theorem consistent (h : Flattening units name sourcePath libraryPrefixes t hierarchy cs c) :
    Consistent c where
  functions := by
    rw [h.functions]
    exact pairwise_sortedBy (pairwise_visible cs)
  events := by
    rw [h.events]
    exact pairwise_sortedBy (pairwise_firstBy _ _)
  modifiers := by
    rw [h.modifiers]
    exact pairwise_sortedBy (pairwise_firstBy _ _)
  warnings := by
    rw [h.warnings]
    exact OrderedSet.increasing _
  keys := fun k => (h.mem_keys_iff k).trans (h.exists_function_iff k).symm
  calls := by
    intro k facts hfacts l hl
    rw [h.find?_facts] at hfacts
    obtain ⟨s, -, rfl⟩ := Option.map_eq_some_iff.1 hfacts
    exact (h.mem_keys_iff l).2 (mem_callables_of_mem_calls hl)

end Flattening

/-- The passes that put a flat contract together, taken as a whole, leave nothing twice, nothing
without facts and no call that leads nowhere. -/
theorem flatten_consistent {units : List SourceUnit} {name sourcePath : String}
    {libraryPrefixes : List String} {c : FlatContract}
    (h : flatten units name sourcePath libraryPrefixes = .ok c) :
    Consistent c ∧ (∀ t : FunctionTemplate, (c.functions.filter t.admits).length ≤ 1) ∧
      ∀ r : Requirement, ∃ v, r.evaluate c = .ok v := by
  obtain ⟨t, hierarchy, cs, hflat⟩ := exists_flattening h
  have hc := hflat.consistent
  exact ⟨hc, hc.length_filter_admits_le, hc.evaluate_ok⟩

theorem sample_consistent :
    ∃ c, flatten Sample.units "Token" "Token.sol" ["lib/"] = .ok c ∧ Consistent c ∧
      ∀ r : Requirement, ∃ v, r.evaluate c = .ok v := by
  obtain ⟨c, hc⟩ := Sample.flatten_units
  obtain ⟨hconsistent, -, hanswer⟩ := flatten_consistent hc
  exact ⟨c, hc, hconsistent, hanswer⟩

end Hierarchy

end TokenConformance
