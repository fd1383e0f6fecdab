import TokenConformance.Proofs.Body.Occurrence
import TokenConformance.Proofs.Hierarchy.Consistency
import TokenConformance.Proofs.Hierarchy.MostDerived
import TokenConformance.Proofs.Standard.EmissionSearch

/-! # Calls through `super`

An override and what it overrides have one identity, and the facts under an identity are those of
the override. So a call through `super` becomes a call of the function itself:

* `DistinctNumbers`: a number belongs to one function and to one event of a hierarchy.
* `Means`: the event that a name with a reference means.
* `EmitsThroughSuper`: a function that calls what it overrides, which emits an event.
* `EmitsThroughSuper.self_mem_calls`, `EmitsThroughSuper.base_hasEmission`: what is known of the two
  bodies, each taken alone.
* `evaluateEmission_of_only_super`, `evaluate_emitsEvent_of_super`: which answer such a function
  gets.
-/

namespace TokenConformance.Hierarchy

open Solidity Body

/-! ## References -/

/-- A number belongs to one function and to one event. -/
structure DistinctNumbers (ms : List LocatedMember) : Prop where
  functions : ∀ l l' d d', (l, .function d) ∈ declaredCallables ms →
    (l', .function d') ∈ declaredCallables ms → d.id = d'.id → d = d'
  events : ∀ e ∈ Hierarchy.events ms, ∀ e' ∈ Hierarchy.events ms, e.id = e'.id → e = e'

/-- The event that its name with a reference means: the one with the number, or the first one of
the name where the number belongs to no event. -/
def Means (ms : List LocatedMember) (event : EventDefinition) (declaration : Option NodeId) :
    Prop :=
  declaration = some event.id ∨
    (∀ other ∈ events ms, declaration ≠ some other.id) ∧
      ((events ms).find? fun e => e.name = event.name) = some event

section References

variable {ms : List LocatedMember} {cs : List ShapedCallable}

theorem scope_functions (ms : List LocatedMember) (cs : List ShapedCallable) :
    (scope ms cs).functions =
      .ofList ((cs.filterMap (·.function?)).map fun f => (f.1.id, f.2)) := rfl

theorem exists_of_mem_function? (hcs : shapedCallables ms = .ok cs)
    {d : FunctionDefinition} {callee : Callee} (h : (d, callee) ∈ cs.filterMap (·.function?)) :
    ∃ l m, (l, .function d) ∈ declaredCallables ms ∧ Mutability.ofKeyword? d.mutability = some m ∧
      callee = ⟨(Callable.function d).selector, m⟩ := by
  obtain ⟨s, hs, hfunction⟩ := List.mem_filterMap.1 h
  obtain ⟨⟨l, c⟩, hc, hcallable, hshape⟩ : ∃ m ∈ declaredCallables ms,
      IsShapeOf (modifierNames ms) m s := exists_of_forall₂ (forall₂_shapedCallables hcs).flip hs
  unfold ShapedCallable.function? at hfunction
  split at hfunction
  · next d' hd' =>
    obtain ⟨rfl, rfl⟩ := Prod.mk.inj (Option.some.inj hfunction)
    obtain rfl : .function d' = c := hd'.symm.trans hcallable
    obtain ⟨v, m, -, hm, hf⟩ := functionShape_ok hshape
    refine ⟨l, m, hc, hm, ?_⟩
    rw [ShapedCallable.callee, shape_selector hshape, hf]
  · exact absurd hfunction (by simp)

theorem callees_of_number (hcs : shapedCallables ms = .ok cs) (hms : DistinctNumbers ms)
    {l : Located} {d : FunctionDefinition} (hd : (l, .function d) ∈ declaredCallables ms)
    (name : String) :
    ∃ m, (scope ms cs).callees name (some d.id) = [⟨(Callable.function d).selector, m⟩] := by
  obtain ⟨s, hs, hds⟩ := exists_of_forall₂ (forall₂_shapedCallables hcs) hd
  have hentry : (d.id, s.callee) ∈
      (cs.filterMap (·.function?)).map fun f => (f.1.id, f.2) := by
    refine List.mem_map.2 ⟨(d, s.callee), List.mem_filterMap.2 ⟨s, hs, ?_⟩, rfl⟩
    simp [ShapedCallable.function?, hds.1]
  obtain ⟨callee, hfind, hcallee⟩ := exists_find?_ofList hentry
  obtain ⟨⟨d', callee'⟩, hd', heq⟩ := List.mem_map.1 hcallee
  obtain ⟨hid, rfl⟩ := Prod.ext_iff.1 heq
  -- the callee found belongs to a function with the same number, so to the same function
  obtain ⟨l', m, hl', -, rfl⟩ := exists_of_mem_function? hcs hd'
  obtain rfl : d' = d := hms.functions l' l d' d hl' hd hid
  refine ⟨m, ?_⟩
  rw [Scope.callees, scope_functions, hfind, Option.toList_some]

theorem event?_of_means (hms : DistinctNumbers ms) {event : EventDefinition}
    (hevent : event ∈ events ms) {declaration : Option NodeId} (h : Means ms event declaration) :
    (scope ms cs).event? event.name declaration = some (eventShape event) := by
  rcases h with rfl | ⟨hnumber, hname⟩
  · have hentry : (event.id, eventShape event) ∈
        (events ms).map fun e => (e.id, eventShape e) := List.mem_map_of_mem hevent
    obtain ⟨shape, hfind, hshape⟩ := exists_find?_ofList hentry
    obtain ⟨event', hevent', heq⟩ := List.mem_map.1 hshape
    obtain ⟨hid, rfl⟩ := Prod.ext_iff.1 heq
    obtain rfl : event' = event := hms.events _ hevent' _ hevent hid
    rw [Scope.event?, scope, Option.bind_some, hfind, Option.some_or]
  · have hbind : (declaration.bind (scope ms cs).events.find?) = none := by
      rw [Option.bind_eq_none_iff]
      intro id hid
      rw [scope, OrderedMap.find?_ofList, Option.map_eq_none_iff, List.find?_eq_none]
      intro entry hentry
      obtain ⟨other, hother, rfl⟩ := List.mem_map.1 (List.mem_reverse.1 hentry)
      simpa [hid, eq_comm] using hnumber other hother
    have hdistinct : ((firstBy (·.name) ((events ms).map eventShape)).map fun e =>
        (e.name, e)).Pairwise fun a b => a.1 ≠ b.1 :=
      List.pairwise_map.2 (pairwise_firstBy _ _)
    rw [Scope.event?, hbind, Option.none_or, scope, find?_ofList_of_pairwise hdistinct,
      List.find?_map, Option.map_map]
    have hfirst : ((firstBy (·.name) ((events ms).map eventShape)).find? fun e =>
        e.name = event.name) = some (eventShape event) := by
      rw [find?_firstBy, List.find?_map]
      exact congrArg (Option.map eventShape) hname
    exact congrArg (Option.map id) hfirst

end References

/-! ## A function that calls what it overrides -/

/-- Under the identity `k` the first declaration is `d`, and `b` is the next one. The body of `d`
calls `b` through `super`, and the body of `b` emits an event of the hierarchy. -/
structure EmitsThroughSuper (ms : List LocatedMember) (k : Selector) (e : EventTemplate)
    (d b : FunctionDefinition) : Prop where
  declared : ∃ before l between l' after,
    declaredCallables ms = before ++ (l, .function d) :: between ++ (l', .function b) :: after ∧
      (∀ m ∈ before, m.2.selector ≠ k) ∧ ∀ m ∈ between, m.2.selector ≠ k
  selector_derived : (Callable.function d).selector = k
  selector_base : (Callable.function b).selector = k
  calls : ∃ body reference name arguments, d.body = some body ∧
    ExpressionOccurs body
      (.call (.member (.identifier "super" reference) name (some b.id)) arguments)
  emits : ∃ body event declaration arguments, b.body = some body ∧ event ∈ events ms ∧
    event.name = e.name ∧ event.parameters.map declaredType = e.types ∧
    Means ms event declaration ∧
      (StatementOccurs body (.emit (.call (.identifier event.name declaration) arguments)) ∨
        ∃ object, StatementOccurs body
          (.emit (.call (.member object event.name declaration) arguments)))

namespace EmitsThroughSuper

variable {ms : List LocatedMember} {cs : List ShapedCallable} {k : Selector} {e : EventTemplate}
  {d b : FunctionDefinition}

theorem firstCallable?_eq (h : EmitsThroughSuper ms k e d b) :
    ∃ l, firstCallable? ms k = some (l, .function d) := by
  obtain ⟨before, l, between, l', after, hdeclared, hbefore, -⟩ := h.declared
  refine ⟨l, ?_⟩
  have hnone : (before.find? fun m => m.2.selector = k) = none := by
    simpa using hbefore
  simp [firstCallable?, hdeclared, List.find?_append, hnone, h.selector_derived]

/-- The facts under the identity are those of the override. -/
theorem find?_facts {units : List SourceUnit} {name sourcePath : String}
    {libraryPrefixes : List String} {target : Located} {hierarchy : List Located} {c : FlatContract}
    (hsuper : EmitsThroughSuper (members hierarchy) k e d b)
    (h : Flattening units name sourcePath libraryPrefixes target hierarchy cs c) :
    c.facts.find? k =
      some (bodyFacts (scope (members hierarchy) cs) d.body) := by
  obtain ⟨l, hl⟩ := hsuper.firstCallable?_eq
  rw [h.find?_facts_eq, hl]
  rfl

/-- The call of the overridden declaration is recorded as a call of the function itself. -/
theorem self_mem_calls (h : EmitsThroughSuper ms k e d b) (hcs : shapedCallables ms = .ok cs)
    (hms : DistinctNumbers ms) : k ∈ (bodyFacts (scope ms cs) d.body).calls := by
  obtain ⟨before, l, between, l', after, hdeclared, -, -⟩ := h.declared
  have hb : (l', .function b) ∈ declaredCallables ms := by simp [hdeclared]
  obtain ⟨body, reference, name, arguments, hbody, hcall⟩ := h.calls
  obtain ⟨m, hm⟩ := callees_of_number hcs hms hb name
  rw [hbody, bodyFacts, Body.calls, OrderedSet.mem_ofList, List.mem_flatMap]
  refine ⟨_, mem_expressions_iff.2 hcall, ?_⟩
  simp [callsOf, callees, hm, h.selector_base]

/-- The overridden declaration alone is known to emit the event. -/
theorem base_hasEmission (h : EmitsThroughSuper ms k e d b) (hms : DistinctNumbers ms) :
    (bodyFacts (scope ms cs) b.body).HasEmission e := by
  obtain ⟨body, event, declaration, arguments, hbody, hevent, hname, htypes, hmeans, hemit⟩ :=
    h.emits
  have hshape : (scope ms cs).event? event.name declaration = some (eventShape event) :=
    event?_of_means hms hevent hmeans
  have htypes' : (eventShape event).types = e.types := by
    simpa [EventShape.types, eventShape, Function.comp_def] using htypes
  have hmem : (⟨event.name, some e.types⟩ : Emission) ∈ emissions (scope ms cs) body := by
    refine List.mem_filterMap.2 ?_
    rcases hemit with hemit | ⟨object, hemit⟩
    · exact ⟨_, mem_nodes_iff.2 hemit, by simp [emission?, emissionOf?, hshape, htypes']⟩
    · exact ⟨_, mem_nodes_iff.2 hemit, by simp [emission?, emissionOf?, hshape, htypes']⟩
  rw [hbody]
  exact ⟨_, hmem, hname, .inr rfl⟩

end EmitsThroughSuper

/-! ## The override of the small token -/

namespace Sample

def transferTemplate : FunctionTemplate := .callable "transfer" ["address", "uint256"] ["bool"]

def transferEventTemplate : EventTemplate :=
  ⟨"Transfer", ["address", "address", "uint256"], none⟩

def transferSelector : Selector := ⟨"transfer", ["address", "uint256"]⟩

theorem declaredCallables_hierarchy : declaredCallables (members hierarchy) =
    [(⟨token, "Token.sol"⟩, .getter supply), (⟨token, "Token.sol"⟩, .function transfer),
      (⟨token, "Token.sol"⟩, .function overload), (⟨base, "lib/Base.sol"⟩, .function baseTransfer),
      (⟨base, "lib/Base.sol"⟩, .function baseSupply)] := rfl

theorem events_hierarchy : events (members hierarchy) = [transferEvent] := rfl

theorem distinctNumbers : DistinctNumbers (members hierarchy) where
  functions := by
    intro l l' d d' hd hd' hid
    rw [declaredCallables_hierarchy] at hd hd'
    simp only [List.mem_cons, Prod.mk.injEq, Callable.function.injEq, reduceCtorEq, and_false,
      List.not_mem_nil, or_false, false_or] at hd hd'
    rcases hd with ⟨-, rfl⟩ | ⟨-, rfl⟩ | ⟨-, rfl⟩ | ⟨-, rfl⟩ <;>
      rcases hd' with ⟨-, rfl⟩ | ⟨-, rfl⟩ | ⟨-, rfl⟩ | ⟨-, rfl⟩ <;>
      first | rfl | exact absurd hid (by decide)
  events := by
    intro e he e' he' _
    rw [events_hierarchy, List.mem_singleton] at he he'
    rw [he, he']

theorem emitsThroughSuper : EmitsThroughSuper (members hierarchy) transferSelector
    transferEventTemplate transfer baseTransfer where
  declared := by
    refine ⟨[(⟨token, "Token.sol"⟩, .getter supply)], ⟨token, "Token.sol"⟩,
      [(⟨token, "Token.sol"⟩, .function overload)], ⟨base, "lib/Base.sol"⟩,
      [(⟨base, "lib/Base.sol"⟩, .function baseSupply)], declaredCallables_hierarchy, ?_, ?_⟩
    · simpa using (by decide : (Callable.getter supply).selector ≠ transferSelector)
    · simpa using (by decide : (Callable.function overload).selector ≠ transferSelector)
  selector_derived := by decide
  selector_base := by decide
  calls := by
    refine ⟨_, none, "transfer", [], rfl, mem_expressions_iff.1 ?_⟩
    simp [Statement.expressions, Statement.nodes, Statement.roots, Expression.nodes, baseTransfer,
      function]
  emits := by
    refine ⟨_, transferEvent, some 2, [], rfl, List.mem_of_mem_head? rfl, rfl, by decide, .inl rfl,
      .inl (mem_nodes_iff.1 ?_)⟩
    simp [Statement.nodes, transferEvent]

theorem calls_transfer {cs : List ShapedCallable}
    (hcs : shapedCallables (members hierarchy) = .ok cs) :
    ∀ k ∈ (bodyFacts (scope (members hierarchy) cs) transfer.body).calls,
      k = transferSelector := by
  have hmem : (⟨base, "lib/Base.sol"⟩, .function baseTransfer) ∈
      declaredCallables (members hierarchy) := by simp [declaredCallables_hierarchy]
  obtain ⟨m, hm⟩ := callees_of_number hcs distinctNumbers hmem "transfer"
  rw [emitsThroughSuper.selector_base] at hm
  have hm : (scope (members hierarchy) cs).callees "transfer" (some 4) = [⟨transferSelector, m⟩] :=
    hm
  intro k hk
  simpa [transfer, function, bodyFacts, Body.calls, Statement.expressions, Statement.nodes,
    Statement.roots, Expression.nodes, Expression.nodesOfList, callsOf, callees, hm, eq_comm]
    using hk

theorem find?_transfer {libraryPrefixes : List String} {c : FlatContract}
    (hc : flatten units "Token" "Token.sol" libraryPrefixes = .ok c) :
    ∃ f, transferTemplate.find? c.functions = some f ∧ f.selector = transferSelector := by
  obtain ⟨t, hierarchy, cs, h⟩ := exists_flattening hc
  obtain rfl : ⟨token, "Token.sol"⟩ = t := Except.ok.inj (target_units.symm.trans h.target)
  obtain rfl := h.ancestry
  obtain ⟨l, hl⟩ := emitsThroughSuper.firstCallable?_eq
  obtain ⟨f, hshape, hselector, hfilter, -⟩ := h.mostDerivedWins.present _ _ _ hl
  obtain ⟨v, m, hv, hm, rfl⟩ := functionShape_ok hshape
  obtain rfl : .publicAccess = v := Option.some.inj hv
  have hmem := List.mem_of_mem_filter (hfilter ▸ List.mem_singleton_self _)
  exact ⟨_, h.consistent.find?_of_admits hmem rfl, hselector⟩

end Sample

/-! ## The answer -/

/-- The requirement is violated where the override itself emits nothing and calls nothing but what
it overrides. -/
theorem evaluateEmission_of_only_super {units : List SourceUnit} {name sourcePath : String}
    {libraryPrefixes : List String} {c : FlatContract} {target : Located} {hierarchy : List Located}
    {cs : List ShapedCallable} {t : FunctionTemplate} {e : EventTemplate} {f : FunctionShape}
    {d b : FunctionDefinition}
    (h : Flattening units name sourcePath libraryPrefixes target hierarchy cs c)
    (hf : t.find? c.functions = some f)
    (hsuper : EmitsThroughSuper (members hierarchy) f.selector e d b)
    (hemission : ¬ (bodyFacts (scope (members hierarchy) cs) d.body).HasEmission e)
    (hcalls : ∀ k ∈ (bodyFacts (scope (members hierarchy) cs) d.body).calls, k = f.selector) :
    ∃ v, evaluateEmission c t e = .ok v ∧ v.outcome = .violated := by
  have hknown := hsuper.find?_facts h
  refine ⟨_, evaluateEmission_of_no_chain hf hknown ?_, rfl⟩
  rintro ⟨ls, hls⟩
  obtain ⟨ls, hnot, hls⟩ := hls.exists_not_mem
  obtain ⟨facts, hfacts, hemits | ⟨k, ls', rfl, hk, -⟩⟩ := hls.head
  · obtain rfl := Option.some.inj (hknown.symm.trans hfacts)
    exact hemission hemits
  · obtain rfl := Option.some.inj (hknown.symm.trans hfacts)
    exact hnot (hcalls k hk ▸ List.mem_cons_self)

/-- What a function gets that emits an event only through `super`. The call and the emission are
both known, but the facts of the overridden body are under no identity, and the call leads back to
the function itself. So the function is found to emit the event exactly if there is a chain of most
derived declarations that leaves the function without the call through `super`. -/
theorem evaluate_emitsEvent_of_super {units : List SourceUnit} {name sourcePath : String}
    {libraryPrefixes : List String} {c : FlatContract} {target : Located} {t : FunctionTemplate}
    {e : EventTemplate} {f : FunctionShape} {d b : FunctionDefinition}
    (hflat : flatten units name sourcePath libraryPrefixes = .ok c)
    (htarget : Hierarchy.target units name sourcePath = .ok target)
    (hnumbers : DistinctNumbers (members (ancestry units target.contract)))
    (hf : t.find? c.functions = some f)
    (hsuper : EmitsThroughSuper (members (ancestry units target.contract)) f.selector e d b) :
    ∃ cs, shapedCallables (members (ancestry units target.contract)) = .ok cs ∧
      let ms := members (ancestry units target.contract)
      let facts? := fun k => (firstCallable? ms k).map fun m => m.2.facts (scope ms cs)
      let outcome := ((Requirement.emitsEvent t e).evaluate c).map (·.outcome)
      f.selector ∈ (bodyFacts (scope ms cs) d.body).calls ∧
      (bodyFacts (scope ms cs) b.body).HasEmission e ∧
      facts? f.selector = some (bodyFacts (scope ms cs) d.body) ∧
      (outcome = .ok .satisfied ↔
        ∃ ls, f.selector ∉ ls ∧ IsEmissionChain facts? e (f.selector :: ls)) ∧
      (outcome = .ok .satisfied ∨ outcome = .ok .violated) := by
  obtain ⟨target', hierarchy, cs, h⟩ := exists_flattening hflat
  obtain rfl : target' = target := Except.ok.inj (h.target.symm.trans htarget)
  obtain rfl := h.ancestry
  have hfacts : (fun k => (firstCallable? (members (ancestry units target'.contract)) k).map
      fun m => m.2.facts (scope (members (ancestry units target'.contract)) cs)) =
        c.facts.find? := funext fun k => (h.find?_facts_eq k).symm
  have hknown := hsuper.find?_facts h
  refine ⟨cs, h.callables, hsuper.self_mem_calls h.callables hnumbers,
    hsuper.base_hasEmission hnumbers, hfacts ▸ hknown, ?_⟩
  rw [hfacts]
  by_cases hchain : ∃ ls, IsEmissionChain c.facts.find? e (f.selector :: ls)
  · have hanswer := evaluateEmission_of_chain hf hchain
    obtain ⟨ls, hls⟩ := hchain
    simp [Requirement.evaluate, hanswer, Except.map, Evaluation.satisfied, hls.exists_not_mem]
  · have hanswer := evaluateEmission_of_no_chain hf hknown hchain
    have hnone : ∀ ls, f.selector ∉ ls → ¬ IsEmissionChain c.facts.find? e (f.selector :: ls) :=
      fun ls _ hls => hchain ⟨ls, hls⟩
    simpa [Requirement.evaluate, hanswer, Except.map, Evaluation.violated] using hnone

theorem sample_self_mem_calls :
    ∃ cs, shapedCallables (members Sample.hierarchy) = .ok cs ∧
      Sample.transferSelector ∈
        (bodyFacts (scope (members Sample.hierarchy) cs) Sample.transfer.body).calls ∧
      (bodyFacts (scope (members Sample.hierarchy) cs) Sample.baseTransfer.body).HasEmission
        Sample.transferEventTemplate := by
  obtain ⟨c, hc⟩ := Sample.flatten_units
  obtain ⟨f, hf, hselector⟩ := Sample.find?_transfer hc
  obtain ⟨cs, hcs, hcall, hemission, -⟩ := evaluate_emitsEvent_of_super hc Sample.target_units
    Sample.distinctNumbers hf (hselector ▸ Sample.emitsThroughSuper)
  exact ⟨cs, hcs, hselector ▸ hcall, hemission⟩

/-- The call through `super` does not count: the event is emitted in the overridden function, and
the requirement is violated. -/
theorem sample_emission_violated :
    DistinctNumbers (members Sample.hierarchy) ∧
      EmitsThroughSuper (members Sample.hierarchy) Sample.transferSelector
        Sample.transferEventTemplate Sample.transfer Sample.baseTransfer ∧
      ∃ c f, flatten Sample.units "Token" "Token.sol" ["lib/"] = .ok c ∧
        Sample.transferTemplate.find? c.functions = some f ∧
        f.selector = Sample.transferSelector ∧
        ((Requirement.emitsEvent Sample.transferTemplate Sample.transferEventTemplate).evaluate
          c).map (·.outcome) = .ok .violated := by
  refine ⟨Sample.distinctNumbers, Sample.emitsThroughSuper, ?_⟩
  obtain ⟨c, hc⟩ := Sample.flatten_units
  obtain ⟨f, hf, hselector⟩ := Sample.find?_transfer hc
  obtain ⟨t, hierarchy, cs, h⟩ := exists_flattening hc
  obtain rfl : ⟨Sample.token, "Token.sol"⟩ = t :=
    Except.ok.inj (Sample.target_units.symm.trans h.target)
  obtain rfl := h.ancestry
  obtain ⟨v, hanswer, hv⟩ := evaluateEmission_of_only_super h hf
    (hselector ▸ Sample.emitsThroughSuper) (by rintro ⟨m, hm, -⟩; exact absurd hm List.not_mem_nil)
    fun k hk => hselector ▸ Sample.calls_transfer h.callables k hk
  exact ⟨c, f, hc, hf, hselector, by simp [Requirement.evaluate, hanswer, Except.map, hv]⟩

end TokenConformance.Hierarchy
