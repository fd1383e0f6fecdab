import Mathlib.Data.List.Chain
import TokenConformance.Standard.Evaluation

/-! # What a search for an emission finds

`searchEmission` hands one set of visited functions from branch to branch. Here it is compared with
chains of calls, which know nothing of visited functions:

* `IsEmissionChain`: functions with facts, each called by the one before, the last one emitting.
* `searchEmission_sound`: a search that finds something finds the end of a chain.
* `Exhausted`, `exhausted_of_not_found`: after a search that finds nothing, every function that was
  visited in it emits nothing and has all its callees visited; so no path is lost.
* `reachesEmission_iff`: both together.
* `evaluate_emitsEvent`: when a contract gets which answer.
-/

namespace TokenConformance

/-! ## Chains of calls -/

/-- An emission of the event, with its types or with unknown ones. -/
def BodyFacts.HasEmission (f : BodyFacts) (e : EventTemplate) : Prop :=
  ∃ m ∈ f.emissions, m.event = e.name ∧ (m.types = none ∨ m.types = some e.types)

/-- A chain of functions with facts in which each one calls the next and the last one emits. -/
structure IsEmissionChain (facts? : Selector → Option BodyFacts) (e : EventTemplate)
    (chain : List Selector) : Prop where
  known : ∀ k ∈ chain, ∃ f, facts? k = some f
  linked : chain.IsChain fun k l => ∃ f, facts? k = some f ∧ l ∈ f.calls
  emits : ∃ k ∈ chain.getLast?, ∃ f, facts? k = some f ∧ f.HasEmission e

theorem BodyFacts.emits_iff {f : BodyFacts} {e : EventTemplate} :
    f.emits e = true ↔ f.HasEmission e := by
  simp only [emits, HasEmission, List.any_eq_true, Emission.isOf, Bool.and_eq_true,
    decide_eq_true_eq]
  refine exists_congr fun m => and_congr_right fun _ => and_congr_right fun _ => ?_
  cases m.types <;> simp

namespace IsEmissionChain

variable {facts? : Selector → Option BodyFacts} {e : EventTemplate} {k l : Selector}
  {ls : List Selector} {f : BodyFacts}

theorem single (hf : facts? k = some f) (he : f.HasEmission e) :
    IsEmissionChain facts? e [k] where
  known := by
    intro x hx
    rw [List.mem_singleton.1 hx]
    exact ⟨f, hf⟩
  linked := List.isChain_singleton k
  emits := ⟨k, rfl, f, hf, he⟩

theorem cons (hf : facts? k = some f) (hl : l ∈ f.calls)
    (h : IsEmissionChain facts? e (l :: ls)) : IsEmissionChain facts? e (k :: l :: ls) where
  known := by
    intro x hx
    rcases List.mem_cons.1 hx with rfl | hx
    · exact ⟨f, hf⟩
    · exact h.known x hx
  linked := List.isChain_cons_cons.2 ⟨⟨f, hf, hl⟩, h.linked⟩
  emits := by simpa using h.emits

/-- The first function of a chain emits, or it calls the first function of a shorter chain. -/
theorem head (h : IsEmissionChain facts? e (k :: ls)) :
    ∃ f, facts? k = some f ∧
      (f.HasEmission e ∨ ∃ l ls', ls = l :: ls' ∧ l ∈ f.calls ∧
        IsEmissionChain facts? e (l :: ls')) := by
  cases ls with
  | nil =>
    obtain ⟨x, hx, f, hf, he⟩ := h.emits
    have hxk : k = x := by simpa using hx
    exact ⟨f, hxk ▸ hf, .inl he⟩
  | cons l ls' =>
    obtain ⟨⟨f, hf, hl⟩, hlinked⟩ := List.isChain_cons_cons.1 h.linked
    refine ⟨f, hf, .inr ⟨l, ls', rfl, hl, ?_⟩⟩
    exact ⟨fun x hx => h.known x (List.mem_cons_of_mem _ hx), hlinked, by simpa using h.emits⟩

theorem suffix {before : List Selector} (h : IsEmissionChain facts? e (before ++ k :: ls)) :
    IsEmissionChain facts? e (k :: ls) where
  known := fun x hx => h.known x (List.mem_append_right _ hx)
  linked := h.linked.right_of_append
  emits := by simpa using h.emits

/-- A function that calls itself gains nothing by it: a chain need not come back to its start. -/
theorem exists_not_mem (h : IsEmissionChain facts? e (k :: ls)) :
    ∃ ls', k ∉ ls' ∧ IsEmissionChain facts? e (k :: ls') := by
  induction hn : ls.length using Nat.strongRecOn generalizing ls with
  | _ n ih =>
    by_cases hk : k ∈ ls
    · obtain ⟨before, later, rfl⟩ := List.append_of_mem hk
      have hshorter : later.length < n := by
        rw [← hn, List.length_append, List.length_cons]
        omega
      have happend : IsEmissionChain facts? e ((k :: before) ++ k :: later) := h
      exact ih later.length hshorter happend.suffix rfl
    · exact ⟨ls, hk, h⟩

end IsEmissionChain

/-! ## What is found is at the end of a chain -/

variable {e : EventTemplate} {facts : OrderedMap Selector BodyFacts}

theorem searchEmission_sound (visited : OrderedSet Selector) (ks : List Selector)
    (h : (searchEmission e facts visited ks).found = true) :
    ∃ k ∈ ks, ∃ ls, IsEmissionChain facts.find? e (k :: ls) := by
  fun_induction searchEmission e facts visited ks with
  | case1 visited => simp at h
  | case2 visited k pending hk ih =>
    obtain ⟨l, hl, hchain⟩ := ih h
    exact ⟨l, List.mem_cons_of_mem _ hl, hchain⟩
  | case3 visited k pending hk hinsert hf ih =>
    obtain ⟨l, hl, hchain⟩ := ih h
    exact ⟨l, List.mem_cons_of_mem _ hl, hchain⟩
  | case4 visited k pending hk hinsert f hf he =>
    exact ⟨k, List.mem_cons_self, [], .single hf (BodyFacts.emits_iff.1 he)⟩
  | case5 visited k pending hk hinsert f hf he inner hinner hfound ih =>
    obtain ⟨l, hl, ls, hchain⟩ := ih hfound
    exact ⟨k, List.mem_cons_self, l :: ls, .cons hf hl hchain⟩
  | case6 visited k pending hk hinsert f hf he inner hinner hfound ih ih' =>
    obtain ⟨l, hl, hchain⟩ := ih' h
    exact ⟨l, List.mem_cons_of_mem _ hl, hchain⟩

/-! ## Nothing else is lost -/

/-- A function emits nothing itself, and everything that it calls has been visited. -/
def Exhausted (e : EventTemplate) (facts : OrderedMap Selector BodyFacts)
    (visited : OrderedSet Selector) (k : Selector) : Prop :=
  ∀ f, facts.find? k = some f → ¬ f.HasEmission e ∧ ∀ l ∈ f.calls, l ∈ visited

theorem Exhausted.mono {s t : OrderedSet Selector} {k : Selector} (h : Exhausted e facts s k)
    (hst : ∀ l ∈ s, l ∈ t) : Exhausted e facts t k :=
  fun f hf => ⟨(h f hf).1, fun l hl => hst l ((h f hf).2 l hl)⟩

theorem mem_visited_of_not_found (visited : OrderedSet Selector) (ks : List Selector)
    (h : (searchEmission e facts visited ks).found = false) :
    ∀ k ∈ ks, k ∈ (searchEmission e facts visited ks).visited := by
  fun_induction searchEmission e facts visited ks with
  | case1 visited => simp
  | case2 visited k pending hk ih =>
    intro l hl
    rcases List.mem_cons.1 hl with rfl | hl
    · exact EmissionSearch.visited_of_before _ _ hk
    · exact ih h l hl
  | case3 visited k pending hk hinsert hf ih =>
    intro l hl
    rcases List.mem_cons.1 hl with rfl | hl
    · exact (searchEmission e facts (visited.insert l) pending).visited_of_before l
        (OrderedSet.mem_insert.2 (.inl rfl))
    · exact ih h l hl
  | case4 visited k pending hk hinsert f hf he => simp at h
  | case5 visited k pending hk hinsert f hf he inner hinner hfound ih =>
    exact absurd (hfound.symm.trans h) (by simp)
  | case6 visited k pending hk hinsert f hf he inner hinner hfound ih ih' =>
    intro l hl
    rcases List.mem_cons.1 hl with rfl | hl
    · have hl : l ∈ inner.visited :=
        inner.visited_of_before l (OrderedSet.mem_insert.2 (.inl rfl))
      exact (searchEmission e facts inner.visited pending).visited_of_before l hl
    · exact ih' h l hl

/-- The invariant of the search. The functions that were visited before it are not its concern; in
a search that starts with nothing visited there are none. -/
theorem exhausted_of_not_found (visited : OrderedSet Selector) (ks : List Selector)
    (h : (searchEmission e facts visited ks).found = false) :
    ∀ k ∈ (searchEmission e facts visited ks).visited,
      k ∈ visited ∨ Exhausted e facts (searchEmission e facts visited ks).visited k := by
  fun_induction searchEmission e facts visited ks with
  | case1 visited => exact fun k hk => .inl hk
  | case2 visited k pending hk ih => exact ih h
  | case3 visited k pending hk hinsert hf ih =>
    intro l hl
    rcases ih h l hl with hl | hl
    · rcases OrderedSet.mem_insert.1 hl with rfl | hl
      · exact .inr fun f hf' => absurd (hf.symm.trans hf') (by simp)
      · exact .inl hl
    · exact .inr hl
  | case4 visited k pending hk hinsert f hf he => simp at h
  | case5 visited k pending hk hinsert f hf he inner hinner hfound ih =>
    exact absurd (hfound.symm.trans h) (by simp)
  | case6 visited k pending hk hinsert f hf he inner hinner hfound ih ih' =>
    intro l hl
    have hinnerFalse : inner.found = false := by simpa using hfound
    have hlater := (searchEmission e facts inner.visited pending).visited_of_before
    rcases ih' h l hl with hl | hl
    · rcases ih hinnerFalse l hl with hl | hl
      · rcases OrderedSet.mem_insert.1 hl with rfl | hl
        -- `k` itself: its callees are what the inner search has visited
        · refine .inr fun f' hf' => ?_
          obtain rfl : f = f' := Option.some.inj (hf.symm.trans hf')
          refine ⟨fun hemission => he (BodyFacts.emits_iff.2 hemission), fun m hm => ?_⟩
          exact hlater m (mem_visited_of_not_found _ _ hinnerFalse m hm)
        · exact .inl hl
      · exact .inr (hl.mono hlater)
    · exact .inr hl

/-- No chain starts in a set of functions that are all exhausted by the set itself. -/
theorem not_isEmissionChain_of_exhausted {visited : OrderedSet Selector}
    (h : ∀ k ∈ visited, Exhausted e facts visited k) (ls : List Selector) :
    ∀ k ∈ visited, ¬ IsEmissionChain facts.find? e (k :: ls) := by
  induction ls with
  | nil =>
    intro k hk hchain
    obtain ⟨f, hf, hemission | ⟨l, ls', hls, -⟩⟩ := hchain.head
    · exact (h k hk f hf).1 hemission
    · exact absurd hls (by simp)
  | cons m ls ih =>
    intro k hk hchain
    obtain ⟨f, hf, hemission | ⟨l, ls', hls, hl, hrest⟩⟩ := hchain.head
    · exact (h k hk f hf).1 hemission
    · obtain ⟨rfl, rfl⟩ := List.cons.inj hls
      exact ih m ((h k hk f hf).2 m hl) hrest

theorem reachesEmission_iff (k : Selector) :
    reachesEmission e facts k = true ↔ ∃ ls, IsEmissionChain facts.find? e (k :: ls) := by
  constructor
  · intro h
    obtain ⟨l, hl, hchain⟩ := searchEmission_sound _ _ h
    exact List.mem_singleton.1 hl ▸ hchain
  · rintro ⟨ls, hchain⟩
    by_contra hfound
    have hfound : (searchEmission e facts .empty [k]).found = false := by
      simpa [reachesEmission] using hfound
    have hexhausted : ∀ l ∈ (searchEmission e facts .empty [k]).visited,
        Exhausted e facts (searchEmission e facts .empty [k]).visited l := by
      intro l hl
      rcases exhausted_of_not_found _ _ hfound l hl with hl | hl
      · exact absurd hl (List.not_mem_nil)
      · exact hl
    have hk := mem_visited_of_not_found _ _ hfound k List.mem_cons_self
    exact not_isEmissionChain_of_exhausted hexhausted ls k hk hchain

/-! ## The answers of the requirement -/

variable {c : FlatContract} {t : FunctionTemplate}

theorem evaluateEmission_of_none (hf : t.find? c.functions = none) :
    evaluateEmission c t e = .ok (.skipped t) := by
  simp [evaluateEmission, hf]

theorem evaluateEmission_of_missing {f : FunctionShape} (hf : t.find? c.functions = some f)
    (hfacts : c.facts.find? f.selector = none) :
    evaluateEmission c t e = .error (.missingFacts f.selector.text) := by
  simp [evaluateEmission, hf, hfacts]

theorem evaluateEmission_of_chain {f : FunctionShape} (hf : t.find? c.functions = some f)
    (hchain : ∃ ls, IsEmissionChain c.facts.find? e (f.selector :: ls)) :
    evaluateEmission c t e = .ok .satisfied := by
  obtain ⟨facts, hfacts⟩ := hchain.choose_spec.known f.selector List.mem_cons_self
  have hreach : reachesEmission e c.facts f.selector = true := (reachesEmission_iff _).2 hchain
  simp [evaluateEmission, hf, hfacts, hreach]

theorem evaluateEmission_of_no_chain {f : FunctionShape} {facts : BodyFacts}
    (hf : t.find? c.functions = some f) (hfacts : c.facts.find? f.selector = some facts)
    (hchain : ¬ ∃ ls, IsEmissionChain c.facts.find? e (f.selector :: ls)) :
    evaluateEmission c t e = .ok (.violated
      ("`" ++ f.selector.text ++ "` does not emit `" ++ e.text ++ "`")) := by
  have hreach : ¬ reachesEmission e c.facts f.selector = true :=
    fun h => hchain ((reachesEmission_iff _).1 h)
  simp [evaluateEmission, hf, hfacts, hreach]

/-- When the requirement that a function emits an event gets which answer, for any contract and any
graph of calls. It is skipped when no function has the shape, it cannot be evaluated when the
function that has it comes without facts, and else the event is looked for along chains of calls. -/
theorem evaluate_emitsEvent (c : FlatContract) (t : FunctionTemplate) (e : EventTemplate) :
    let answer := (Requirement.emitsEvent t e).evaluate c
    (answer.map (·.outcome) = .ok .notApplicable ↔ t.find? c.functions = none) ∧
    (∀ failure, answer = .error failure ↔
      ∃ f, t.find? c.functions = some f ∧ c.facts.find? f.selector = none ∧
        failure = .missingFacts f.selector.text) ∧
    (answer.map (·.outcome) = .ok .satisfied ↔
      ∃ f, t.find? c.functions = some f ∧
        ∃ ls, IsEmissionChain c.facts.find? e (f.selector :: ls)) ∧
    (answer.map (·.outcome) = .ok .violated ↔
      ∃ f, t.find? c.functions = some f ∧ (c.facts.find? f.selector).isSome ∧
        ¬ ∃ ls, IsEmissionChain c.facts.find? e (f.selector :: ls)) := by
  intro answer
  have hanswer : answer = evaluateEmission c t e := rfl
  clear_value answer
  cases hf : t.find? c.functions with
  | none =>
    rw [evaluateEmission_of_none hf] at hanswer
    simp [hanswer, Except.map, Evaluation.skipped]
  | some f =>
    cases hfacts : c.facts.find? f.selector with
    | none =>
      rw [evaluateEmission_of_missing hf hfacts] at hanswer
      have hchain : ¬ ∃ ls, IsEmissionChain c.facts.find? e (f.selector :: ls) := by
        rintro ⟨ls, hls⟩
        obtain ⟨facts, h⟩ := hls.known f.selector List.mem_cons_self
        exact absurd (hfacts.symm.trans h) (by simp)
      simp [hanswer, Except.map, hfacts, hchain, eq_comm (a := RuleFailure.missingFacts _)]
    | some facts =>
      by_cases hchain : ∃ ls, IsEmissionChain c.facts.find? e (f.selector :: ls)
      · rw [evaluateEmission_of_chain hf hchain] at hanswer
        simp [hanswer, Except.map, Evaluation.satisfied, hfacts, hchain]
      · rw [evaluateEmission_of_no_chain hf hfacts hchain] at hanswer
        have hnone : ∀ ls, ¬ IsEmissionChain c.facts.find? e (f.selector :: ls) :=
          not_exists.1 hchain
        simp [hanswer, Except.map, Evaluation.violated, hfacts, hnone]

end TokenConformance
