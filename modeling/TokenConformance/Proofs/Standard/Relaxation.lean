import TokenConformance.Proofs.Collection.KeyedList
import TokenConformance.Proofs.Standard.SkippedRules

/-! # Contracts with fewer custom modifiers

A modifier that turns out to come from a library makes the rules on modifiers milder, and it changes
nothing else:

* `Relaxed`: a contract some of whose modifiers have turned out so.
* `offenders`, `report?`: the custom modifiers that a rule reports, function by function.
* `Relaxed.exists_offender`: what is reported afterwards was reported before.
* `RelaxedRun`: what becomes of a checklist, place by place.
* `Relaxed.run`: the checklists of every rule set are related like that.
-/

namespace TokenConformance

/-- A modifier that may have turned out to come from a library. -/
structure RelaxedModifier (m m' : ModifierShape) : Prop where
  name : m'.name = m.name
  declaredIn : m'.declaredIn = m.declaredIn
  userDefined : m'.userDefined = true → m.userDefined = true

/-- A contract some of whose modifiers may have turned out to come from libraries. -/
structure Relaxed (c c' : FlatContract) : Prop where
  same : c' = { c with modifiers := c'.modifiers }
  modifiers : List.Forall₂ RelaxedModifier c.modifiers c'.modifiers

variable {c c' : FlatContract}

/-! ## What the rules on modifiers report -/

/-- A function with its custom modifiers, if it has any. -/
def offender? (c : FlatContract) (t : FunctionTemplate) : Option (FunctionShape × List String) :=
  (t.find? c.functions).bind fun f =>
    if customModifiers c f = [] then none else some (f, customModifiers c f)

/-- The functions with custom modifiers. -/
def offenders (c : FlatContract) (ts : List FunctionTemplate) :
    List (FunctionShape × List String) :=
  ts.filterMap (offender? c)

/-- What there is to say about functions with custom modifiers. -/
def report? : List (FunctionShape × List String) → Option String
  | [] => none
  | os => some ("; ".intercalate (os.map fun o =>
      o.1.name ++ " modified by " ++ ", ".intercalate o.2))

theorem offence?_eq_map (c : FlatContract) (t : FunctionTemplate) : offence? c t =
    (offender? c t).map fun o => o.1.name ++ " modified by " ++ ", ".intercalate o.2 := by
  unfold offence? offender?
  cases t.find? c.functions with
  | none => rfl
  | some f =>
    cases hcustom : customModifiers c f <;> simp [hcustom]

theorem evaluateModifiers_eq (c : FlatContract) (ts : List FunctionTemplate) :
    evaluateModifiers c ts =
      ⟨if offenders c ts = [] then .satisfied else .violated, report? (offenders c ts)⟩ := by
  have hoffences : ts.filterMap (offence? c) = (offenders c ts).map fun o =>
      o.1.name ++ " modified by " ++ ", ".intercalate o.2 := by
    rw [offenders, List.map_filterMap]
    exact List.filterMap_congr fun t _ => offence?_eq_map c t
  rw [evaluateModifiers, hoffences]
  cases offenders c ts <;> rfl

/-! ## Results at their places -/

/-- The rule at a place of a rule set. -/
def RuleSet.ruleAt? (rs : RuleSet) (i j : Nat) : Option Rule :=
  rs[i]?.bind fun category => category.rules[j]?

/-- The result at a place of a checklist. -/
def resultAt? (ks : List CategoryResult) (i j : Nat) : Option CheckResult :=
  ks[i]?.bind fun k => k.results[j]?

/-- What a category shows apart from outcomes and details. -/
def CategoryResult.layout (k : CategoryResult) : String × Bool × List (String × String) :=
  (k.name, k.gating, k.results.map fun x => (x.ruleId, x.title))

theorem resultAt?_run (rs : RuleSet) (c : FlatContract) (i j : Nat) :
    resultAt? (rs.run c) i j = (rs.ruleAt? i j).map (Rule.check c) := by
  simp only [resultAt?, RuleSet.run, RuleSet.ruleAt?, List.getElem?_map, Option.bind_map,
    Option.map_bind, Function.comp_def]

theorem layout_run (rs : RuleSet) (c c' : FlatContract) :
    (rs.run c').map CategoryResult.layout = (rs.run c).map CategoryResult.layout := by
  simp [RuleSet.run, CategoryResult.layout, Function.comp_def, Rule.check]

/-! ## Checklists -/

/-- The results of one rule on modifiers for two contracts. -/
structure RelaxedResult (c c' : FlatContract) (ts : List FunctionTemplate) (x x' : CheckResult) :
    Prop where
  outcome : x.outcome = .satisfied ∧ x' = x ∨
    x.outcome = .violated ∧ (x'.outcome = .satisfied ∨ x'.outcome = .violated)
  detail : x.detail = report? (offenders c ts)
  detail' : x'.detail = report? (offenders c' ts)
  reported : ∀ f custom', (f, custom') ∈ offenders c' ts →
    ∃ custom, (f, custom) ∈ offenders c ts ∧ ∀ m ∈ custom', m ∈ custom

/-- The checklists of two contracts differ at most in the rules on modifiers, and there the second
one is milder. -/
structure RelaxedRun (rs : RuleSet) (c c' : FlatContract) : Prop where
  layout : (rs.run c').map CategoryResult.layout = (rs.run c).map CategoryResult.layout
  other : ∀ i j r, rs.ruleAt? i j = some r → (∀ ts, r.requirement ≠ .noCustomModifiers ts) →
    resultAt? (rs.run c') i j = resultAt? (rs.run c) i j
  modifiers : ∀ i j r ts, rs.ruleAt? i j = some r → r.requirement = .noCustomModifiers ts →
    ∃ x x', resultAt? (rs.run c) i j = some x ∧ resultAt? (rs.run c') i j = some x' ∧
      RelaxedResult c c' ts x x'
  conformant : (verdict (rs.run c)).level = .conformant → (verdict (rs.run c')).level = .conformant

namespace Relaxed

theorem functions (h : Relaxed c c') : c'.functions = c.functions := by
  rw [h.same]

theorem isCustom (h : Relaxed c c') {m : String} (hm : isCustom c' m = true) :
    isCustom c m = true := by
  have hfind : Option.Rel RelaxedModifier (c.modifier? m) (c'.modifier? m) :=
    find?_of_related h.modifiers fun _ _ hd => by rw [hd.name]
  unfold TokenConformance.isCustom at hm ⊢
  generalize c.modifier? m = d at hfind ⊢
  generalize c'.modifier? m = d' at hfind hm
  cases hfind with
  | none => rfl
  | some hdd' => exact hdd'.userDefined hm

theorem customModifiers_sublist (h : Relaxed c c') (f : FunctionShape) :
    (customModifiers c' f).Sublist (customModifiers c f) :=
  List.monotone_filter_right _ fun _ => h.isCustom

theorem offender (h : Relaxed c c') {t : FunctionTemplate} {f : FunctionShape}
    {custom' : List String} (ho : offender? c' t = some (f, custom')) :
    ∃ custom, offender? c t = some (f, custom) ∧ custom'.Sublist custom := by
  obtain ⟨g, hg, hcustom⟩ := Option.bind_eq_some_iff.1 ho
  have hsub := h.customModifiers_sublist g
  split at hcustom
  · exact absurd hcustom (by simp)
  · next hne =>
    obtain ⟨rfl, rfl⟩ := Prod.mk.inj (Option.some.inj hcustom)
    have hne' : customModifiers c g ≠ [] := fun hnil => hne (List.sublist_nil.1 (hnil ▸ hsub))
    refine ⟨customModifiers c g, ?_, hsub⟩
    rw [offender?, ← h.functions, hg, Option.bind_some, if_neg hne']

theorem exists_offender (h : Relaxed c c') {ts : List FunctionTemplate} {f : FunctionShape}
    {custom' : List String} (ho : (f, custom') ∈ offenders c' ts) :
    ∃ custom, (f, custom) ∈ offenders c ts ∧ ∀ m ∈ custom', m ∈ custom := by
  obtain ⟨t, ht, ho⟩ := List.mem_filterMap.1 ho
  obtain ⟨custom, hcustom, hsub⟩ := h.offender ho
  exact ⟨custom, List.mem_filterMap.2 ⟨t, ht, hcustom⟩, fun m hm => hsub.subset hm⟩

theorem check_eq (h : Relaxed c c') {r : Rule}
    (hr : ∀ ts, r.requirement ≠ .noCustomModifiers ts) : r.check c' = r.check c := by
  have hevaluate : r.requirement.evaluate c' = r.requirement.evaluate c := by
    rw [h.same]
    cases hrequirement : r.requirement with
    | noCustomModifiers ts => exact absurd hrequirement (hr ts)
    | function t => rfl
    | event t => rfl
    | emitsEvent t e => rfl
    | noBalanceGuard t => rfl
  rw [Rule.check, Rule.check, hevaluate]

theorem check_modifiers (h : Relaxed c c') {r : Rule} {ts : List FunctionTemplate}
    (hr : r.requirement = .noCustomModifiers ts) :
    RelaxedResult c c' ts (r.check c) (r.check c') := by
  have hcheck : ∀ c : FlatContract, r.check c = ⟨r.id, r.requirement.title,
      if offenders c ts = [] then .satisfied else .violated, report? (offenders c ts)⟩ := by
    intro c
    rw [Rule.check, hr]
    simp only [Requirement.evaluate, evaluateModifiers_eq]
  rw [hcheck c, hcheck c']
  refine ⟨?_, rfl, rfl, fun f custom' => h.exists_offender⟩
  -- a function that is reported afterwards was reported before, so an empty report stays empty
  by_cases hnone : offenders c ts = []
  · have hnone' : offenders c' ts = [] := by
      rw [List.eq_nil_iff_forall_not_mem]
      rintro ⟨f, custom'⟩ ho
      obtain ⟨custom, ho, -⟩ := h.exists_offender ho
      exact absurd (hnone ▸ ho) List.not_mem_nil
    exact .inl ⟨if_pos hnone, by rw [hnone, hnone']⟩
  · refine .inr ⟨if_neg hnone, ?_⟩
    by_cases hnone' : offenders c' ts = []
    · exact .inl (if_pos hnone')
    · exact .inr (if_neg hnone')

theorem check_ne_violated (h : Relaxed c c') {r : Rule} (hr : (r.check c).outcome ≠ .violated) :
    (r.check c').outcome ≠ .violated := by
  by_cases hmodifiers : ∃ ts, r.requirement = .noCustomModifiers ts
  · obtain ⟨ts, hts⟩ := hmodifiers
    rcases (h.check_modifiers hts).outcome with ⟨-, heq⟩ | ⟨hviolated, -⟩
    · rwa [heq]
    · exact absurd hviolated hr
  · rwa [h.check_eq fun ts hts => hmodifiers ⟨ts, hts⟩]

/-- Modifiers that turn out to come from libraries change no rule but those on modifiers. -/
theorem run (h : Relaxed c c') (rs : RuleSet) : RelaxedRun rs c c' where
  layout := layout_run rs c c'
  other := by
    intro i j r hr hother
    rw [resultAt?_run, resultAt?_run, hr, Option.map_some, Option.map_some, h.check_eq hother]
  modifiers := by
    intro i j r ts hr hts
    refine ⟨r.check c, r.check c', ?_, ?_, h.check_modifiers hts⟩
    · rw [resultAt?_run, hr, Option.map_some]
    · rw [resultAt?_run, hr, Option.map_some]
  conformant := by
    rw [conformant_verdict_iff, conformant_verdict_iff, RuleSet.forall_gating_run_iff,
      RuleSet.forall_gating_run_iff]
    exact fun hpass category hcategory hgating r hr =>
      h.check_ne_violated (hpass category hcategory hgating r hr)

end Relaxed

end TokenConformance
