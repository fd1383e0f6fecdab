import TokenConformance.Standard.Checklist
import TokenConformance.Standard.Name

/-! # Skipped rules

A verdict counts violations, and a rule that is skipped is none. That no contract passes because a
rule was skipped is therefore a property of the rule set:

* `Requirement.neededFunction?`: the function without which a requirement is skipped.
* `Rule.check_notApplicable_iff`: a rule is skipped exactly if that function is missing.
* `RuleSet.ReportsSkips`: what a gating rule needs, another gating rule asks for.
* `RuleSet.conformant_run_iff`: with such a rule set, a contract passes exactly if every gating rule
  is satisfied.
* `Standard.reportsSkips`, `conformant_iff_all_satisfied`: both standards have such a rule set.
-/

namespace TokenConformance

/-! ## When a rule is skipped -/

/-- The function without which a requirement is skipped. -/
def Requirement.neededFunction? : Requirement → Option FunctionTemplate
  | function _ => none
  | event _ => none
  | noCustomModifiers _ => none
  | emitsEvent t _ => some t
  | noBalanceGuard t => some t

variable {c : FlatContract}

theorem evaluateModifiers_ne_notApplicable (ts : List FunctionTemplate) :
    (evaluateModifiers c ts).outcome ≠ .notApplicable := by
  unfold evaluateModifiers
  split <;> simp [Evaluation.satisfied, Evaluation.violated]

theorem evaluateFunction_violated_iff {t : FunctionTemplate} :
    (evaluateFunction c t).outcome = .violated ↔ t.find? c.functions = none := by
  unfold evaluateFunction
  cases t.find? c.functions <;> simp [Evaluation.violated]

theorem evaluateFunction_ne_notApplicable (t : FunctionTemplate) :
    (evaluateFunction c t).outcome ≠ .notApplicable := by
  unfold evaluateFunction
  cases t.find? c.functions <;> simp [Evaluation.violated]

theorem evaluateEvent_ne_notApplicable (t : EventTemplate) :
    (evaluateEvent c t).outcome ≠ .notApplicable := by
  unfold evaluateEvent
  cases t.find? c.events <;> simp [Evaluation.violated]

theorem evaluateEmission_skipped_iff {t : FunctionTemplate} {e : EventTemplate} :
    (evaluateEmission c t e).map (·.outcome) = .ok .notApplicable ↔
      t.find? c.functions = none := by
  unfold evaluateEmission
  cases hf : t.find? c.functions with
  | none => simp [Except.map, Evaluation.skipped]
  | some f =>
    by_cases hfacts : (c.facts.find? f.selector).isNone
    · simp [Except.map, hfacts]
    · by_cases hreach : reachesEmission e c.facts f.selector <;>
        simp [Except.map, hfacts, hreach, Evaluation.satisfied, Evaluation.violated]

theorem evaluateBalance_skipped_iff {t : FunctionTemplate} :
    (evaluateBalance c t).map (·.outcome) = .ok .notApplicable ↔ t.find? c.functions = none := by
  unfold evaluateBalance
  cases hf : t.find? c.functions with
  | none => simp [Except.map, Evaluation.skipped]
  | some f =>
    cases hfacts : c.facts.find? f.selector with
    | none => simp [Except.map, hfacts]
    | some facts =>
      cases hread : facts.guards.findSome? balanceRead? <;>
        simp [Except.map, hfacts, hread, Evaluation.satisfied, Evaluation.violated]

/-- A failure to evaluate counts as a violation, so it is never a skip. -/
theorem Rule.check_outcome_eq (r : Rule) {o : Outcome} (ho : o ≠ .violated) :
    (r.check c).outcome = o ↔ (r.requirement.evaluate c).map (·.outcome) = .ok o := by
  unfold Rule.check
  cases r.requirement.evaluate c with
  | error failure => simpa [Evaluation.violated, Except.map] using ho.symm
  | ok evaluation => simp [Except.map]

theorem Rule.check_notApplicable_iff (r : Rule) :
    (r.check c).outcome = .notApplicable ↔
      ∃ t, r.requirement.neededFunction? = some t ∧ t.find? c.functions = none := by
  rw [r.check_outcome_eq (by decide)]
  cases r.requirement with
  | function t =>
    simpa [Requirement.evaluate, Requirement.neededFunction?, Except.map]
      using evaluateFunction_ne_notApplicable t
  | event t =>
    simpa [Requirement.evaluate, Requirement.neededFunction?, Except.map]
      using evaluateEvent_ne_notApplicable t
  | noCustomModifiers ts =>
    simpa [Requirement.evaluate, Requirement.neededFunction?, Except.map]
      using evaluateModifiers_ne_notApplicable ts
  | emitsEvent t e =>
    simpa [Requirement.evaluate, Requirement.neededFunction?] using evaluateEmission_skipped_iff
  | noBalanceGuard t =>
    simpa [Requirement.evaluate, Requirement.neededFunction?] using evaluateBalance_skipped_iff

theorem Rule.check_violated_of_function {r : Rule} {t : FunctionTemplate}
    (hr : r.requirement = .function t) (ht : t.find? c.functions = none) :
    (r.check c).outcome = .violated := by
  simp [Rule.check, hr, Requirement.evaluate, evaluateFunction_violated_iff.2 ht]

/-! ## Verdicts -/

theorem violatedIn_eq_nil_iff {gating : Bool} {cs : List CategoryResult} :
    violatedIn gating cs = [] ↔
      ∀ k ∈ cs, k.gating = gating → ∀ r ∈ k.results, r.outcome ≠ .violated := by
  simp only [violatedIn, List.map_eq_nil_iff, List.filter_eq_nil_iff, List.mem_flatMap,
    List.mem_filter, decide_eq_true_eq]
  constructor
  · intro h k hk hgating r hr
    exact h r ⟨k, ⟨hk, hgating⟩, hr⟩
  · rintro h r ⟨k, ⟨hk, hgating⟩, hr⟩
    exact h k hk hgating r hr

theorem conformant_verdict_iff {cs : List CategoryResult} :
    (verdict cs).level = .conformant ↔
      ∀ k ∈ cs, k.gating = true → ∀ r ∈ k.results, r.outcome ≠ .violated := by
  rw [← violatedIn_eq_nil_iff]
  by_cases h : violatedIn true cs = [] <;> simp [verdict, h]

theorem exitCode_verdict_eq_zero_iff {cs : List CategoryResult} :
    (verdict cs).exitCode = 0 ↔ (verdict cs).level = .conformant := by
  have hexit : (verdict cs).exitCode = (verdict cs).level.exitCode := rfl
  rw [hexit]
  cases (verdict cs).level <;> decide

/-! ## Rule sets that report what they skip -/

namespace RuleSet

/-- A gating rule asks for the function. -/
def RequiresFunction (rs : RuleSet) (t : FunctionTemplate) : Prop :=
  ∃ category ∈ rs, category.gating = true ∧ ∃ r ∈ category.rules, r.requirement = .function t

instance (rs : RuleSet) (t : FunctionTemplate) : Decidable (rs.RequiresFunction t) :=
  inferInstanceAs (Decidable (∃ category ∈ rs, category.gating = true ∧
    ∃ r ∈ category.rules, r.requirement = .function t))

/-- What a gating rule needs, another gating rule asks for. -/
def ReportsSkips (rs : RuleSet) : Prop :=
  ∀ category ∈ rs, category.gating = true → ∀ r ∈ category.rules,
    ∀ t ∈ r.requirement.neededFunction?, rs.RequiresFunction t

instance (rs : RuleSet) : Decidable rs.ReportsSkips :=
  inferInstanceAs (Decidable (∀ category ∈ rs, category.gating = true → ∀ r ∈ category.rules,
    ∀ t ∈ r.requirement.neededFunction?, rs.RequiresFunction t))

variable {rs : RuleSet}

/-- Where a gating rule is skipped, another one is violated. -/
theorem ReportsSkips.exists_violated (h : rs.ReportsSkips) {category : Category}
    (hcategory : category ∈ rs) (hgating : category.gating = true) {r : Rule}
    (hr : r ∈ category.rules) (hskipped : (r.check c).outcome = .notApplicable) :
    ∃ t, r.requirement.neededFunction? = some t ∧
      ∃ other ∈ rs, other.gating = true ∧ ∃ r' ∈ other.rules,
        r'.requirement = .function t ∧ (r'.check c).outcome = .violated := by
  obtain ⟨t, hneeded, hmissing⟩ := r.check_notApplicable_iff.1 hskipped
  obtain ⟨other, hother, hgating', r', hr', hrequirement⟩ :=
    h category hcategory hgating r hr t hneeded
  exact ⟨t, hneeded, other, hother, hgating', r', hr', hrequirement,
    Rule.check_violated_of_function hrequirement hmissing⟩

/-- A statement about the gating results of a run, said of the rules. -/
theorem forall_gating_run_iff {p : CheckResult → Prop} :
    (∀ k ∈ rs.run c, k.gating = true → ∀ x ∈ k.results, p x) ↔
      ∀ category ∈ rs, category.gating = true → ∀ r ∈ category.rules, p (r.check c) := by
  simp [RuleSet.run]

theorem ReportsSkips.conformant_run_iff (h : rs.ReportsSkips) :
    (verdict (rs.run c)).level = .conformant ↔
      ∀ k ∈ rs.run c, k.gating = true → ∀ x ∈ k.results, x.outcome = .satisfied := by
  rw [conformant_verdict_iff, forall_gating_run_iff, forall_gating_run_iff]
  constructor
  · intro hpass category hcategory hgating r hr
    cases houtcome : (r.check c).outcome with
    | satisfied => rfl
    | violated => exact absurd houtcome (hpass category hcategory hgating r hr)
    | notApplicable =>
      obtain ⟨-, -, other, hother, hgating', r', hr', -, hviolated⟩ :=
        h.exists_violated hcategory hgating hr houtcome
      exact absurd hviolated (hpass other hother hgating' r' hr')
  · intro hall category hcategory hgating r hr hviolated
    rw [hall category hcategory hgating r hr] at hviolated
    exact absurd hviolated (by decide)

end RuleSet

theorem Standard.reportsSkips (std : Standard) : std.ruleSet.ReportsSkips := by
  cases std <;> decide

/-- Whatever a contract is like, it passes the check against a standard exactly if every gating
rule is satisfied. A gating rule that is skipped names a function, and the gating rule that asks for
this very function is then violated. -/
theorem conformant_iff_all_satisfied (std : Standard) (c : FlatContract) :
    ((verdict (std.ruleSet.run c)).exitCode = 0 ↔
      (verdict (std.ruleSet.run c)).level = .conformant) ∧
    ((verdict (std.ruleSet.run c)).exitCode = 0 ↔
      ∀ k ∈ std.ruleSet.run c, k.gating = true → ∀ x ∈ k.results, x.outcome = .satisfied) ∧
    ∀ category ∈ std.ruleSet, category.gating = true → ∀ r ∈ category.rules,
      (r.check c).outcome = .notApplicable →
        ∃ t, r.requirement.neededFunction? = some t ∧
          ∃ other ∈ std.ruleSet, other.gating = true ∧ ∃ r' ∈ other.rules,
            r'.requirement = .function t ∧ (r'.check c).outcome = .violated := by
  refine ⟨exitCode_verdict_eq_zero_iff, ?_, ?_⟩
  · exact exitCode_verdict_eq_zero_iff.trans std.reportsSkips.conformant_run_iff
  · intro category hcategory hgating r hr hskipped
    exact std.reportsSkips.exists_violated hcategory hgating hr hskipped

/-- Of a contract without members the emission rules are skipped, and still it does not pass. -/
theorem empty_contract_fails :
    (∃ k ∈ Standard.erc20.ruleSet.run default, k.gating = true ∧
      ∃ x ∈ k.results, x.outcome = .notApplicable) ∧
    (verdict (Standard.erc20.ruleSet.run default)).exitCode ≠ 0 := by
  have hskipped : ∃ k ∈ Standard.erc20.ruleSet.run default, k.gating = true ∧
      ∃ x ∈ k.results, x.outcome = .notApplicable := by decide
  refine ⟨hskipped, fun hpass => ?_⟩
  obtain ⟨k, hk, hgating, x, hx, hnone⟩ := hskipped
  have hsatisfied := (conformant_iff_all_satisfied .erc20 default).2.1.1 hpass k hk hgating x hx
  exact absurd (hnone.symm.trans hsatisfied) (by decide)

end TokenConformance
