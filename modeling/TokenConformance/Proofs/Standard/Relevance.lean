import Mathlib.Data.List.Forall2
import Mathlib.Logic.Relation
import TokenConformance.Proofs.Standard.EmissionSearch
import TokenConformance.Standard.Checklist
import TokenConformance.Standard.Erc20

/-! # What a rule set looks at

A rule looks at the members that have the name of one of its templates, at what their bodies lead
to, and at the modifiers that they apply. The rest of a contract may change freely:

* `RuleSet.functionTemplates`, `RuleSet.eventTemplates`: the templates of a rule set.
* `FunctionShape.anonymous`: a function without the names of its parameters.
* `IrrelevantChange`: one change of a contract that the rules of a rule set do not look at.
* `AgreeFor`: two contracts are alike in all that the rules of a rule set look at.
* `AgreeFor.run_eq`: contracts that are alike get one checklist.
* `run_eq_of_irrelevant`: so do contracts that differ by irrelevant changes.
-/

namespace TokenConformance

/-! ## Templates -/

/-- The functions that a requirement names. -/
def Requirement.functionTemplates : Requirement → List FunctionTemplate
  | function t => [t]
  | event _ => []
  | noCustomModifiers ts => ts
  | emitsEvent t _ => [t]
  | noBalanceGuard t => [t]

/-- The event that a requirement asks for. What a function has to emit is not looked up among the
events of the contract. -/
def Requirement.eventTemplates : Requirement → List EventTemplate
  | event t => [t]
  | _ => []

/-- The functions that the rules of a rule set name. -/
def RuleSet.functionTemplates (rs : RuleSet) : List FunctionTemplate :=
  rs.rules.flatMap (·.requirement.functionTemplates)

/-- The events that the rules of a rule set ask for. -/
def RuleSet.eventTemplates (rs : RuleSet) : List EventTemplate :=
  rs.rules.flatMap (·.requirement.eventTemplates)

/-! ## Changes -/

/-- A function without the names of its parameters. -/
def FunctionShape.anonymous (f : FunctionShape) : FunctionShape :=
  { f with parameters := f.parameters.map fun p => ⟨"", p.type⟩ }

/-- One change of a contract that the rules of a rule set do not look at. A change and its reverse
are not told apart: what may be added may be taken away. -/
inductive IrrelevantChange (rs : RuleSet) : FlatContract → FlatContract → Prop where
  /-- Parameters get other names. -/
  | parameterNames {c : FlatContract} {functions : List FunctionShape}
      (same : functions.map FunctionShape.anonymous = c.functions.map FunctionShape.anonymous) :
      IrrelevantChange rs c { c with functions }
  /-- The contract gets another heading and other warnings. -/
  | heading {c : FlatContract} (name kind sourcePath : String) (warnings : List String) :
      IrrelevantChange rs c { c with name, kind, sourcePath, warnings }
  /-- A function is added that no rule names and no other function calls. The facts under its
  identity, and no others, are added or changed with it. -/
  | function {c : FlatContract} {f : FunctionShape} {before after : List FunctionShape}
      {facts : OrderedMap Selector BodyFacts} (functions : c.functions = before ++ after)
      (name : ∀ t ∈ rs.functionTemplates, f.name ≠ t.name)
      (calls : ∀ k body, k ≠ f.selector → c.facts.find? k = some body → f.selector ∉ body.calls)
      (frame : ∀ k, k ≠ f.selector → facts.find? k = c.facts.find? k) :
      IrrelevantChange rs c { c with functions := before ++ f :: after, facts }
  /-- An event is added that no rule asks for. -/
  | event {c : FlatContract} {e : EventShape} {before after : List EventShape}
      (events : c.events = before ++ after) (name : ∀ t ∈ rs.eventTemplates, e.name ≠ t.name) :
      IrrelevantChange rs c { c with events := before ++ e :: after }
  /-- A modifier is added that no function applies. -/
  | modifier {c : FlatContract} {m : ModifierShape} {before after : List ModifierShape}
      (modifiers : c.modifiers = before ++ after)
      (name : ∀ f ∈ c.functions, m.name ∉ f.modifiers) :
      IrrelevantChange rs c { c with modifiers := before ++ m :: after }

/-! ## What a template looks at -/

namespace FunctionShape

variable (f : FunctionShape)

@[simp] theorem name_anonymous : f.anonymous.name = f.name := rfl
@[simp] theorem returns_anonymous : f.anonymous.returns = f.returns := rfl
@[simp] theorem visibility_anonymous : f.anonymous.visibility = f.visibility := rfl
@[simp] theorem mutability_anonymous : f.anonymous.mutability = f.mutability := rfl
@[simp] theorem modifiers_anonymous : f.anonymous.modifiers = f.modifiers := rfl
@[simp] theorem declaredIn_anonymous : f.anonymous.declaredIn = f.declaredIn := rfl

@[simp] theorem types_anonymous : f.anonymous.types = f.types := by
  simp [types, anonymous]

@[simp] theorem selector_anonymous : f.anonymous.selector = f.selector := by
  simp [selector]

@[simp] theorem text_anonymous : f.anonymous.text = f.text := by
  simp [text]

end FunctionShape

namespace FunctionTemplate

variable (t : FunctionTemplate)

/-- What the template looks at among functions: those of its name, without parameter names. -/
def relevant (fs : List FunctionShape) : List FunctionShape :=
  (fs.filter fun f => f.name = t.name).map FunctionShape.anonymous

theorem returnsMatch_anonymous (f : FunctionShape) :
    t.returnsMatch f.anonymous = t.returnsMatch f := rfl

theorem visibilityMatches_anonymous (f : FunctionShape) :
    t.visibilityMatches f.anonymous = t.visibilityMatches f := rfl

theorem mutabilityMatches_anonymous (f : FunctionShape) :
    t.mutabilityMatches f.anonymous = t.mutabilityMatches f := rfl

theorem admits_anonymous (f : FunctionShape) : t.admits f.anonymous = t.admits f := by
  rw [admits, admits, returnsMatch_anonymous, visibilityMatches_anonymous,
    mutabilityMatches_anonymous, FunctionShape.types_anonymous, FunctionShape.name_anonymous]

theorem mismatch_anonymous (f : FunctionShape) : t.mismatch f.anonymous = t.mismatch f := by
  simp [mismatch, returnsMatch_anonymous, visibilityMatches_anonymous]

theorem name_of_admits {t : FunctionTemplate} {f : FunctionShape} (h : t.admits f = true) :
    f.name = t.name := by
  simp only [admits, Bool.and_eq_true, decide_eq_true_eq] at h
  exact h.1.1.1.1

theorem find?_relevant (fs : List FunctionShape) :
    t.find? (t.relevant fs) = (t.find? fs).map FunctionShape.anonymous := by
  rw [find?, find?, relevant, List.find?_map, List.find?_filter]
  congr 2
  funext f
  cases hadmits : t.admits f with
  | true => simp [admits_anonymous, hadmits, name_of_admits hadmits]
  | false => simp [admits_anonymous, hadmits]

theorem find?_types_anonymous (types : List String) (fs : List FunctionShape) :
    ((fs.map FunctionShape.anonymous).find? fun f => f.types = types) =
      (fs.find? fun f => f.types = types).map FunctionShape.anonymous := by
  rw [List.find?_map]
  congr 2
  funext f
  simp

theorem miss_relevant (fs : List FunctionShape) : t.miss (t.relevant fs) = t.miss fs := by
  have hnamed : (t.relevant fs).filter (fun f => f.name = t.name) =
      (fs.filter fun f => f.name = t.name).map FunctionShape.anonymous := by
    rw [relevant, List.filter_map, List.filter_filter]
    exact congrArg _ (List.filter_congr fun f _ => Bool.and_self _)
  unfold miss
  rw [hnamed]
  cases fs.filter fun f => f.name = t.name with
  | nil => rfl
  | cons f rest =>
    have hfind := find?_types_anonymous t.types (f :: rest)
    rw [List.map_cons] at hfind ⊢
    dsimp only
    rw [hfind]
    cases (f :: rest).find? fun f => f.types = t.types <;> simp [mismatch_anonymous]

end FunctionTemplate

namespace EventTemplate

variable (t : EventTemplate)

/-- What the template looks at among events: those of its name. -/
def relevant (es : List EventShape) : List EventShape := es.filter fun e => e.name = t.name

theorem name_of_admits {t : EventTemplate} {e : EventShape} (h : t.admits e = true) :
    e.name = t.name := by
  simp only [admits, Bool.and_eq_true, decide_eq_true_eq] at h
  exact h.1.1

theorem find?_relevant (es : List EventShape) : t.find? (t.relevant es) = t.find? es := by
  rw [find?, find?, relevant, List.find?_filter]
  congr 1
  funext e
  cases hadmits : t.admits e with
  | true => simp [name_of_admits hadmits]
  | false => simp

theorem miss_relevant (es : List EventShape) : t.miss (t.relevant es) = t.miss es := by
  simp [miss, relevant]

end EventTemplate

/-! ## Contracts that are alike for a rule set -/

/-- Two contracts are alike in all that the rules of a rule set look at. -/
structure AgreeFor (rs : RuleSet) (c c' : FlatContract) : Prop where
  functions : ∀ t ∈ rs.functionTemplates, t.relevant c.functions = t.relevant c'.functions
  events : ∀ t ∈ rs.eventTemplates, t.relevant c.events = t.relevant c'.events
  modifiers : ∀ f ∈ c.functions, ∀ m ∈ f.modifiers, c.modifier? m = c'.modifier? m
  facts : ∀ t ∈ rs.functionTemplates, ∀ f ∈ c.functions, f.name = t.name →
    c.facts.find? f.selector = c'.facts.find? f.selector
  emissions : ∀ t ∈ rs.functionTemplates, ∀ f ∈ c.functions, f.name = t.name →
    ∀ e, reachesEmission e c.facts f.selector = reachesEmission e c'.facts f.selector

namespace AgreeFor

variable {rs : RuleSet} {c c' : FlatContract} {t : FunctionTemplate}

/-- A template finds the same function in both contracts, but for the names of parameters. -/
theorem find?_cases (h : AgreeFor rs c c') (ht : t ∈ rs.functionTemplates) :
    (t.find? c.functions = none ∧ t.find? c'.functions = none) ∨
      ∃ f f', t.find? c.functions = some f ∧ t.find? c'.functions = some f' ∧
        f.anonymous = f'.anonymous ∧ f ∈ c.functions ∧ f.name = t.name := by
  have hfind : (t.find? c.functions).map FunctionShape.anonymous =
      (t.find? c'.functions).map FunctionShape.anonymous := by
    rw [← t.find?_relevant, ← t.find?_relevant, h.functions t ht]
  cases hf : t.find? c.functions with
  | none =>
    rw [hf, Option.map_none, eq_comm, Option.map_eq_none_iff] at hfind
    exact .inl ⟨rfl, hfind⟩
  | some f =>
    rw [hf, Option.map_some, eq_comm, Option.map_eq_some_iff] at hfind
    obtain ⟨f', hf', hanonymous⟩ := hfind
    exact .inr ⟨f, f', rfl, hf', hanonymous.symm, List.mem_of_find?_eq_some hf,
      FunctionTemplate.name_of_admits (List.find?_some hf)⟩

theorem miss_eq (h : AgreeFor rs c c') (ht : t ∈ rs.functionTemplates) :
    t.miss c.functions = t.miss c'.functions := by
  rw [← t.miss_relevant, h.functions t ht, t.miss_relevant]

theorem evaluateFunction_eq (h : AgreeFor rs c c') (ht : t ∈ rs.functionTemplates) :
    evaluateFunction c t = evaluateFunction c' t := by
  unfold evaluateFunction
  rcases h.find?_cases ht with ⟨hf, hf'⟩ | ⟨f, f', hf, hf', hanonymous, -, -⟩
  · rw [hf, hf', h.miss_eq ht]
  · have htext : f.text = f'.text := by simpa using congrArg FunctionShape.text hanonymous
    have hdeclared : f.declaredIn = f'.declaredIn := by
      simpa using congrArg FunctionShape.declaredIn hanonymous
    rw [hf, hf']
    dsimp only
    rw [htext, hdeclared]

theorem evaluateEvent_eq (h : AgreeFor rs c c') {t : EventTemplate} (ht : t ∈ rs.eventTemplates) :
    evaluateEvent c t = evaluateEvent c' t := by
  unfold evaluateEvent
  rw [← t.find?_relevant c.events, ← t.find?_relevant c'.events, ← t.miss_relevant c.events,
    ← t.miss_relevant c'.events, h.events t ht]

theorem customModifiers_eq (h : AgreeFor rs c c') {f f' : FunctionShape} (hf : f ∈ c.functions)
    (hanonymous : f.anonymous = f'.anonymous) : customModifiers c f = customModifiers c' f' := by
  have hmodifiers : f.modifiers = f'.modifiers := by
    simpa using congrArg FunctionShape.modifiers hanonymous
  rw [customModifiers, customModifiers, ← hmodifiers]
  refine List.filter_congr fun m hm => ?_
  rw [isCustom, isCustom, h.modifiers f hf m hm]

theorem offence?_eq (h : AgreeFor rs c c') (ht : t ∈ rs.functionTemplates) :
    offence? c t = offence? c' t := by
  unfold offence?
  rcases h.find?_cases ht with ⟨hf, hf'⟩ | ⟨f, f', hf, hf', hanonymous, hmem, -⟩
  · rw [hf, hf']
    rfl
  · have hname : f.name = f'.name := by simpa using congrArg FunctionShape.name hanonymous
    rw [hf, hf', Option.bind_eq_bind, Option.bind_some, Option.bind_some,
      h.customModifiers_eq hmem hanonymous, hname]

theorem evaluateModifiers_eq (h : AgreeFor rs c c') {ts : List FunctionTemplate}
    (hts : ∀ t ∈ ts, t ∈ rs.functionTemplates) :
    evaluateModifiers c ts = evaluateModifiers c' ts := by
  rw [evaluateModifiers, evaluateModifiers,
    List.filterMap_congr fun t ht => h.offence?_eq (hts t ht)]

theorem evaluateEmission_eq (h : AgreeFor rs c c') (ht : t ∈ rs.functionTemplates)
    (e : EventTemplate) : evaluateEmission c t e = evaluateEmission c' t e := by
  unfold evaluateEmission
  rcases h.find?_cases ht with ⟨hf, hf'⟩ | ⟨f, f', hf, hf', hanonymous, hmem, hname⟩
  · rw [hf, hf']
  · have hselector : f.selector = f'.selector := by
      simpa using congrArg FunctionShape.selector hanonymous
    rw [hf, hf']
    dsimp only
    rw [← hselector, h.facts t ht f hmem hname, h.emissions t ht f hmem hname]

theorem evaluateBalance_eq (h : AgreeFor rs c c') (ht : t ∈ rs.functionTemplates) :
    evaluateBalance c t = evaluateBalance c' t := by
  unfold evaluateBalance
  rcases h.find?_cases ht with ⟨hf, hf'⟩ | ⟨f, f', hf, hf', hanonymous, hmem, hname⟩
  · rw [hf, hf']
  · have hselector : f.selector = f'.selector := by
      simpa using congrArg FunctionShape.selector hanonymous
    rw [hf, hf']
    dsimp only
    rw [← hselector, h.facts t ht f hmem hname]

theorem evaluate_eq (h : AgreeFor rs c c') {r : Requirement}
    (hfunctions : ∀ t ∈ r.functionTemplates, t ∈ rs.functionTemplates)
    (hevents : ∀ t ∈ r.eventTemplates, t ∈ rs.eventTemplates) : r.evaluate c = r.evaluate c' := by
  cases r with
  | function t => exact congrArg Except.ok (h.evaluateFunction_eq (hfunctions t List.mem_cons_self))
  | event t => exact congrArg Except.ok (h.evaluateEvent_eq (hevents t List.mem_cons_self))
  | noCustomModifiers ts => exact congrArg Except.ok (h.evaluateModifiers_eq hfunctions)
  | emitsEvent t e => exact h.evaluateEmission_eq (hfunctions t List.mem_cons_self) e
  | noBalanceGuard t => exact h.evaluateBalance_eq (hfunctions t List.mem_cons_self)

/-- Contracts that are alike for a rule set get the same checklist, details included. -/
theorem run_eq (h : AgreeFor rs c c') : rs.run c = rs.run c' := by
  refine List.map_congr_left fun category hcategory => ?_
  have hcheck : category.rules.map (Rule.check c) = category.rules.map (Rule.check c') := by
    refine List.map_congr_left fun r hr => ?_
    have hrule : r ∈ rs.rules := List.mem_flatMap.2 ⟨category, hcategory, hr⟩
    have heval : r.requirement.evaluate c = r.requirement.evaluate c' :=
      h.evaluate_eq (fun t ht => List.mem_flatMap.2 ⟨r, hrule, ht⟩)
        fun t ht => List.mem_flatMap.2 ⟨r, hrule, ht⟩
    rw [Rule.check, Rule.check, heval]
  rw [hcheck]

end AgreeFor

/-! ## Emissions in a closed region -/

section Region

variable {e : EventTemplate} {region : Selector → Prop}

/-- A chain of calls stays in a region that calls do not leave, and it is there whatever is known of
bodies outside. -/
theorem IsEmissionChain.of_region {facts? facts?' : Selector → Option BodyFacts}
    (hclosed : ∀ k body, region k → facts? k = some body → ∀ l ∈ body.calls, region l)
    (hagree : ∀ k, region k → facts?' k = facts? k) {ls : List Selector} :
    ∀ {k}, region k → IsEmissionChain facts? e (k :: ls) → IsEmissionChain facts?' e (k :: ls) := by
  induction ls with
  | nil =>
    intro k hk h
    obtain ⟨body, hbody, hemission | ⟨l, ls', hls, -⟩⟩ := h.head
    · exact .single ((hagree k hk).trans hbody) hemission
    · exact absurd hls (by simp)
  | cons m ls ih =>
    intro k hk h
    have hrest : IsEmissionChain facts? e (m :: ls) :=
      IsEmissionChain.suffix (show IsEmissionChain facts? e ([k] ++ m :: ls) from h)
    obtain ⟨⟨body, hbody, hm⟩, -⟩ := List.isChain_cons_cons.1 h.linked
    exact .cons ((hagree k hk).trans hbody) hm (ih (hclosed k body hk hbody m hm) hrest)

theorem reachesEmission_eq_of_region {facts facts' : OrderedMap Selector BodyFacts}
    (hclosed : ∀ k body, region k → facts.find? k = some body → ∀ l ∈ body.calls, region l)
    (hagree : ∀ k, region k → facts'.find? k = facts.find? k) {k : Selector} (hk : region k) :
    reachesEmission e facts k = reachesEmission e facts' k := by
  rw [Bool.eq_iff_iff, reachesEmission_iff, reachesEmission_iff]
  refine exists_congr fun ls => ⟨.of_region hclosed hagree hk, ?_⟩
  refine .of_region (fun l body hl hbody => hclosed l body hl ?_) (fun l hl => ?_) hk
  · rw [← hagree l hl, hbody]
  · exact (hagree l hl).symm

end Region

/-! ## Irrelevant changes -/

theorem FunctionTemplate.relevant_eq (t : FunctionTemplate) (fs : List FunctionShape) :
    t.relevant fs = (fs.map FunctionShape.anonymous).filter fun f => f.name = t.name := by
  rw [relevant, List.filter_map]
  rfl

namespace IrrelevantChange

variable {rs : RuleSet} {c c' : FlatContract}

/-- No single change shows in what the rules look at. -/
theorem agreeFor (h : IrrelevantChange rs c c') : AgreeFor rs c c' := by
  cases h with
  | @parameterNames functions same =>
    refine ⟨fun t _ => ?_, fun _ _ => rfl, fun _ _ _ _ => rfl, fun _ _ _ _ _ => rfl,
      fun _ _ _ _ _ _ => rfl⟩
    rw [t.relevant_eq, t.relevant_eq, same]
  | heading name kind sourcePath warnings =>
    exact ⟨fun _ _ => rfl, fun _ _ => rfl, fun _ _ _ _ => rfl, fun _ _ _ _ _ => rfl,
      fun _ _ _ _ _ _ => rfl⟩
  | @function f before after facts functions name calls frame =>
    -- the functions that are looked at have other names, so they have other identities
    have hother : ∀ t ∈ rs.functionTemplates, ∀ g : FunctionShape, g.name = t.name →
        g.selector ≠ f.selector := by
      intro t ht g hg hselector
      exact name t ht ((Selector.mk.inj hselector).1.symm.trans hg)
    refine ⟨fun t ht => ?_, fun _ _ => rfl, fun _ _ _ _ => rfl, fun t ht g _ hg => ?_,
      fun t ht g _ hg e => ?_⟩
    · simp [functions, FunctionTemplate.relevant, name t ht]
    · exact (frame _ (hother t ht g hg)).symm
    · have hclosed : ∀ k body, k ≠ f.selector → c.facts.find? k = some body →
          ∀ l ∈ body.calls, l ≠ f.selector :=
        fun k body hk hbody l hl hlf => calls k body hk hbody (hlf ▸ hl)
      exact @reachesEmission_eq_of_region e (· ≠ f.selector) _ _ hclosed frame _ (hother t ht g hg)
  | @event e before after events name =>
    refine ⟨fun _ _ => rfl, fun t ht => ?_, fun _ _ _ _ => rfl, fun _ _ _ _ _ => rfl,
      fun _ _ _ _ _ _ => rfl⟩
    simp [events, EventTemplate.relevant, name t ht]
  | @modifier m before after modifiers name =>
    refine ⟨fun _ _ => rfl, fun _ _ => rfl, fun f hf n hn => ?_, fun _ _ _ _ _ => rfl,
      fun _ _ _ _ _ _ => rfl⟩
    have hne : m.name ≠ n := fun heq => name f hf (heq ▸ hn)
    simp [FlatContract.modifier?, modifiers, List.find?_append, hne]

end IrrelevantChange

/-- Irrelevant changes, in any number and in both directions, change no checklist: not a name, an
outcome or a detail. -/
theorem run_eq_of_irrelevant {rs : RuleSet} {c c' : FlatContract}
    (h : Relation.EqvGen (IrrelevantChange rs) c c') : rs.run c = rs.run c' := by
  induction h with
  | rel c c' hchange => exact hchange.agreeFor.run_eq
  | refl c => rfl
  | symm c c' _ ih => exact ih.symm
  | trans c c' c'' _ _ ih ih' => exact ih.trans ih'

/-! ## A small token -/

namespace PlainToken

def transfer (receiver amount : String) : FunctionShape where
  name := "transfer"
  parameters := [⟨receiver, "address"⟩, ⟨amount, "uint256"⟩]
  returns := ["bool"]
  visibility := .publicAccess
  mutability := .nonpayable
  modifiers := .ofList ["guarded"]
  declaredIn := "Token"

def mint : FunctionShape where
  name := "mint"
  parameters := []
  returns := []
  visibility := .externalAccess
  mutability := .nonpayable
  modifiers := .empty
  declaredIn := "Token"

def facts : OrderedMap Selector BodyFacts :=
  .ofList [((transfer "to" "amount").selector, ⟨[], [⟨"Transfer", none⟩], .empty⟩)]

def contract : FlatContract where
  name := "Token"
  kind := "contract"
  sourcePath := "Token.sol"
  functions := [transfer "to" "amount"]
  events := [⟨"Transfer", []⟩, ⟨"Minted", []⟩]
  modifiers := [⟨"guarded", true, "Token"⟩]
  facts
  warnings := []

/-- The token with a function for its owner and without the second event. -/
def changed : FlatContract where
  name := "Coin"
  kind := "contract"
  sourcePath := "Coin.sol"
  functions := [mint, transfer "receiver" "value"]
  events := [⟨"Transfer", []⟩]
  modifiers := [⟨"guarded", true, "Token"⟩, ⟨"onlyOwner", true, "Token"⟩]
  facts := facts.insert mint.selector ⟨[], [], .ofList [mint.selector]⟩
  warnings := ["a note"]

theorem run_changed :
    Relation.EqvGen (IrrelevantChange Erc20.ruleSet) contract changed ∧
      RuleSet.run Erc20.ruleSet contract = RuleSet.run Erc20.ruleSet changed := by
  have hcalls : ∀ k body, k ≠ mint.selector → facts.find? k = some body →
      mint.selector ∉ body.calls := by
    intro k body _ hbody
    rw [facts, OrderedMap.find?_ofList, List.reverse_singleton] at hbody
    obtain ⟨entry, hentry, rfl⟩ := Option.map_eq_some_iff.1 hbody
    rw [List.mem_singleton.1 (List.mem_of_find?_eq_some hentry)]
    exact List.not_mem_nil
  have hchanges : Relation.EqvGen (IrrelevantChange Erc20.ruleSet) contract changed := by
    refine .trans _ _ _ (.rel _ _ (.heading "Coin" "contract" "Coin.sol" ["a note"])) ?_
    refine .trans _ _ _
      (.rel _ _ (@IrrelevantChange.parameterNames _ _ [transfer "receiver" "value"] rfl)) ?_
    refine .trans _ _ _ (.rel _ _ (@IrrelevantChange.function _ _ mint [] _
      (facts.insert mint.selector ⟨[], [], .ofList [mint.selector]⟩) rfl (by decide)
      hcalls fun k hk => by rw [OrderedMap.find?_insert, if_neg hk]; rfl)) ?_
    refine .trans _ _ _ (.rel _ _ (@IrrelevantChange.modifier _ _ ⟨"onlyOwner", true, "Token"⟩
      [⟨"guarded", true, "Token"⟩] _ rfl (by decide))) ?_
    exact .symm _ _ (.rel _ _ (@IrrelevantChange.event _ _ ⟨"Minted", []⟩ [⟨"Transfer", []⟩] []
      rfl (by decide)))
  exact ⟨hchanges, run_eq_of_irrelevant hchanges⟩

end PlainToken

end TokenConformance
