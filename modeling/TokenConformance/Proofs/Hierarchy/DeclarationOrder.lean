import Mathlib.Data.List.Nodup
import TokenConformance.Proofs.Body.ScopeAgreement
import TokenConformance.Proofs.Hierarchy.Reordered
import TokenConformance.Proofs.Hierarchy.SuperCall
import TokenConformance.Standard.Checklist

/-! # The order of declarations

A contract may declare its members in any order, as long as they can be told apart:

* `DistinctDeclarations`: a number belongs to one declaration, and no contract declares one identity
  twice.
* `shapedCallables_of_reordered`, `callables_perm`, `visible_perm`: the members that can be called.
* `visibleEvents_perm`, `visibleModifiers_perm`: events and modifiers.
* `scope_agree`: names and references mean the same in bodies, but a name may have its functions in
  another order.
* `facts_eq`, `warnings_eq`: what is known of bodies, and what is not.
* `flatten_of_reordered`: all of it together.
-/

namespace TokenConformance.Hierarchy

open Solidity Body

/-! ## Members by kind -/

/-- The member as an event. -/
def event? : ContractMember → Option EventDefinition
  | .event e => some e
  | _ => none

/-- The member as a modifier. -/
def modifier? : ContractMember → Option ModifierDefinition
  | .modifier m => some m
  | _ => none

/-- The member as a state variable. -/
def stateVariable? : ContractMember → Option VariableDeclaration
  | .variable v => some v
  | _ => none

/-- The member as something that can be called, with its shape. -/
def shaped? (names : OrderedMap NodeId String) (l : Located) (m : ContractMember) :
    Option ShapedCallable :=
  (callable? m).bind fun c => (c.shape names l.contract.name).toOption.map fun f => ⟨c, f⟩

section Kinds

variable (hierarchy : List Located)

theorem events_eq : events (members hierarchy) = declared (fun _ => event?) hierarchy :=
  filterMap_members fun _ m => by cases m <;> rfl

theorem stateVariables_eq :
    stateVariables (members hierarchy) = declared (fun _ => stateVariable?) hierarchy :=
  filterMap_members fun _ m => by cases m <;> rfl

theorem modifiers_eq : modifiers (members hierarchy) =
    declared (fun l m => (modifier? m).map (l, ·)) hierarchy :=
  filterMap_members fun _ m => by cases m <;> rfl

theorem map_declared {α β : Type} (g : α → β) (f : Located → ContractMember → Option α) :
    (declared f hierarchy).map g = declared (fun l m => (f l m).map g) hierarchy :=
  List.map_filterMap

theorem map_modifiers {α : Type} (g : Located × ModifierDefinition → α) :
    (modifiers (members hierarchy)).map g =
      declared (fun l m => (modifier? m).map fun d => g (l, d)) hierarchy := by
  rw [modifiers_eq, map_declared]
  simp only [Option.map_map, Function.comp_def]

end Kinds

theorem shapedCallables_eq_ok_iff {hierarchy : List Located} {cs : List ShapedCallable} :
    shapedCallables (members hierarchy) = .ok cs ↔
      (∀ l m c, (l, m) ∈ members hierarchy → callable? m = some c →
        ∃ f, c.shape (modifierNames (members hierarchy)) l.contract.name = .ok f) ∧
      cs = declared (shaped? (modifierNames (members hierarchy))) hierarchy := by
  rw [shapedCallables, mapM_eq_ok_iff_filterMap, declaredCallables]
  refine and_congr ⟨fun h l m c hm hc => ?_, fun h a ha => ?_⟩
    (iff_of_eq (congrArg (cs = ·) ?_))
  · obtain ⟨s, hs⟩ := h (l, c) (List.mem_filterMap.2 ⟨(l, m), hm, by simp [hc]⟩)
    cases hshape : c.shape (modifierNames (members hierarchy)) l.contract.name with
    | error failure => simp [hshape, bind, Except.bind] at hs
    | ok f => exact ⟨f, rfl⟩
  · obtain ⟨⟨l, m⟩, hm, hlm⟩ := List.mem_filterMap.1 ha
    obtain ⟨c, hc, rfl⟩ := Option.map_eq_some_iff.1 hlm
    obtain ⟨f, hf⟩ := h l m c hm hc
    exact ⟨⟨c, f⟩, by simp [hf, bind, Except.bind, pure, Except.pure]⟩
  · rw [List.filterMap_filterMap]
    refine filterMap_members fun l m => ?_
    rw [Option.bind_map, shaped?]
    refine congrArg _ (funext fun c => ?_)
    cases hshape : c.shape (modifierNames (members hierarchy)) l.contract.name <;>
      simp [hshape, bind, Except.bind, pure, Except.pure, Except.toOption]

/-! ## Declarations that can be told apart -/

/-- A number belongs to one declaration, and no contract declares one identity twice. -/
structure DistinctDeclarations (hierarchy : List Located) : Prop extends
    DistinctNumbers (members hierarchy) where
  modifierNumbers : ∀ m ∈ modifiers (members hierarchy), ∀ m' ∈ modifiers (members hierarchy),
    m.2.id = m'.2.id → m.2 = m'.2
  variableNumbers : ∀ v ∈ stateVariables (members hierarchy),
    ∀ v' ∈ stateVariables (members hierarchy), v.id = v'.id → v = v'
  selectors : ∀ l ∈ hierarchy,
    (l.contract.members.filterMap callable?).Pairwise fun a b => a.selector ≠ b.selector
  eventNames : ∀ l ∈ hierarchy,
    (l.contract.members.filterMap event?).Pairwise fun a b => a.name ≠ b.name
  modifierNames : ∀ l ∈ hierarchy,
    (l.contract.members.filterMap modifier?).Pairwise fun a b => a.name ≠ b.name

/-! ## The parts of a flat contract -/

section Parts

variable {hierarchy hierarchy' : List Located} {cs cs' : List ShapedCallable}

theorem modifierNames_eq (h : List.Forall₂ ReorderedLocated hierarchy hierarchy')
    (hd : DistinctDeclarations hierarchy) :
    modifierNames (members hierarchy) = modifierNames (members hierarchy') := by
  refine OrderedMap.ofList_eq_of_perm ?_ ?_
  · rw [map_modifiers, map_modifiers]
    exact declared_perm h fun _ _ _ => rfl
  · intro a ha b hb hab
    obtain ⟨m, hm, rfl⟩ := List.mem_map.1 ha
    obtain ⟨m', hm', rfl⟩ := List.mem_map.1 hb
    have hmm' : m.2 = m'.2 := hd.modifierNumbers m hm m' hm' hab
    simp only [hmm']

theorem shapedCallables_of_reordered (h : List.Forall₂ ReorderedLocated hierarchy hierarchy')
    (hd : DistinctDeclarations hierarchy) (hcs : shapedCallables (members hierarchy) = .ok cs) :
    ∃ cs', shapedCallables (members hierarchy') = .ok cs' := by
  refine ⟨_, shapedCallables_eq_ok_iff.2 ⟨fun l' m c hm hc => ?_, rfl⟩⟩
  obtain ⟨l, hlm, hl⟩ := exists_member_of_reordered h hm
  rw [← modifierNames_eq h hd, hl.contract.name]
  exact (shapedCallables_eq_ok_iff.1 hcs).1 l m c hlm hc

theorem shaped?_eq {names : OrderedMap NodeId String} {l l' : Located}
    (h : ReorderedLocated l l') : shaped? names l' = shaped? names l := by
  funext m
  rw [shaped?, shaped?, h.contract.name]

theorem shaped?_eq_some {names : OrderedMap NodeId String} {l : Located} {m : ContractMember}
    {s : ShapedCallable} (h : shaped? names l m = some s) :
    ∃ c, callable? m = some c ∧ IsShapeOf names (l, c) s := by
  obtain ⟨c, hc, hs⟩ := Option.bind_eq_some_iff.1 h
  obtain ⟨f, hf, rfl⟩ := Option.map_eq_some_iff.1 hs
  refine ⟨c, hc, rfl, ?_⟩
  cases hshape : c.shape names l.contract.name with
  | error failure => simp [hshape, Except.toOption] at hf
  | ok g => simpa [hshape, Except.toOption] using hf

theorem pairwise_shaped {names : OrderedMap NodeId String} {l : Located}
    (h : (l.contract.members.filterMap callable?).Pairwise fun a b => a.selector ≠ b.selector) :
    (l.contract.members.filterMap (shaped? names l)).Pairwise fun a b =>
      a.shape.selector ≠ b.shape.selector := by
  rw [List.pairwise_filterMap] at h ⊢
  refine h.imp fun {m m'} hmm' s hs s' hs' heq => ?_
  obtain ⟨c, hc, hshape⟩ := shaped?_eq_some hs
  obtain ⟨c', hc', hshape'⟩ := shaped?_eq_some hs'
  exact hmm' c hc c' hc' (hshape.selector_eq.symm.trans (heq.trans hshape'.selector_eq))

variable (h : List.Forall₂ ReorderedLocated hierarchy hierarchy')
include h

theorem stateVariables_perm :
    (stateVariables (members hierarchy)).Perm (stateVariables (members hierarchy')) := by
  rw [stateVariables_eq, stateVariables_eq]
  exact declared_perm h fun _ _ _ => rfl

theorem events_perm : (events (members hierarchy)).Perm (events (members hierarchy')) := by
  rw [events_eq, events_eq]
  exact declared_perm h fun _ _ _ => rfl

variable (hd : DistinctDeclarations hierarchy)
include hd

theorem visibleEvents_perm {κ : Type} [DecidableEq κ] {key : EventShape → κ}
    (hkey : ∀ e e' : EventShape, key e = key e' → e.name = e'.name) :
    (firstBy key ((events (members hierarchy)).map eventShape)).Perm
      (firstBy key ((events (members hierarchy')).map eventShape)) := by
  rw [events_eq, events_eq, map_declared, map_declared]
  refine firstBy_declared_perm h (fun _ _ _ => rfl) fun l hl => ?_
  rw [← List.map_filterMap, List.pairwise_map]
  exact (hd.eventNames l hl).imp fun hname heq => hname (hkey _ _ heq)

theorem visibleModifiers_perm (libraryPrefixes : List String) :
    (firstBy (·.name) ((modifiers (members hierarchy)).map fun m =>
        modifierShape libraryPrefixes m.1 m.2)).Perm
      (firstBy (·.name) ((modifiers (members hierarchy')).map fun m =>
        modifierShape libraryPrefixes m.1 m.2)) := by
  rw [map_modifiers, map_modifiers]
  refine firstBy_declared_perm h (fun l l' hl => ?_) fun l hl => ?_
  · funext m
    simp only [modifierShape, hl.path, hl.contract.name]
  · rw [← List.map_filterMap, List.pairwise_map]
    exact hd.modifierNames l hl

variable (hcs : shapedCallables (members hierarchy) = .ok cs)
  (hcs' : shapedCallables (members hierarchy') = .ok cs')
include hcs hcs'

theorem callables_perm : cs.Perm cs' := by
  rw [(shapedCallables_eq_ok_iff.1 hcs).2, (shapedCallables_eq_ok_iff.1 hcs').2,
    ← modifierNames_eq h hd]
  exact declared_perm h fun _ _ => shaped?_eq

theorem visible_perm :
    (firstBy (·.shape.selector) cs).Perm (firstBy (·.shape.selector) cs') := by
  rw [(shapedCallables_eq_ok_iff.1 hcs).2, (shapedCallables_eq_ok_iff.1 hcs').2,
    ← modifierNames_eq h hd]
  exact firstBy_declared_perm h (fun _ _ => shaped?_eq) fun l hl =>
    pairwise_shaped (hd.selectors l hl)

theorem scope_agree :
    (scope (members hierarchy) cs).Agree (scope (members hierarchy') cs') where
  stateVar? := by
    have hnumbers : (scope (members hierarchy) cs).stateVariables =
        (scope (members hierarchy') cs').stateVariables :=
      OrderedMap.ofList_map_eq_of_perm (stateVariables_perm h) fun v hv v' hv' hid =>
        congrArg _ (hd.variableNumbers v hv v' hv' hid)
    have hnames : (scope (members hierarchy) cs).stateVariableNames =
        (scope (members hierarchy') cs').stateVariableNames :=
      OrderedSet.ofList_eq_of_perm ((stateVariables_perm h).map _)
    intro name declaration
    cases declaration with
    | none => simp only [Scope.stateVar?, hnames]
    | some id => simp only [Scope.stateVar?, hnumbers]
  callees := by
    have hnumbers : (scope (members hierarchy) cs).functions =
        (scope (members hierarchy') cs').functions := by
      rw [scope_functions, scope_functions]
      refine OrderedMap.ofList_map_eq_of_perm ((callables_perm h hd hcs hcs').filterMap _) ?_
      rintro ⟨d, callee⟩ ha ⟨d', callee'⟩ hb hid
      obtain ⟨l, m, hl, hm, rfl⟩ := exists_of_mem_function? hcs ha
      obtain ⟨l', m', hl', hm', rfl⟩ := exists_of_mem_function? hcs hb
      obtain rfl := hd.functions l l' d d' hl hl' hid
      rw [Option.some.inj (hm.symm.trans hm')]
    intro name declaration
    cases declaration with
    | none =>
      -- of one name there may be several functions, in whatever order
      rw [Scope.callees, Scope.callees, scope, scope, OrderedMap.find?_ofGroups,
        OrderedMap.find?_ofGroups]
      exact ((((visible_perm h hd hcs hcs').filterMap _).map _).filter _).map _
    | some id => simp only [Scope.callees, hnumbers, List.Perm.refl]
  event? := by
    have hnumbers : (scope (members hierarchy) cs).events =
        (scope (members hierarchy') cs').events :=
      OrderedMap.ofList_map_eq_of_perm (events_perm h) fun e he e' he' hid =>
        congrArg _ (hd.events e he e' he' hid)
    have hnames : (scope (members hierarchy) cs).eventsNamed =
        (scope (members hierarchy') cs').eventsNamed :=
      OrderedMap.ofList_map_eq_of_perm (visibleEvents_perm h hd fun _ _ => id)
        fun e he e' he' => List.inj_on_of_nodup_map (List.pairwise_map.2 (pairwise_firstBy _ _)) he he'
    intro name declaration
    rw [Scope.event?, Scope.event?, hnumbers, hnames]

theorem facts_eq :
    OrderedMap.ofList ((firstBy (·.shape.selector) cs).map fun s =>
        (s.shape.selector, s.facts (scope (members hierarchy) cs))) =
      .ofList ((firstBy (·.shape.selector) cs').map fun s =>
        (s.shape.selector, s.facts (scope (members hierarchy') cs'))) := by
  have hfacts : ∀ s : ShapedCallable, s.facts (scope (members hierarchy') cs') =
      s.facts (scope (members hierarchy) cs) := by
    intro s
    unfold ShapedCallable.facts
    split
    · exact (bodyFacts_eq (scope_agree h hd hcs hcs') _).symm
    · rfl
  simp only [hfacts]
  exact OrderedMap.ofList_map_eq_of_perm (visible_perm h hd hcs hcs') fun s hs s' hs' hkey =>
    congrArg _ (List.inj_on_of_nodup_map (List.pairwise_map.2 (pairwise_firstBy _ _)) hs hs' hkey)

end Parts

theorem warnings_eq {c c' : ContractDefinition} (hc : ReorderedContract c c')
    {functions functions' : List FunctionShape} {modifiers modifiers' : List ModifierShape}
    (hfunctions : functions.Perm functions') (hmodifiers : modifiers.Perm modifiers')
    (missing : List NodeId) :
    warnings c' missing functions' modifiers' = warnings c missing functions modifiers := by
  have hempty : functions' = [] ↔ functions = [] := by
    rw [← List.perm_nil, ← List.perm_nil]
    exact ⟨hfunctions.trans, hfunctions.symm.trans⟩
  unfold warnings
  simp only [hc.kind, hc.name, hempty, ← hmodifiers.any_eq]
  refine congrArg _ (OrderedSet.ofList_eq_of_perm ?_)
  refine List.Perm.append_right _ (List.Perm.append_right _ (List.Perm.append_left _ ?_))
  exact hfunctions.symm.flatMap_right _

/-! ## The contract -/

theorem Flattening.eq_of_reordered {units units' : List SourceUnit} {name sourcePath : String}
    {libraryPrefixes : List String} {t t' : Located} {hierarchy hierarchy' : List Located}
    {cs cs' : List ShapedCallable} {c c' : FlatContract}
    (hc : Flattening units name sourcePath libraryPrefixes t hierarchy cs c)
    (hc' : Flattening units' name sourcePath libraryPrefixes t' hierarchy' cs' c')
    (ht : ReorderedLocated t t') (h : List.Forall₂ ReorderedLocated hierarchy hierarchy')
    (hmissing : missingBases units' t'.contract = missingBases units t.contract)
    (hd : DistinctDeclarations hierarchy) : c' = c := by
  have hvisible := (visible_perm h hd hc.callables hc'.callables).map (·.shape)
  have hmodifiers := visibleModifiers_perm h hd libraryPrefixes
  obtain ⟨hname, hkind, hpath⟩ := hc.contract
  obtain ⟨hname', hkind', hpath'⟩ := hc'.contract
  refine FlatContract.ext ?name ?kind ?path ?functions ?events ?modifiers ?facts ?warnings
  case name => rw [hname, hname', ht.contract.name]
  case kind => rw [hkind, hkind', ht.contract.kind]
  case path => rw [hpath, hpath', ht.path]
  case functions =>
    rw [hc.functions, hc'.functions]
    exact (sortedBy_eq_of_perm hvisible (pairwise_visible cs)).symm
  case events =>
    rw [hc.events, hc'.events]
    exact (sortedBy_eq_of_perm (visibleEvents_perm h hd fun _ _ heq => (Selector.mk.inj heq).1)
      (pairwise_firstBy _ _)).symm
  case modifiers =>
    rw [hc.modifiers, hc'.modifiers]
    exact (sortedBy_eq_of_perm hmodifiers (pairwise_firstBy _ _)).symm
  case facts => rw [hc.facts, hc'.facts, facts_eq h hd hc.callables hc'.callables]
  case warnings =>
    rw [hc.warnings, hc'.warnings, hmissing, warnings_eq ht.contract hvisible hmodifiers]

/-- The order in which contracts declare their members does not show, neither in the contract that
rules are checked against nor in a checklist. -/
theorem flatten_of_reordered {units units' : List SourceUnit} {name sourcePath : String}
    {libraryPrefixes : List String} {t : Located} {c : FlatContract}
    (h : List.Forall₂ ReorderedUnit units units')
    (hc : flatten units name sourcePath libraryPrefixes = .ok c)
    (ht : target units name sourcePath = .ok t)
    (hd : DistinctDeclarations (ancestry units t.contract)) :
    flatten units' name sourcePath libraryPrefixes = .ok c ∧
      ∀ rs : RuleSet, (flatten units' name sourcePath libraryPrefixes).map rs.run =
        .ok (rs.run c) := by
  obtain ⟨_, hierarchy, cs, hflat⟩ := exists_flattening hc
  obtain rfl := Except.ok.inj (ht.symm.trans hflat.target)
  obtain ⟨t', ht', htt'⟩ := target_of_reordered h ht
  have hhierarchy := ancestry_reordered h htt'.contract
  obtain rfl := hflat.ancestry
  obtain ⟨cs', hcs'⟩ := shapedCallables_of_reordered hhierarchy hd hflat.callables
  obtain ⟨c', hc'⟩ := exists_flatten_of_callables ht' hcs' libraryPrefixes
  obtain ⟨_, hierarchy', _, hflat'⟩ := exists_flattening hc'
  obtain rfl := Except.ok.inj (ht'.symm.trans hflat'.target)
  obtain rfl := hflat'.ancestry
  obtain rfl : c' = c :=
    hflat.eq_of_reordered hflat' htt' hhierarchy (missingBases_eq h htt'.contract) hd
  exact ⟨hc', fun rs => by rw [hc', Except.map]⟩

/-! ## The small token backwards -/

namespace Sample

def reversed (c : ContractDefinition) : ContractDefinition :=
  { c with members := c.members.reverse }

def reversedUnits : List SourceUnit :=
  [⟨"lib/Base.sol", [.contract (reversed base)]⟩, ⟨"Token.sol", [.contract (reversed token)]⟩]

theorem reordered_reversed (c : ContractDefinition) : ReorderedContract c (reversed c) where
  id := rfl
  name := rfl
  kind := rfl
  isAbstract := rfl
  linearizedBases := rfl
  members := (List.reverse_perm c.members).symm

theorem reorderedUnits : List.Forall₂ ReorderedUnit units reversedUnits :=
  .cons ⟨rfl, .cons (.contract (reordered_reversed base)) .nil⟩
    (.cons ⟨rfl, .cons (.contract (reordered_reversed token)) .nil⟩ .nil)

theorem distinctDeclarations : DistinctDeclarations hierarchy where
  toDistinctNumbers := distinctNumbers
  modifierNumbers := by
    have hmodifiers : modifiers (members hierarchy) =
        [(⟨base, "lib/Base.sol"⟩, ⟨3, "guarded"⟩)] := rfl
    intro m hm m' hm' _
    rw [hmodifiers, List.mem_singleton] at hm hm'
    rw [hm, hm']
  variableNumbers := by
    have hvariables : stateVariables (members hierarchy) = [supply] := rfl
    intro v hv v' hv' _
    rw [hvariables, List.mem_singleton] at hv hv'
    rw [hv, hv']
  selectors := by
    simp only [hierarchy, List.forall_mem_cons]
    decide
  eventNames := by
    simp only [hierarchy, List.forall_mem_cons]
    decide
  modifierNames := by
    simp only [hierarchy, List.forall_mem_cons]
    decide

theorem flatten_reversedUnits :
    ∃ c, flatten units "Token" "Token.sol" ["lib/"] = .ok c ∧
      flatten reversedUnits "Token" "Token.sol" ["lib/"] = .ok c := by
  obtain ⟨c, hc⟩ := flatten_units
  exact ⟨c, hc,
    (flatten_of_reordered reorderedUnits hc target_units distinctDeclarations).1⟩

end Sample

end TokenConformance.Hierarchy
