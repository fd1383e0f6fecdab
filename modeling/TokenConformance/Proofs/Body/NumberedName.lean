import TokenConformance.Proofs.Body.GuardSite
import TokenConformance.Proofs.Body.Weakening
import TokenConformance.Proofs.Standard.BalanceGuard

/-! # Names with numbers

Where every name of a body carries the number of its declaration, names by themselves should not
matter. They do not for variables and functions; an event whose number is unknown is looked up by
its name all the same.

* `Expression.Numbered`, `Statement.Numbered`: every name carries a number.
* `SameNumbers`, `Scope.byNumber`: two scopes with the same numbers, and a scope without names.
* `found_numbered`, `guards_numbered`, `calls_numbered`: what does not depend on names.
* `emission?_eq_iff`: when an event does not depend on names.
* `bodyFacts_numbered`: what is known of a body in two such scopes.
-/

namespace TokenConformance.Solidity

namespace Expression

/-- If an expression is a name, alone or as a member, it carries a number. -/
def HasNumber : Expression → Prop
  | .identifier _ declaration => declaration.isSome
  | .member _ _ declaration => declaration.isSome
  | _ => True

instance : DecidablePred HasNumber
  | .identifier _ declaration | .member _ _ declaration =>
    inferInstanceAs (Decidable declaration.isSome)
  | .index _ _ | .call _ _ | .withOptions _ | .binary _ _ | .unary _ _ | .assign _ _
  | .conditional _ _ _ | .tuple _ | .other => .isTrue trivial

/-- Every name in an expression carries a number. -/
def Numbered (e : Expression) : Prop := ∀ x, e.Inside x → x.HasNumber

theorem Numbered.inside {e x : Expression} (h : e.Numbered) (hx : e.Inside x) : x.Numbered :=
  fun y hy => h y (hx.trans hy)

theorem Numbered.part {e p : Expression} (h : e.Numbered) (hp : p ∈ e.parts) : p.Numbered :=
  h.inside (.single hp)

theorem Numbered.hasNumber {e : Expression} (h : e.Numbered) : e.HasNumber := h e .refl

end Expression

namespace Statement

/-- The expressions that are written in one statement, without those of statements inside it. The
event of an `emit` and the error of a `revert` are among them. -/
def written : Statement → List Expression
  | .emit event => [event]
  | .revert error => [error]
  | s => s.roots

/-- Every name in a statement carries a number. -/
def Numbered (s : Statement) : Prop := ∀ t, s.Inside t → ∀ e ∈ t.written, e.Numbered

/-- It is enough to look at what the walks reach. -/
theorem numbered_iff {s : Statement} :
    s.Numbered ↔ ∀ t ∈ s.nodes, ∀ e ∈ t.written, ∀ x ∈ e.nodes, x.HasNumber := by
  simp only [Numbered, Expression.Numbered, mem_nodes_iff, Expression.mem_nodes_iff]

theorem Numbered.inside {s t : Statement} (h : s.Numbered) (ht : s.Inside t) : t.Numbered :=
  fun u hu => h u (ht.trans hu)

theorem Numbered.part {s p : Statement} (h : s.Numbered) (hp : p ∈ s.parts) : p.Numbered :=
  h.inside (.single hp)

theorem Numbered.root {s : Statement} (h : s.Numbered) {e : Expression} (he : e ∈ s.roots) :
    e.Numbered := by
  have hwritten := h s .refl
  cases s with
  | emit event =>
    cases mem_roots_iff.1 he with
    | emit hargument =>
      exact (hwritten _ List.mem_cons_self).part (List.mem_cons_of_mem _ hargument)
  | revert error =>
    cases mem_roots_iff.1 he with
    | revert hargument =>
      exact (hwritten _ List.mem_cons_self).part (List.mem_cons_of_mem _ hargument)
  | _ => exact hwritten e he

end Statement

end TokenConformance.Solidity

namespace TokenConformance.Body

open Solidity

/-- Two scopes know the same declarations by their numbers. Their names may differ. -/
structure SameNumbers (s s' : Scope) : Prop where
  stateVariables : s.stateVariables = s'.stateVariables
  functions : s.functions = s'.functions
  events : s.events = s'.events

/-- The scope without its names. -/
def Scope.byNumber (s : Scope) : Scope :=
  { s with stateVariableNames := .empty, functionsNamed := .empty, eventsNamed := .empty }

theorem sameNumbers_byNumber (s : Scope) : SameNumbers s s.byNumber := ⟨rfl, rfl, rfl⟩

variable {s s' : Scope}

/-! ## Expressions -/

section Expression

variable (h : SameNumbers s s')
include h

theorem stateVar?_numbered {name : String} {declaration : Option NodeId}
    (hnumber : declaration.isSome) :
    s.stateVar? name declaration = s'.stateVar? name declaration := by
  obtain ⟨id, rfl⟩ := Option.isSome_iff_exists.1 hnumber
  rw [Scope.stateVar?, Scope.stateVar?, h.stateVariables]

theorem scopeCallees_numbered {name : String} {declaration : Option NodeId}
    (hnumber : declaration.isSome) : s.callees name declaration = s'.callees name declaration := by
  obtain ⟨id, rfl⟩ := Option.isSome_iff_exists.1 hnumber
  rw [Scope.callees, Scope.callees, h.functions]

theorem callees_numbered : ∀ e : Expression, e.Numbered → callees s e = callees s' e
  | .identifier name declaration, he => by
    rw [callees, callees, scopeCallees_numbered h he.hasNumber]
  | .member (.identifier object _) name declaration, he => by
    rw [callees, callees, scopeCallees_numbered h he.hasNumber]
  | .withOptions e, he => by
    rw [callees, callees, callees_numbered e (he.part List.mem_cons_self)]
  | .member (.member _ _ _) _ _, _ | .member (.index _ _) _ _, _ | .member (.call _ _) _ _, _
  | .member (.withOptions _) _ _, _ | .member (.binary _ _) _ _, _ | .member (.unary _ _) _ _, _
  | .member (.assign _ _) _ _, _ | .member (.conditional _ _ _) _ _, _ | .member (.tuple _) _ _, _
  | .member .other _ _, _ | .index _ _, _ | .call _ _, _ | .binary _ _, _ | .unary _ _, _
  | .assign _ _, _ | .conditional _ _ _, _ | .tuple _, _ | .other, _ => by
    simp only [callees]

end Expression

mutual

theorem isStateRooted_numbered (h : SameNumbers s s') :
    ∀ e : Expression, e.Numbered → isStateRooted s e = isStateRooted s' e
  | .identifier name declaration, he => by
    rw [isStateRooted, isStateRooted, stateVar?_numbered h he.hasNumber]
  | .index base _, he => by
    rw [isStateRooted, isStateRooted, isStateRooted_numbered h base (he.part List.mem_cons_self)]
  | .member object _ _, he => by
    rw [isStateRooted, isStateRooted, isStateRooted_numbered h object (he.part List.mem_cons_self)]
  | .tuple components, he => by
    rw [isStateRooted, isStateRooted]
    exact anyStateRooted_numbered h components fun e hmem =>
      he.part (List.mem_filterMap.2 ⟨some e, hmem, rfl⟩)
  | .call _ _, _ | .withOptions _, _ | .binary _ _, _ | .unary _ _, _ | .assign _ _, _
  | .conditional _ _ _, _ | .other, _ => by
    simp only [isStateRooted]

theorem anyStateRooted_numbered (h : SameNumbers s s') :
    ∀ components : List (Option Expression),
    (∀ e, some e ∈ components → e.Numbered) →
      anyStateRooted s components = anyStateRooted s' components
  | [], _ => rfl
  | none :: rest, hall => by
    rw [anyStateRooted, anyStateRooted]
    exact anyStateRooted_numbered h rest fun e hmem => hall e (List.mem_cons_of_mem _ hmem)
  | some e :: rest, hall => by
    rw [anyStateRooted, anyStateRooted, isStateRooted_numbered h e (hall e List.mem_cons_self),
      anyStateRooted_numbered h rest fun e hmem => hall e (List.mem_cons_of_mem _ hmem)]

end

section Expression

variable (h : SameNumbers s s') {e : Expression} (he : e.Numbered)
include h he

theorem callWrites_numbered : callWrites s e = callWrites s' e := by
  have hcallees := callees_numbered h e he
  cases e with
  | member object name declaration =>
    simp only [callWrites, hcallees, isStateRooted_numbered h object (he.part List.mem_cons_self)]
  | _ => simp only [callWrites, hcallees]

theorem readOf_numbered : readOf s e = readOf s' e := by
  cases e with
  | identifier name declaration => exact stateVar?_numbered h he.hasNumber
  | call callee arguments => cases callee <;> rfl
  | _ => rfl

theorem writes_numbered : writes s e = writes s' e := by
  cases e with
  | call callee arguments => exact callWrites_numbered h (he.part List.mem_cons_self)
  | assign target value => exact isStateRooted_numbered h target (he.part List.mem_cons_self)
  | unary operator operand =>
    rw [writes, writes, isStateRooted_numbered h operand (he.part List.mem_cons_self)]
  | _ => rfl

theorem callsOf_numbered : callsOf s e = callsOf s' e := by
  cases e with
  | call callee arguments =>
    rw [callsOf, callsOf, callees_numbered h callee (he.part List.mem_cons_self)]
  | _ => rfl

/-- What a numbered expression does is the same in both scopes. -/
theorem found_numbered : found s e = found s' e := by
  refine List.flatMap_congr fun x hx => ?_
  have hx : x.Numbered := he.inside (Expression.mem_nodes_iff.1 hx)
  rw [findings, findings, readOf_numbered h hx, writes_numbered h hx, callsOf_numbered h hx]

theorem reads_numbered : reads s e = reads s' e :=
  OrderedSet.ext fun name => by
    rw [mem_reads_iff_found, mem_reads_iff_found, found_numbered h he]

end Expression

/-! ## Statements -/

section Statement

variable (h : SameNumbers s s')
include h

theorem found_roots_numbered {ts : List Statement} (hts : ∀ t ∈ ts, t.Numbered) :
    (ts.flatMap fun t => t.roots.flatMap (found s)) =
      ts.flatMap fun t => t.roots.flatMap (found s') :=
  List.flatMap_congr fun t ht =>
    List.flatMap_congr fun _ he => found_numbered h ((hts t ht).root he)

theorem statementWrites_numbered {t : Statement} (ht : t.Numbered) :
    statementWrites s t = statementWrites s' t := by
  have hnodes : ∀ u ∈ t.nodes, u.Numbered := fun u hu => ht.inside (Statement.mem_nodes_iff.1 hu)
  rw [Bool.eq_iff_iff, statementWrites_iff_found, statementWrites_iff_found,
    found_roots_numbered h hnodes]

theorem any_statementWrites_numbered {ts : List Statement} (hts : ∀ t ∈ ts, t.Numbered) :
    ts.any (statementWrites s) = ts.any (statementWrites s') := by
  rw [Bool.eq_iff_iff, List.any_eq_true, List.any_eq_true]
  exact exists_congr fun t => and_congr_right fun ht => by
    rw [statementWrites_numbered h (hts t ht)]

theorem optionWrites_numbered {t : Option Statement} (ht : ∀ u ∈ t, u.Numbered) :
    optionWrites s t = optionWrites s' t := by
  cases t with
  | none => rfl
  | some t => exact statementWrites_numbered h (ht t rfl)

theorem calls_numbered {ts : List Statement} (hts : ∀ t ∈ ts, t.Numbered) :
    calls s ts = calls s' ts := by
  have hnodes : ∀ u ∈ ts.flatMap Statement.nodes, u.Numbered := by
    intro u hu
    obtain ⟨t, ht, hinside⟩ := mem_nodes_iff.1 hu
    exact (hts t ht).inside hinside
  refine OrderedSet.ext fun k => ?_
  rw [mem_calls_iff_found, mem_calls_iff_found, found_roots_numbered h hnodes]

end Statement

-- The guards are followed down the statements once more, since scopes that agree everywhere are not
-- at hand here: the two agree on names with numbers only.

/-- The condition of an assertion is one of its arguments. -/
theorem mem_parts_of_assertedCondition? {e condition : Expression}
    (h : assertedCondition? e = some condition) : condition ∈ e.parts := by
  cases assertedCondition?_eq_some_iff.1 h <;> exact List.mem_cons_of_mem _ List.mem_cons_self

mutual

theorem guards_numbered (h : SameNumbers s s') :
    ∀ ts : List Statement, (∀ t ∈ ts, t.Numbered) → guards s ts = guards s' ts
  | [], _ => rfl
  | t :: rest, hts => by
    have hrest : ∀ u ∈ rest, u.Numbered := fun u hu => hts u (List.mem_cons_of_mem _ hu)
    rw [guards, guards, any_statementWrites_numbered h hrest,
      guardsOf_numbered h _ t (hts t List.mem_cons_self), guards_numbered h rest hrest]

theorem guardsOf_numbered (h : SameNumbers s s') (later : Bool) :
    ∀ t : Statement, t.Numbered → guardsOf s later t = guardsOf s' later t
  | .branch condition whenTrue whenFalse, ht => by
    have hwhenTrue : whenTrue.Numbered := ht.part List.mem_cons_self
    have hwhenFalse : ∀ u ∈ whenFalse, u.Numbered := fun u hu =>
      ht.part (List.mem_cons_of_mem _ (Option.mem_toList.2 hu))
    rw [guardsOf, guardsOf, reads_numbered h (ht.root List.mem_cons_self),
      statementWrites_numbered h hwhenTrue, optionWrites_numbered h hwhenFalse,
      guardsOf_numbered h false whenTrue hwhenTrue, guardsOfOption_numbered h whenFalse hwhenFalse]
  | .expression e, ht => by
    rw [guardsOf, guardsOf]
    cases hcondition : assertedCondition? e with
    | none => rfl
    | some condition =>
      have he : e.Numbered := ht.root List.mem_cons_self
      simp only [reads_numbered h (he.part (mem_parts_of_assertedCondition? hcondition))]
  | .forLoop initial condition step body, ht => by
    have hbody : body.Numbered := ht.part (by simp [Statement.parts])
    rw [guardsOf, guardsOf, guardsOf_numbered h false body hbody]
    cases condition with
    | none => rfl
    | some condition =>
      rw [Option.map_some, Option.map_some, statementWrites_numbered h hbody,
        reads_numbered h (ht.root List.mem_cons_self)]
  | .whileLoop condition body, ht | .doWhileLoop condition body, ht => by
    rw [guardsOf, guardsOf, reads_numbered h (ht.root List.mem_cons_self),
      statementWrites_numbered h (ht.part List.mem_cons_self),
      guardsOf_numbered h false body (ht.part List.mem_cons_self)]
  | .block statements, ht => by
    rw [guardsOf, guardsOf, guards_numbered h statements fun _ hu => ht.part hu]
  | .unchecked statements, ht => by
    rw [guardsOf, guardsOf, guards_numbered h statements fun _ hu => ht.part hu]
  | .declaration _, _ | .ret _, _ | .emit _, _ | .revert _, _ | .other, _ => by
    simp only [guardsOf]

theorem guardsOfOption_numbered (h : SameNumbers s s') :
    ∀ t : Option Statement, (∀ u ∈ t, u.Numbered) → guardsOfOption s t = guardsOfOption s' t
  | none, _ => rfl
  | some t, ht => by
    rw [guardsOfOption, guardsOfOption, guardsOf_numbered h false t (ht t rfl)]

end

/-! ## Events -/

/-- An `emit` statement names an event with a number, alone or as a member. -/
inductive NamesEvent : Statement → String → NodeId → Prop where
  | name (event number arguments) :
      NamesEvent (.emit (.call (.identifier event (some number)) arguments)) event number
  | member (object event number arguments) :
      NamesEvent (.emit (.call (.member object event (some number)) arguments)) event number

/-- The types of the event with a name, if the name is known. -/
def typesNamed (s : Scope) (event : String) : Option (List String) :=
  (s.eventsNamed.find? event).map EventShape.types

/-- In whatever scope, it is the same statements that name an event, and they name the same one. -/
theorem map_event_emission? (s s' : Scope) (t : Statement) :
    (emission? s t).map Emission.event = (emission? s' t).map Emission.event := by
  unfold emission?
  split
  · unfold emissionOf?
    split <;> rfl
  · rfl

theorem NamesEvent.emission?_eq {t : Statement} {event : String} {number : NodeId}
    (ht : NamesEvent t event number) (s : Scope) :
    emission? s t = some ⟨event, (s.event? event (some number)).map EventShape.types⟩ := by
  cases ht <;> rfl

theorem namesEvent_or_emission?_eq_none {t : Statement} (ht : ∀ e ∈ t.written, e.Numbered) :
    (∃ event number, NamesEvent t event number) ∨ ∀ s, emission? s t = none := by
  cases t with
  | emit call =>
    have hcall : call.Numbered := ht call List.mem_cons_self
    cases call with
    | call callee arguments =>
      have hcallee : callee.HasNumber := (hcall.part List.mem_cons_self).hasNumber
      cases callee with
      | identifier event declaration =>
        obtain ⟨number, rfl⟩ := Option.isSome_iff_exists.1 hcallee
        exact .inl ⟨event, number, .name _ _ _⟩
      | member object event declaration =>
        obtain ⟨number, rfl⟩ := Option.isSome_iff_exists.1 hcallee
        exact .inl ⟨event, number, .member _ _ _ _⟩
      | _ => exact .inr fun _ => rfl
    | _ => exact .inr fun _ => rfl
  | _ => exact .inr fun _ => rfl

/-- An event with a number has the same types in both scopes exactly if its number is known or its
name has the same types. -/
theorem types_event?_eq_iff (h : SameNumbers s s') (event : String) (number : NodeId) :
    (s.event? event (some number)).map EventShape.types =
        (s'.event? event (some number)).map EventShape.types ↔
      (s.events.find? number = none → typesNamed s event = typesNamed s' event) := by
  rw [Scope.event?, Scope.event?, ← h.events, Option.bind_some]
  cases s.events.find? number with
  | none => simp [typesNamed]
  | some shape => simp

theorem emission?_eq_iff (h : SameNumbers s s') {t : Statement}
    (ht : ∀ e ∈ t.written, e.Numbered) :
    emission? s t = emission? s' t ↔ ∀ event number, NamesEvent t event number →
      s.events.find? number = none → typesNamed s event = typesNamed s' event := by
  have hof : ∀ {event number}, NamesEvent t event number → (emission? s t = emission? s' t ↔
      (s.events.find? number = none → typesNamed s event = typesNamed s' event)) := by
    intro event number hnames
    rw [hnames.emission?_eq, hnames.emission?_eq, Option.some_inj, Emission.mk.injEq,
      and_iff_right rfl, types_event?_eq_iff h]
  constructor
  · intro heq event number hnames
    exact (hof hnames).1 heq
  · intro htypes
    rcases namesEvent_or_emission?_eq_none ht with ⟨event, number, hnames⟩ | hnone
    · exact (hof hnames).2 (htypes event number hnames)
    · rw [hnone, hnone]

theorem filterMap_eq_iff {α β : Type} {f g : α → Option β} {l : List α}
    (hfg : ∀ a, (f a).isSome = (g a).isSome) :
    l.filterMap f = l.filterMap g ↔ ∀ a ∈ l, f a = g a := by
  induction l with
  | nil => simp
  | cons a l ih =>
    have ha := hfg a
    cases hf : f a <;> cases hg : g a <;> simp_all

theorem map_event_emissions (s s' : Scope) (body : List Statement) :
    (emissions s body).map Emission.event = (emissions s' body).map Emission.event := by
  rw [emissions, emissions, List.map_filterMap, List.map_filterMap]
  exact List.filterMap_congr fun t _ => map_event_emission? s s' t

theorem emissions_eq_iff (h : SameNumbers s s') {body : List Statement}
    (hbody : ∀ t ∈ body, t.Numbered) :
    emissions s body = emissions s' body ↔
      ∀ t event number, StatementOccurs body t → NamesEvent t event number →
        s.events.find? number = none → typesNamed s event = typesNamed s' event := by
  have hsome : ∀ t, (emission? s t).isSome = (emission? s' t).isSome := fun t => by
    rw [← Option.isSome_map, map_event_emission? s s' t, Option.isSome_map]
  rw [emissions, emissions, filterMap_eq_iff hsome]
  refine forall_congr' fun t => ⟨fun heq event number hoccurs => ?_, fun htypes ht => ?_⟩
  · obtain ⟨top, htop, hinside⟩ := hoccurs
    exact (emission?_eq_iff h (hbody top htop t hinside)).1
      (heq (mem_nodes_iff.2 ⟨top, htop, hinside⟩)) event number
  · obtain ⟨top, htop, hinside⟩ := mem_nodes_iff.1 ht
    exact (emission?_eq_iff h (hbody top htop t hinside)).2
      fun event number => htypes event number ⟨top, htop, hinside⟩

theorem bodyFacts_eq_iff_of_sameNumbers (h : SameNumbers s s') {body : List Statement}
    (hbody : ∀ t ∈ body, t.Numbered) :
    bodyFacts s (some body) = bodyFacts s' (some body) ↔
      ∀ t event number, StatementOccurs body t → NamesEvent t event number →
        s.events.find? number = none → typesNamed s event = typesNamed s' event := by
  rw [bodyFacts, bodyFacts, guards_numbered h body hbody, calls_numbered h hbody,
    BodyFacts.mk.injEq, and_iff_right rfl, and_iff_left rfl, emissions_eq_iff h hbody]

/-- Two scopes with the same numbers know the same of a body in which every name carries a number,
but for the types of events: the guards and the calls are the same, and so are the events, one by
one, by their names. The types are the same too exactly if no event of the body has an unknown
number and a name with other types; and they are those that the numbers alone give exactly if no
event has an unknown number and a known name. -/
theorem bodyFacts_numbered {s s' : Scope} (h : SameNumbers s s') {body : List Statement}
    (hbody : ∀ t ∈ body, t.Numbered) :
    (bodyFacts s (some body)).guards = (bodyFacts s' (some body)).guards ∧
      (bodyFacts s (some body)).calls = (bodyFacts s' (some body)).calls ∧
      (bodyFacts s (some body)).emissions.map Emission.event =
        (bodyFacts s' (some body)).emissions.map Emission.event ∧
      (bodyFacts s (some body) = bodyFacts s' (some body) ↔
        ∀ t event number, StatementOccurs body t → NamesEvent t event number →
          s.events.find? number = none → typesNamed s event = typesNamed s' event) ∧
      (bodyFacts s (some body) = bodyFacts s.byNumber (some body) ↔
        ∀ t event number, StatementOccurs body t → NamesEvent t event number →
          s.events.find? number = none → typesNamed s event = none) :=
  ⟨guards_numbered h body hbody, calls_numbered h hbody, map_event_emissions s s' body,
    bodyFacts_eq_iff_of_sameNumbers h hbody,
    bodyFacts_eq_iff_of_sameNumbers (sameNumbers_byNumber s) hbody⟩

/-! ### An event with an unknown number -/

open TokenConformance.Allowance

theorem emitApproval_numbered (number : NodeId) :
    ∀ t ∈ [emitApproval number], t.Numbered := by
  intro t ht
  obtain rfl := List.mem_singleton.1 ht
  simp [Statement.numbered_iff, emitApproval, owner, value, Statement.nodes, Statement.written,
    Expression.nodes, Expression.nodesOfList, Expression.HasNumber]

/-- The event of the hierarchy has its types from its number. -/
theorem facts_of_known_event :
    SameNumbers names names.byNumber ∧ (∀ t ∈ [emitApproval 5], t.Numbered) ∧
      bodyFacts names (some [emitApproval 5]) =
        bodyFacts names.byNumber (some [emitApproval 5]) := by
  have hbody := emitApproval_numbered 5
  obtain ⟨-, -, -, hiff, -⟩ := bodyFacts_numbered (sameNumbers_byNumber names) hbody
  refine ⟨sameNumbers_byNumber names, hbody, hiff.2 ?_⟩
  rintro t event number hoccurs hnames hunknown
  obtain rfl : t = emitApproval 5 := List.mem_singleton.1 (mem_nodes_iff.2 hoccurs)
  obtain _ | _ := hnames
  exact absurd hunknown (by decide)

/-- An event with a number that nothing in the hierarchy has is given the types of the event of the
hierarchy with the same name. -/
theorem facts_of_unknown_event :
    SameNumbers names names.byNumber ∧ (∀ t ∈ [emitApproval 9], t.Numbered) ∧
      bodyFacts names (some [emitApproval 9]) =
        ⟨[], [⟨"Approval", some ["address", "address", "uint256"]⟩], .ofList []⟩ ∧
      bodyFacts names.byNumber (some [emitApproval 9]) = ⟨[], [⟨"Approval", none⟩], .ofList []⟩ ∧
      bodyFacts names (some [emitApproval 9]) ≠ bodyFacts names.byNumber (some [emitApproval 9]) :=
  ⟨sameNumbers_byNumber names, emitApproval_numbered 9, by decide, by decide, by decide⟩

end TokenConformance.Body
