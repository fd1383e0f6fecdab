import Mathlib.Data.List.Forall2
import TokenConformance.Proofs.Body.Recording
import TokenConformance.Proofs.Body.Site

/-! # Exchanging one statement

When one statement of a body is exchanged for another, what is known of the body changes by what is
known of that statement, and by what the statements around it hear of it: whether it changes the
state and whether control goes past it.

* `Statement.Exchanged`, `InBlock`: one statement at any depth, or the list of one block, is
  exchanged.
* `Site.Kept`, `Grows`: a list of statements is known to do all that another one does.
* `Grows.append`, `Grows.of_parts`, `grows_of_partExchanged`: what follows for what stands around.
* `grows_of_exchanged`: exchanging a statement for one that does more makes the body do more.
* `Grows.sites_body`, `Grows.emissions_body`, `Grows.calls_body`: what that means for a body.
-/

namespace TokenConformance.Solidity

namespace Statement

/-- A statement directly inside another one is exchanged. -/
inductive PartExchanged (s s' : Statement) : Statement → Statement → Prop where
  | block (before after) :
      PartExchanged s s' (.block (before ++ s :: after)) (.block (before ++ s' :: after))
  | unchecked (before after) :
      PartExchanged s s' (.unchecked (before ++ s :: after)) (.unchecked (before ++ s' :: after))
  | whenTrue (condition whenFalse) :
      PartExchanged s s' (.branch condition s whenFalse) (.branch condition s' whenFalse)
  | whenFalse (condition whenTrue) :
      PartExchanged s s' (.branch condition whenTrue (some s))
        (.branch condition whenTrue (some s'))
  | initial (condition step body) :
      PartExchanged s s' (.forLoop (some s) condition step body)
        (.forLoop (some s') condition step body)
  | step (initial condition body) :
      PartExchanged s s' (.forLoop initial condition (some s) body)
        (.forLoop initial condition (some s') body)
  | forLoop (initial condition step) :
      PartExchanged s s' (.forLoop initial condition step s) (.forLoop initial condition step s')
  | whileLoop (condition) : PartExchanged s s' (.whileLoop condition s) (.whileLoop condition s')
  | doWhileLoop (condition) :
      PartExchanged s s' (.doWhileLoop condition s) (.doWhileLoop condition s')

/-- One statement at any depth is exchanged for another in a certain way. -/
inductive Exchanged (R : Statement → Statement → Prop) : Statement → Statement → Prop where
  | here {s s'} (h : R s s') : Exchanged R s s'
  | inside {s s' t t'} (h : Exchanged R s s') (hpart : PartExchanged s s' t t') : Exchanged R t t'

variable {s s' t t' : Statement}

theorem PartExchanged.symm (h : PartExchanged s s' t t') : PartExchanged s' s t' t := by
  cases h <;> constructor

theorem Exchanged.symm {R : Statement → Statement → Prop} (h : Exchanged R t t') :
    Exchanged (flip R) t' t := by
  induction h with
  | here h => exact .here h
  | inside _ hpart ih => exact .inside ih hpart.symm

/-- Around a part that is exchanged everything stays where it is. -/
theorem PartExchanged.parts_eq (h : PartExchanged s s' t t') : ∃ before after,
    t.parts = before ++ [s] ++ after ∧ t'.parts = before ++ [s'] ++ after := by
  cases h with
  | block before after | unchecked before after => exact ⟨before, after, by simp [parts]⟩
  | whenTrue _ whenFalse => exact ⟨[], whenFalse.toList, rfl, rfl⟩
  | whenFalse _ whenTrue => exact ⟨[whenTrue], [], rfl, rfl⟩
  | initial _ step body => exact ⟨[], step.toList ++ [body], by simp [parts]⟩
  | step initial _ body => exact ⟨initial.toList, [body], by simp [parts]⟩
  | forLoop initial _ step => exact ⟨initial.toList ++ step.toList, [], by simp [parts]⟩
  | whileLoop | doWhileLoop => exact ⟨[], [], rfl, rfl⟩

theorem PartExchanged.roots_eq (h : PartExchanged s s' t t') : t'.roots = t.roots := by
  cases h <;> rfl

theorem expressions_eq (s : Statement) :
    s.expressions = s.roots.flatMap Expression.nodes ++ s.parts.flatMap expressions := by
  rw [expressions, nodes_eq, List.flatMap_cons, List.flatMap_assoc]
  rfl

end Statement

/-- The list of a block, checked or not, is exchanged for another one. -/
inductive InBlock (L : List Statement → List Statement → Prop) : Statement → Statement → Prop where
  | block {ss ss'} (h : L ss ss') : InBlock L (.block ss) (.block ss')
  | unchecked {ss ss'} (h : L ss ss') : InBlock L (.unchecked ss) (.unchecked ss')

end TokenConformance.Solidity

namespace TokenConformance.Body

open Solidity

/-! ## One statement and its parts -/

section Parts

variable {scope : Scope}

theorem statementWrites_eq_parts (s : Statement) :
    statementWrites scope s =
      ((s.roots.flatMap Expression.nodes).any (writes scope) ||
        s.parts.any (statementWrites scope)) := by
  rw [statementWrites, Statement.expressions_eq, List.any_append, List.any_flatMap (l := s.parts)]
  rfl

theorem emissions_append (ss tt : List Statement) :
    emissions scope (ss ++ tt) = emissions scope ss ++ emissions scope tt := by
  rw [emissions, List.flatMap_append, List.filterMap_append]
  rfl

theorem emissions_singleton (s : Statement) :
    emissions scope [s] = (emission? scope s).toList ++ emissions scope s.parts := by
  rw [emissions, List.flatMap_singleton, collect_emissions, emissions, List.filterMap_flatMap]

theorem mem_calls {ss : List Statement} {k : Selector} :
    k ∈ calls scope ss ↔ ∃ e ∈ ss.flatMap Statement.expressions, k ∈ callsOf scope e := by
  rw [calls, OrderedSet.mem_ofList, List.mem_flatMap]

theorem mem_calls_append {ss tt : List Statement} {k : Selector} :
    k ∈ calls scope (ss ++ tt) ↔ k ∈ calls scope ss ∨ k ∈ calls scope tt := by
  simp only [mem_calls, List.flatMap_append, List.mem_append, or_and_right, exists_or]

theorem mem_calls_singleton {s : Statement} {k : Selector} :
    k ∈ calls scope [s] ↔
      (∃ e ∈ s.roots.flatMap Expression.nodes, k ∈ callsOf scope e) ∨ k ∈ calls scope s.parts := by
  simp only [mem_calls, List.flatMap_singleton, Statement.expressions_eq s, List.mem_append,
    or_and_right, exists_or]

/-- Of the statements of a list only those from the last one on decide whether it ends there. -/
theorem lastTerminates_append (before : List Statement) (s : Statement) (after : List Statement) :
    lastTerminates (before ++ s :: after) = lastTerminates (s :: after) := by
  induction before with
  | nil => rfl
  | cons b before ih =>
    cases before with
    | nil => rfl
    | cons c before => exact ih

end Parts

/-! ## Doing more -/

/-- A guard is still there: its condition is related to the old one, and it still gates a write if
it did. -/
structure Site.Kept (C : Expression → Expression → Prop) (x x' : Site) : Prop where
  condition : C x.condition x'.condition
  gatesWrite : x.gatesWrite = true → x'.gatesWrite = true

/-- A list of statements is known to do all that another one does. Its guards may stand between
more guards, and wherever something that is written later makes a guard of the first list gate a
write, it does so in the second one. -/
structure Grows (scope : Scope) (C : Expression → Expression → Prop)
    (ss ss' : List Statement) : Prop where
  sites : ∀ {later later' : Bool}, (later = true → later' = true) →
    List.SublistForall₂ (Site.Kept C) (sites scope later ss) (sites scope later' ss')
  writes : ss.any (statementWrites scope) = true → ss'.any (statementWrites scope) = true
  emissions : (emissions scope ss).Sublist (emissions scope ss')
  calls : ∀ k ∈ calls scope ss, k ∈ calls scope ss'

section Lists

variable {α β : Type} {R : α → β → Prop} {l₁ l₂ : List α} {l₁' l₂' : List β}

theorem sublistForall₂_append (h₁ : List.SublistForall₂ R l₁ l₁')
    (h₂ : List.SublistForall₂ R l₂ l₂') : List.SublistForall₂ R (l₁ ++ l₂) (l₁' ++ l₂') := by
  obtain ⟨m₁, hm₁, hsub₁⟩ := List.sublistForall₂_iff.1 h₁
  obtain ⟨m₂, hm₂, hsub₂⟩ := List.sublistForall₂_iff.1 h₂
  exact List.sublistForall₂_iff.2 ⟨m₁ ++ m₂, List.rel_append hm₁ hm₂, hsub₁.append hsub₂⟩

theorem sublistForall₂_of_forall₂ (h : List.Forall₂ R l₁ l₁') : List.SublistForall₂ R l₁ l₁' :=
  List.sublistForall₂_iff.2 ⟨l₁', h, .refl _⟩

theorem exists_of_mem_of_sublistForall₂ {a : α} (h : List.SublistForall₂ R l₁ l₁') (ha : a ∈ l₁) :
    ∃ b ∈ l₁', R a b := by
  induction h with
  | nil => exact absurd ha List.not_mem_nil
  | cons hab _ ih =>
    rcases List.mem_cons.1 ha with rfl | ha
    · exact ⟨_, List.mem_cons_self, hab⟩
    · obtain ⟨b, hb, hR⟩ := ih ha
      exact ⟨b, List.mem_cons_of_mem _ hb, hR⟩
  | cons_right _ ih =>
    obtain ⟨b, hb, hR⟩ := ih ha
    exact ⟨b, List.mem_cons_of_mem _ hb, hR⟩

/-- Lists of which each is found in the other one are related element by element. -/
theorem forall₂_of_sublistForall₂ {S : β → α → Prop} (h : List.SublistForall₂ R l₁ l₁')
    (h' : List.SublistForall₂ S l₁' l₁) :
    List.Forall₂ R l₁ l₁' ∧ List.Forall₂ S l₁' l₁ := by
  obtain ⟨m, hm, hsub⟩ := List.sublistForall₂_iff.1 h
  obtain ⟨m', hm', hsub'⟩ := List.sublistForall₂_iff.1 h'
  have hlength : m.length = l₁'.length ∧ m'.length = l₁.length := by
    have := hm.length_eq
    have := hm'.length_eq
    have := hsub.length_le
    have := hsub'.length_le
    omega
  obtain rfl := hsub.eq_of_length hlength.1
  obtain rfl := hsub'.eq_of_length hlength.2
  exact ⟨hm, hm'⟩

end Lists

section Grows

variable {scope : Scope} {C : Expression → Expression → Prop}

theorem forall₂_kept_refl (hC : ∀ e, C e e) (xs : List Site) : List.Forall₂ (Site.Kept C) xs xs :=
  List.forall₂_same.2 fun _ _ => ⟨hC _, id⟩

/-- Only a branch and an assertion look at what comes later. -/
theorem sitesOf_later (hC : ∀ e, C e e) {later later' : Bool} (h : later = true → later' = true)
    (s : Statement) :
    List.Forall₂ (Site.Kept C) (sitesOf scope later s) (sitesOf scope later' s) := by
  cases s with
  | branch condition whenTrue whenFalse =>
    rw [sitesOf, sitesOf]
    refine .cons ⟨hC condition, ?_⟩ (forall₂_kept_refl hC _)
    simp only [Bool.or_eq_true, Bool.and_eq_true]
    exact Or.imp_right (And.imp_right h)
  | expression e =>
    rw [sitesOf, sitesOf]
    cases assertedCondition? e with
    | none => exact .nil
    | some condition => exact .cons ⟨hC condition, h⟩ .nil
  | _ => simpa only [sitesOf] using forall₂_kept_refl hC _

theorem sites_later (hC : ∀ e, C e e) {later later' : Bool} (h : later = true → later' = true)
    (ss : List Statement) :
    List.Forall₂ (Site.Kept C) (sites scope later ss) (sites scope later' ss) := by
  induction ss with
  | nil => exact .nil
  | cons s rest ih =>
    rw [sites, sites]
    refine List.rel_append (sitesOf_later hC ?_ s) ih
    simp only [Bool.or_eq_true]
    exact Or.imp_right h

theorem Grows.refl (hC : ∀ e, C e e) (ss : List Statement) : Grows scope C ss ss :=
  ⟨fun h => sublistForall₂_of_forall₂ (sites_later hC h ss), id, .refl _, fun _ => id⟩

theorem Grows.nil (ss : List Statement) : Grows scope C [] ss :=
  ⟨fun _ => .nil, nofun, List.nil_sublist _, fun k hk => by
    obtain ⟨_, hmem, -⟩ := mem_calls.1 hk
    exact absurd hmem List.not_mem_nil⟩

theorem Grows.append {ss ss' tt tt' : List Statement} (h : Grows scope C ss ss')
    (h' : Grows scope C tt tt') : Grows scope C (ss ++ tt) (ss' ++ tt') where
  sites hlater := by
    rw [sites_append, sites_append]
    refine sublistForall₂_append (h.sites ?_) (h'.sites hlater)
    simp only [Bool.or_eq_true]
    exact Or.imp h'.writes hlater
  writes := by
    rw [List.any_append, List.any_append, Bool.or_eq_true, Bool.or_eq_true]
    exact Or.imp h.writes h'.writes
  emissions := by
    rw [emissions_append, emissions_append]
    exact h.emissions.append h'.emissions
  calls k := by
    rw [mem_calls_append, mem_calls_append]
    exact Or.imp (h.calls k) (h'.calls k)

/-- A statement that says the same by itself does more if its parts do. -/
theorem Grows.of_parts {t t' : Statement} (hroots : t'.roots = t.roots)
    (hemission : emission? scope t' = emission? scope t) (hparts : Grows scope C t.parts t'.parts)
    (hsites : ∀ {later later' : Bool}, (later = true → later' = true) →
      List.SublistForall₂ (Site.Kept C) (sitesOf scope later t) (sitesOf scope later' t')) :
    Grows scope C [t] [t'] where
  sites hlater := by
    rw [sites_singleton, sites_singleton]
    exact hsites hlater
  writes := by
    rw [List.any_cons, List.any_cons, statementWrites_eq_parts t, statementWrites_eq_parts t',
      hroots]
    simp only [List.any_nil, Bool.or_false, Bool.or_eq_true]
    exact Or.imp_right hparts.writes
  emissions := by
    rw [emissions_singleton, emissions_singleton, hemission]
    exact (List.Sublist.refl _).append hparts.emissions
  calls k := by
    rw [mem_calls_singleton, mem_calls_singleton, hroots]
    exact Or.imp_right (hparts.calls k)

theorem Grows.block {ss ss' : List Statement} (h : Grows scope C ss ss') :
    Grows scope C [.block ss] [.block ss'] :=
  .of_parts rfl rfl h fun _ => h.sites id

theorem Grows.unchecked {ss ss' : List Statement} (h : Grows scope C ss ss') :
    Grows scope C [.unchecked ss] [.unchecked ss'] :=
  .of_parts rfl rfl h fun _ => h.sites id

theorem grows_of_inBlock {L : List Statement → List Statement → Prop}
    (hL : ∀ {ss ss'}, L ss ss' → Grows scope C ss ss') {s s' : Statement} (h : InBlock L s s') :
    Grows scope C [s] [s'] := by
  cases h with
  | block h => exact (hL h).block
  | unchecked h => exact (hL h).unchecked

/-! ## What stands around -/

theorem Grows.statementWrites {s s' : Statement} (h : Grows scope C [s] [s'])
    (hwrite : statementWrites scope s = true) : statementWrites scope s' = true := by
  simpa using h.writes (by simpa using hwrite)

theorem Grows.sitesOf {s s' : Statement} (h : Grows scope C [s] [s']) :
    List.SublistForall₂ (Site.Kept C) (sitesOf scope false s) (sitesOf scope false s') := by
  simpa only [sites_singleton] using h.sites (@id (false = true))

open Statement (PartExchanged Exchanged)

section Around

variable {s s' t t' : Statement} (hC : ∀ e, C e e) (hpart : PartExchanged s s' t t')
  (hs : Grows scope C [s] [s']) (hends : terminates s' = terminates s)
include hpart hends

theorem terminates_of_partExchanged : terminates t' = terminates t := by
  cases hpart with
  | block before after | unchecked before after =>
    rw [terminates, terminates, lastTerminates_append, lastTerminates_append]
    cases after with
    | nil => exact hends
    | cons => rfl
  | whenTrue => rw [terminates, terminates, hends]
  | whenFalse => rw [terminates, terminates, someTerminates, someTerminates, hends]
  | _ => simp only [terminates]

include hC hs

/-- Around a statement that does more, the guards are still there. -/
theorem sitesOf_of_partExchanged {later later' : Bool} (hlater : later = true → later' = true) :
    List.SublistForall₂ (Site.Kept C) (sitesOf scope later t) (sitesOf scope later' t') := by
  have hrefl := fun xs => sublistForall₂_of_forall₂ (forall₂_kept_refl hC xs)
  have hlist : ∀ before after, Grows scope C (before ++ s :: after) (before ++ s' :: after) :=
    fun before after => (Grows.refl hC before).append (hs.append (.refl hC after))
  cases hpart with
  | block before after => exact (hlist before after).sites id
  | unchecked before after => exact (hlist before after).sites id
  -- what comes after a branch counts for its guard only if control never goes past `whenTrue`
  | whenTrue condition whenFalse =>
    rw [Body.sitesOf, Body.sitesOf, hends]
    refine .cons ⟨hC condition, ?_⟩ (sublistForall₂_append hs.sitesOf (hrefl _))
    simp only [Bool.or_eq_true, Bool.and_eq_true]
    exact Or.imp (Or.imp_left hs.statementWrites) (And.imp_right hlater)
  | whenFalse condition whenTrue =>
    rw [Body.sitesOf, Body.sitesOf]
    refine .cons ⟨hC condition, ?_⟩ (sublistForall₂_append (hrefl _) hs.sitesOf)
    simp only [Bool.or_eq_true, Bool.and_eq_true]
    exact Or.imp (Or.imp_right hs.statementWrites) (And.imp_right hlater)
  -- the guards of a `for` are those of its condition and its body
  | initial condition step body | step initial condition body =>
    rw [Body.sitesOf, Body.sitesOf]
    exact hrefl _
  | forLoop initial condition step =>
    rw [Body.sitesOf, Body.sitesOf]
    refine sublistForall₂_append ?_ hs.sitesOf
    cases condition with
    | none => exact .nil
    | some condition => exact .cons ⟨hC condition, hs.statementWrites⟩ .nil
  | whileLoop condition | doWhileLoop condition =>
    rw [Body.sitesOf, Body.sitesOf]
    exact .cons ⟨hC condition, hs.statementWrites⟩ hs.sitesOf

/-- A statement one part of which does more does more. -/
theorem grows_of_partExchanged : Grows scope C [t] [t'] := by
  refine .of_parts hpart.roots_eq ?_ ?_ fun hlater =>
    sitesOf_of_partExchanged hC hpart hs hends hlater
  · cases hpart <;> rfl
  · obtain ⟨before, after, hparts, hparts'⟩ := hpart.parts_eq
    rw [hparts, hparts']
    exact ((Grows.refl hC before).append hs).append (.refl hC after)

end Around

/-- If a statement is exchanged for one that does more, and control goes past the one exactly if it
goes past the other, then the same is true of everything around it. -/
theorem grows_of_exchanged {R : Statement → Statement → Prop} (hC : ∀ e, C e e)
    (hR : ∀ {s s'}, R s s' → Grows scope C [s] [s'] ∧ terminates s' = terminates s)
    {t t' : Statement} (h : Exchanged R t t') :
    Grows scope C [t] [t'] ∧ terminates t' = terminates t := by
  induction h with
  | here h => exact hR h
  | inside _ hpart ih =>
    exact ⟨grows_of_partExchanged hC hpart ih.1 ih.2, terminates_of_partExchanged hpart ih.2⟩

/-! ## What is known of a body -/

/-- The guards of a body, given as one block. -/
theorem Grows.sites_body {body body' : List Statement}
    (h : Grows scope C [.block body] [.block body']) :
    List.SublistForall₂ (Site.Kept C) (Body.sites scope false body)
      (Body.sites scope false body') := by
  simpa only [Body.sitesOf] using h.sitesOf

theorem Grows.emissions_body {body body' : List Statement}
    (h : Grows scope C [.block body] [.block body']) :
    (Body.emissions scope body).Sublist (Body.emissions scope body') := by
  have hblock := h.emissions
  rwa [emissions_singleton, emissions_singleton] at hblock

theorem Grows.calls_body {body body' : List Statement}
    (h : Grows scope C [.block body] [.block body']) {k : Selector}
    (hk : k ∈ Body.calls scope body) : k ∈ Body.calls scope body' := by
  have hblock := h.calls k
  simp only [mem_calls_singleton] at hblock
  simpa [Statement.roots, Statement.parts] using hblock (.inr hk)

end Grows

end TokenConformance.Body
