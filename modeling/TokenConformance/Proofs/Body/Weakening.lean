import TokenConformance.Body.Facts
import TokenConformance.Proofs.Body.Reference

/-! # References that say less

What is known of a body can only grow with what its names refer to.

* `Guard.Within`, `BodyFacts.Within`: less is known of one body than of another.
* `Finding`, `found`: what reads, writes and calls there are in an expression.
* `NameWithin`: a name says no more with one reference than with another.
* `found_refer`, `terminates_refer`, `guards_refer`, `emissions_refer`, `calls_refer`: what follows
  for expressions and for each part of what is known of a body.
* `bodyFacts_within`: a body whose names say no more is known to do no more.
-/

namespace TokenConformance

/-! ## Knowing less -/

/-- A guard reads no more than another and gates no write that the other does not gate. -/
structure Guard.Within (g g' : Guard) : Prop where
  reads : ∀ name ∈ g.reads, name ∈ g'.reads
  gatesWrite : g.gatesWrite = true → g'.gatesWrite = true

theorem Guard.Within.antisymm {g g' : Guard} (h : g.Within g') (h' : g'.Within g) : g = g' := by
  obtain ⟨reads, gatesWrite⟩ := g
  obtain ⟨reads', gatesWrite'⟩ := g'
  obtain rfl : reads = reads' := OrderedSet.ext fun name => ⟨h.reads name, h'.reads name⟩
  obtain rfl : gatesWrite = gatesWrite' := Bool.eq_iff_iff.2 ⟨h.gatesWrite, h'.gatesWrite⟩
  rfl

/-- The guards, the events and the calls that are known of one body are known of another. Guard for
guard, the other one may read more and gate a write where this one gates none. -/
structure BodyFacts.Within (facts facts' : BodyFacts) : Prop where
  guards : List.Forall₂ Guard.Within facts.guards facts'.guards
  emissions : facts.emissions = facts'.emissions
  calls : ∀ k ∈ facts.calls, k ∈ facts'.calls

theorem BodyFacts.Within.antisymm {facts facts' : BodyFacts} (h : facts.Within facts')
    (h' : facts'.Within facts) : facts = facts' := by
  obtain ⟨guards, emissions, calls⟩ := facts
  obtain ⟨guards', emissions', calls'⟩ := facts'
  obtain rfl : guards = guards' := by
    have hflip : List.Forall₂ (flip Guard.Within) guards guards' := .flip h'.guards
    rw [← List.forall₂_eq_eq_eq]
    exact .mp (fun _ _ hg hg' => hg.antisymm hg') h.guards hflip
  obtain rfl : emissions = emissions' := h.emissions
  obtain rfl : calls = calls' := OrderedSet.ext fun k => ⟨h.calls k, h'.calls k⟩
  rfl

namespace Body

open Solidity

theorem append_subset_append {α : Type} {a a' b b' : List α} (ha : a ⊆ a') (hb : b ⊆ b') :
    a ++ b ⊆ a' ++ b' :=
  List.append_subset.2 ⟨List.subset_append_of_subset_left _ ha,
    List.subset_append_of_subset_right _ hb⟩

/-! ## What there is in an expression -/

/-- Something that an expression does. -/
inductive Finding where
  | read (name : String)
  | write
  | call (k : Selector)

/-- What one expression does, apart from what is inside it. -/
def findings (scope : Scope) (e : Expression) : List Finding :=
  ((readOf scope e).map .read).toList ++ (if writes scope e then [.write] else []) ++
    (callsOf scope e).map .call

/-- What an expression does together with what is inside it. -/
def found (scope : Scope) (e : Expression) : List Finding := e.nodes.flatMap (findings scope)

variable {scope : Scope}

theorem found_eq (e : Expression) :
    found scope e = findings scope e ++ e.parts.flatMap (found scope) := by
  rw [found, Expression.nodes_eq, List.flatMap_cons, List.flatMap_assoc]
  rfl

@[simp] theorem read_mem_findings {e : Expression} {name : String} :
    .read name ∈ findings scope e ↔ readOf scope e = some name := by
  unfold findings
  split <;> simp

@[simp] theorem write_mem_findings {e : Expression} :
    .write ∈ findings scope e ↔ writes scope e = true := by
  simp [findings]

@[simp] theorem call_mem_findings {e : Expression} {k : Selector} :
    .call k ∈ findings scope e ↔ k ∈ callsOf scope e := by
  unfold findings
  split <;> simp

theorem findings_subset {a b : Expression}
    (hread : ∀ name, readOf scope a = some name → readOf scope b = some name)
    (hwrite : writes scope a = true → writes scope b = true)
    (hcall : callsOf scope a ⊆ callsOf scope b) : findings scope a ⊆ findings scope b := by
  rintro (name | _ | k) h
  · exact read_mem_findings.2 (hread name (read_mem_findings.1 h))
  · exact write_mem_findings.2 (hwrite (write_mem_findings.1 h))
  · exact call_mem_findings.2 (hcall (call_mem_findings.1 h))

theorem mem_reads_iff_found {condition : Expression} {name : String} :
    name ∈ reads scope condition ↔ .read name ∈ found scope condition := by
  simp [reads, found]

/-! ## References -/

/-- The names that are looked at by their text where they stand by themselves. -/
def textual : List String := ["require", "assert", "revert", "super", "this"]

/-- A name says no more with one reference than with another. -/
structure NameWithin (scope : Scope) (name : String) (r r' : Reference) : Prop where
  found : found scope (r.to name) ⊆ found scope (r'.to name)
  rooted : isStateRooted scope (r.to name) = true → isStateRooted scope (r'.to name) = true
  callees : callees scope (r.to name) ⊆ callees scope (r'.to name)
  callWrites : callWrites scope (r.to name) = true → callWrites scope (r'.to name) = true
  event : scope.event? name r.declaration = scope.event? name r'.declaration
  textual : name ∈ textual → r.contract = none ∧ r'.contract = none

/-- No name of a tree says more with the first references than with the second ones. -/
def NamesWithin (scope : Scope) (f g : References) : Prop :=
  ∀ place name declaration,
    NameWithin scope name (f place name declaration) (g place name declaration)

theorem NamesWithin.below {f g : References} (h : NamesWithin scope f g) (i : Nat) :
    NamesWithin scope (f.below i) (g.below i) :=
  fun place => h (i :: place)

/-! ## Expressions -/

section Expression

open Expression (refer referOption referList referComponents)

-- On the way down to a part the places become shorter, and with them the references change. So they
-- are not fixed in these recursions.

mutual

theorem isStateRooted_refer {f g : References} (h : NamesWithin scope f g) :
    ∀ e, isStateRooted scope (refer f e) = true → isStateRooted scope (refer g e) = true
  | .identifier name declaration => (h [] name declaration).rooted
  | .index base _ => by
    rw [refer, refer, isStateRooted, isStateRooted]
    exact isStateRooted_refer (h.below 0) base
  | .member object _ _ => by
    rw [refer, refer, isStateRooted, isStateRooted]
    exact isStateRooted_refer (h.below 0) object
  | .tuple components => by
    rw [refer, refer, isStateRooted, isStateRooted]
    exact anyStateRooted_refer h components
  | .call _ _ | .withOptions _ | .binary _ _ | .unary _ _ | .assign _ _ | .conditional _ _ _
  | .other => by
    simp only [refer, isStateRooted, imp_self]

theorem anyStateRooted_refer {f g : References} (h : NamesWithin scope f g) {n : Nat} :
    ∀ components, anyStateRooted scope (referComponents f n components) = true →
      anyStateRooted scope (referComponents g n components) = true
  | [] => id
  | none :: rest => by
    simp only [referComponents, referOption, anyStateRooted]
    exact anyStateRooted_refer h rest
  | some e :: rest => by
    simp only [referComponents, referOption, anyStateRooted, Bool.or_eq_true]
    exact Or.imp (isStateRooted_refer (h.below n) e) (anyStateRooted_refer h rest)

end

/-- Of a member of a name, only the names `super` and `this` can be looked at, and these stand by
themselves. -/
theorem callees_member_to (r : Reference) (object name : String) (declaration : Option NodeId)
    (hobject : object ∈ textual → r.contract = none) :
    callees scope (.member (r.to object) name declaration) =
      if object = "super" ∨ object = "this" then scope.callees name declaration else [] := by
  obtain ⟨contract, own⟩ := r
  cases contract with
  | none => rfl
  | some contract =>
    rw [if_neg fun h => absurd (hobject (by rcases h with rfl | rfl <;> decide)) nofun]
    rfl

theorem callees_refer {f g : References} (h : NamesWithin scope f g) :
    ∀ e, callees scope (refer f e) ⊆ callees scope (refer g e)
  | .identifier name declaration => (h [] name declaration).callees
  | .member (.identifier object declaration) name _ => by
    have hobject := (h [0] object declaration).textual
    simp only [refer]
    rw [References.below, References.below,
      callees_member_to _ _ _ _ fun htext => (hobject htext).1,
      callees_member_to _ _ _ _ fun htext => (hobject htext).2]
    exact List.Subset.refl _
  | .withOptions e => by
    rw [refer, refer, callees, callees]
    exact callees_refer (h.below 0) e
  | .member (.member _ _ _) _ _ | .member (.index _ _) _ _ | .member (.call _ _) _ _
  | .member (.withOptions _) _ _ | .member (.binary _ _) _ _ | .member (.unary _ _) _ _
  | .member (.assign _ _) _ _ | .member (.conditional _ _ _) _ _ | .member (.tuple _) _ _
  | .member .other _ _ | .index _ _ | .call _ _ | .binary _ _ | .unary _ _ | .assign _ _
  | .conditional _ _ _ | .tuple _ | .other => by
    simp only [refer, callees, List.Subset.refl]

theorem any_callees_refer {f g : References} (h : NamesWithin scope f g) (e : Expression)
    (p : Callee → Bool) (hany : (callees scope (refer f e)).any p = true) :
    (callees scope (refer g e)).any p = true := by
  obtain ⟨c, hc, hp⟩ := List.any_eq_true.1 hany
  exact List.any_eq_true.2 ⟨c, callees_refer h e hc, hp⟩

theorem callWrites_refer {f g : References} (h : NamesWithin scope f g) (callee : Expression)
    (hwrite : callWrites scope (refer f callee) = true) :
    callWrites scope (refer g callee) = true := by
  cases callee with
  | identifier name declaration => exact (h [] name declaration).callWrites hwrite
  | member object name declaration =>
    simp only [refer, callWrites] at hwrite ⊢
    split at hwrite
    case isTrue hname =>
      rw [if_pos hname]
      exact isStateRooted_refer (h.below 0) object hwrite
    case isFalse hname =>
      rw [if_neg hname]
      exact any_callees_refer h (.member object name declaration) _ hwrite
  | _ => exact any_callees_refer h _ _ hwrite

/-- A call is read by the name that it calls, in whatever way the name is written. -/
theorem readOf_call_to (r : Reference) (name : String) (arguments : List Expression) :
    readOf scope (.call (r.to name) arguments) = some name := by
  obtain ⟨contract, declaration⟩ := r
  cases contract <;> rfl

/-- An expression other than a name does no more by itself. -/
theorem findings_refer {f g : References} (h : NamesWithin scope f g) {e : Expression}
    (he : ∀ name declaration, e ≠ .identifier name declaration) :
    findings scope (refer f e) ⊆ findings scope (refer g e) := by
  cases e with
  | identifier name declaration => exact absurd rfl (he name declaration)
  | call callee arguments =>
    refine findings_subset (fun name => ?_) (callWrites_refer (h.below 0) callee)
      (List.map_subset _ (callees_refer (h.below 0) callee))
    cases callee with
    | identifier called declaration =>
      simp only [refer, readOf_call_to]
      exact id
    | _ => exact id
  | assign target value =>
    exact findings_subset nofun (isStateRooted_refer (h.below 0) target) (List.Subset.refl _)
  | unary operator operand =>
    refine findings_subset nofun ?_ (List.Subset.refl _)
    simp only [refer, writes, Bool.and_eq_true]
    exact And.imp_right (isStateRooted_refer (h.below 0) operand)
  | _ => exact List.Subset.refl _

theorem found_refer_of_parts {f g : References} (h : NamesWithin scope f g) {e : Expression}
    (he : ∀ name declaration, e ≠ .identifier name declaration)
    (hparts : (refer f e).parts.flatMap (found scope) ⊆ (refer g e).parts.flatMap (found scope)) :
    found scope (refer f e) ⊆ found scope (refer g e) := by
  rw [found_eq (refer f e), found_eq (refer g e)]
  exact append_subset_append (findings_refer h he) hparts

mutual

/-- An expression does no more together with what is inside it. -/
theorem found_refer {f g : References} (h : NamesWithin scope f g) :
    ∀ e, found scope (refer f e) ⊆ found scope (refer g e)
  | .identifier name declaration => (h [] name declaration).found
  | .member object _ _ =>
    found_refer_of_parts h nofun <| by
      simpa [refer, Expression.parts] using found_refer (h.below 0) object
  | .index base subscript =>
    found_refer_of_parts h nofun <| by
      simpa [refer, Expression.parts] using append_subset_append (found_refer (h.below 0) base)
        (foundOption_refer (h.below 1) subscript)
  | .call callee arguments =>
    found_refer_of_parts h nofun <|
      append_subset_append (found_refer (h.below 0) callee) (foundList_refer h arguments)
  | .withOptions callee =>
    found_refer_of_parts h nofun <| by
      simpa [refer, Expression.parts] using found_refer (h.below 0) callee
  | .binary left right =>
    found_refer_of_parts h nofun <| by
      simpa [refer, Expression.parts] using
        append_subset_append (found_refer (h.below 0) left) (found_refer (h.below 1) right)
  | .unary _ operand =>
    found_refer_of_parts h nofun <| by
      simpa [refer, Expression.parts] using found_refer (h.below 0) operand
  | .assign target value =>
    found_refer_of_parts h nofun <| by
      simpa [refer, Expression.parts] using
        append_subset_append (found_refer (h.below 0) target) (found_refer (h.below 1) value)
  | .conditional condition whenTrue whenFalse =>
    found_refer_of_parts h nofun <| by
      simpa [refer, Expression.parts] using
        append_subset_append (found_refer (h.below 0) condition) (append_subset_append
          (found_refer (h.below 1) whenTrue) (found_refer (h.below 2) whenFalse))
  | .tuple components => found_refer_of_parts h nofun (foundComponents_refer h components)
  | .other => List.Subset.refl _

theorem foundOption_refer {f g : References} (h : NamesWithin scope f g) :
    ∀ e, (referOption f e).toList.flatMap (found scope) ⊆
      (referOption g e).toList.flatMap (found scope)
  | none => List.Subset.refl _
  | some e => by simpa [referOption] using found_refer h e

theorem foundList_refer {f g : References} (h : NamesWithin scope f g) {n : Nat} :
    ∀ es, (referList f n es).flatMap (found scope) ⊆ (referList g n es).flatMap (found scope)
  | [] => List.Subset.refl _
  | e :: rest => append_subset_append (found_refer (h.below n) e) (foundList_refer h rest)

theorem foundComponents_refer {f g : References} (h : NamesWithin scope f g) {n : Nat} :
    ∀ es, ((referComponents f n es).filterMap id).flatMap (found scope) ⊆
      ((referComponents g n es).filterMap id).flatMap (found scope)
  | [] => List.Subset.refl _
  | none :: rest => foundComponents_refer h rest
  | some e :: rest =>
    append_subset_append (found_refer (h.below n) e) (foundComponents_refer h rest)

end

/-! ### Calls by name -/

@[simp] theorem assertedCondition?_to (r : Reference) (name : String) :
    assertedCondition? (r.to name) = none := by
  obtain ⟨_ | _, declaration⟩ := r <;> rfl

@[simp] theorem isRevertCall_to (r : Reference) (name : String) :
    isRevertCall (r.to name) = false := by
  obtain ⟨_ | _, declaration⟩ := r <;> rfl

@[simp] theorem emissionOf?_to (r : Reference) (name : String) :
    emissionOf? scope (r.to name) = none := by
  obtain ⟨_ | _, declaration⟩ := r <;> rfl

@[simp] theorem arguments_to (r : Reference) (name : String) : (r.to name).arguments = [] := by
  obtain ⟨_ | _, declaration⟩ := r <;> rfl

theorem assertedCondition?_call_to (r : Reference) (name : String) (arguments : List Expression)
    (hname : name ∈ textual → r.contract = none) :
    assertedCondition? (.call (r.to name) arguments) =
      if name = "require" ∨ name = "assert" then arguments.head? else none := by
  obtain ⟨contract, declaration⟩ := r
  cases contract with
  | none => rfl
  | some contract =>
    rw [if_neg fun h => absurd (hname (by rcases h with rfl | rfl <;> decide)) nofun]
    rfl

theorem isRevertCall_call_to (r : Reference) (name : String) (arguments : List Expression)
    (hname : name ∈ textual → r.contract = none) :
    isRevertCall (.call (r.to name) arguments) = (name = "revert" : Bool) := by
  obtain ⟨contract, declaration⟩ := r
  cases contract with
  | none => rfl
  | some contract =>
    rw [decide_eq_false fun h => absurd (hname (by subst h; decide)) nofun]
    rfl

theorem emissionOf?_call_to (r : Reference) (name : String) (arguments : List Expression) :
    emissionOf? scope (.call (r.to name) arguments) =
      some ⟨name, (scope.event? name r.declaration).map EventShape.types⟩ := by
  obtain ⟨_ | _, declaration⟩ := r <;> rfl

theorem assertedCondition?_refer {f g : References} (h : NamesWithin scope f g) (e : Expression) :
    Option.Rel (fun c c' => found scope c ⊆ found scope c') (assertedCondition? (refer f e))
      (assertedCondition? (refer g e)) := by
  cases e with
  | identifier name declaration => simp [refer]
  | call callee arguments =>
    cases callee with
    | identifier name declaration =>
      have hname := (h [0] name declaration).textual
      simp only [refer]
      rw [References.below, References.below,
        assertedCondition?_call_to _ _ _ fun htext => (hname htext).1,
        assertedCondition?_call_to _ _ _ fun htext => (hname htext).2]
      split
      · cases arguments with
        | nil => exact .none
        | cons condition rest => exact .some (found_refer (h.below 1) condition)
      · exact .none
    | _ => exact .none
  | _ => exact .none

theorem isRevertCall_refer {f g : References} (h : NamesWithin scope f g) (e : Expression) :
    isRevertCall (refer f e) = isRevertCall (refer g e) := by
  cases e with
  | identifier name declaration => simp [refer]
  | call callee arguments =>
    cases callee with
    | identifier name declaration =>
      have hname := (h [0] name declaration).textual
      simp only [refer]
      rw [References.below, References.below,
        isRevertCall_call_to _ _ _ fun htext => (hname htext).1,
        isRevertCall_call_to _ _ _ fun htext => (hname htext).2]
    | _ => rfl
  | _ => rfl

theorem emissionOf?_refer {f g : References} (h : NamesWithin scope f g) (e : Expression) :
    emissionOf? scope (refer f e) = emissionOf? scope (refer g e) := by
  cases e with
  | identifier name declaration => simp [refer]
  | call callee arguments =>
    cases callee with
    | identifier name declaration =>
      simp only [refer]
      rw [References.below, References.below, emissionOf?_call_to, emissionOf?_call_to,
        (h [0] name declaration).event]
    | _ => rfl
  | _ => rfl

theorem arguments_refer {f g : References} (h : NamesWithin scope f g) (e : Expression) :
    (refer f e).arguments.flatMap (found scope) ⊆ (refer g e).arguments.flatMap (found scope) := by
  cases e with
  | identifier name declaration => simp [refer]
  | call callee arguments => exact foundList_refer h arguments
  | _ => exact List.Subset.refl _

end Expression

/-! ## Statements -/

section Statement

open Expression (referOption)
open Statement (refer referMissing referList)

mutual

theorem terminates_refer {f g : References} (h : NamesWithin scope f g) :
    ∀ s, terminates (refer f s) = terminates (refer g s)
  | .expression e => by
    rw [refer, refer, terminates, terminates, isRevertCall_refer (h.below 0)]
  | .block statements => by
    rw [refer, refer, terminates, terminates, lastTerminates_refer h]
  | .unchecked statements => by
    rw [refer, refer, terminates, terminates, lastTerminates_refer h]
  | .branch _ whenTrue whenFalse => by
    rw [refer, refer, terminates, terminates, terminates_refer (h.below 1) whenTrue,
      someTerminates_refer (h.below 2) whenFalse]
  | .declaration _ | .ret _ | .emit _ | .revert _ | .forLoop _ _ _ _ | .whileLoop _ _
  | .doWhileLoop _ _ | .other => rfl

theorem lastTerminates_refer {f g : References} (h : NamesWithin scope f g) {n : Nat} :
    ∀ ss, lastTerminates (referList f n ss) = lastTerminates (referList g n ss)
  | [] => rfl
  | [s] => terminates_refer (h.below n) s
  | _ :: s :: rest => lastTerminates_refer h (s :: rest)

theorem someTerminates_refer {f g : References} (h : NamesWithin scope f g) :
    ∀ s, someTerminates (referMissing f s) = someTerminates (referMissing g s)
  | none => rfl
  | some s => terminates_refer h s

end

/-! ### What is gathered from statements -/

/-- Something is gathered from each statement alone, and a relation holds between what is gathered
before and after names are written in another way. -/
structure Gathers (scope : Scope) {β : Type} (own : Statement → List β)
    (R : List β → List β → Prop) : Prop where
  nil : R [] []
  append : ∀ {a a' b b'}, R a a' → R b b' → R (a ++ b) (a' ++ b')
  own : ∀ {f g : References}, NamesWithin scope f g → ∀ s, R (own (refer f s)) (own (refer g s))

section Gathers

variable {β : Type} {own : Statement → List β} {R : List β → List β → Prop}

theorem Gathers.of_parts (H : Gathers scope own R) {f g : References} (h : NamesWithin scope f g)
    {s : Statement} (hparts : R (((refer f s).parts.flatMap Statement.nodes).flatMap own)
      (((refer g s).parts.flatMap Statement.nodes).flatMap own)) :
    R ((refer f s).nodes.flatMap own) ((refer g s).nodes.flatMap own) := by
  rw [Statement.nodes_eq, Statement.nodes_eq (refer g s), List.flatMap_cons, List.flatMap_cons]
  exact H.append (H.own h s) hparts

mutual

theorem Gathers.nodes (H : Gathers scope own R) {f g : References} (h : NamesWithin scope f g) :
    ∀ s, R ((refer f s).nodes.flatMap own) ((refer g s).nodes.flatMap own)
  | .block statements => H.of_parts h (H.list h statements)
  | .unchecked statements => H.of_parts h (H.list h statements)
  | .branch _ whenTrue whenFalse =>
    H.of_parts h <| by
      simpa [refer, Statement.parts] using
        H.append (H.nodes (h.below 1) whenTrue) (H.missing (h.below 2) whenFalse)
  | .forLoop initial _ step body =>
    H.of_parts h <| by
      simpa [refer, Statement.parts] using H.append (H.missing (h.below 0) initial)
        (H.append (H.missing (h.below 2) step) (H.nodes (h.below 3) body))
  | .whileLoop _ body =>
    H.of_parts h <| by
      simpa [refer, Statement.parts] using H.nodes (h.below 1) body
  | .doWhileLoop _ body =>
    H.of_parts h <| by
      simpa [refer, Statement.parts] using H.nodes (h.below 1) body
  | .expression _ | .declaration _ | .ret _ | .emit _ | .revert _ | .other =>
    H.of_parts h H.nil

theorem Gathers.missing (H : Gathers scope own R) {f g : References} (h : NamesWithin scope f g) :
    ∀ s, R (((referMissing f s).toList.flatMap Statement.nodes).flatMap own)
      (((referMissing g s).toList.flatMap Statement.nodes).flatMap own)
  | none => H.nil
  | some s => by simpa [referMissing] using H.nodes h s

theorem Gathers.list (H : Gathers scope own R) {f g : References} (h : NamesWithin scope f g)
    {n : Nat} : ∀ ss, R (((referList f n ss).flatMap Statement.nodes).flatMap own)
      (((referList g n ss).flatMap Statement.nodes).flatMap own)
  | [] => H.nil
  | s :: rest => by
    simpa [referList] using H.append (H.nodes (h.below n) s) (H.list h rest)

end

end Gathers

/-! ### Writes -/

theorem gathers_found :
    Gathers scope (fun s => s.roots.flatMap (found scope)) fun own own' => own ⊆ own' where
  nil := List.Subset.refl _
  append := append_subset_append
  own := by
    intro f g h s
    cases s with
    | expression e => simpa [refer, Statement.roots] using found_refer (h.below 0) e
    | branch condition _ _ => simpa [refer, Statement.roots] using found_refer (h.below 0) condition
    | whileLoop condition _ =>
      simpa [refer, Statement.roots] using found_refer (h.below 0) condition
    | doWhileLoop condition _ =>
      simpa [refer, Statement.roots] using found_refer (h.below 0) condition
    | forLoop _ condition _ _ => exact foundOption_refer (h.below 1) condition
    | declaration initial => exact foundOption_refer (h.below 0) initial
    | ret value => exact foundOption_refer (h.below 0) value
    | emit event => exact arguments_refer (h.below 0) event
    | revert error => exact arguments_refer (h.below 0) error
    | block _ | unchecked _ | other => exact List.Subset.refl _

theorem statementWrites_iff_found {s : Statement} :
    statementWrites scope s = true ↔
      .write ∈ s.nodes.flatMap fun t => t.roots.flatMap (found scope) := by
  simp only [statementWrites, Statement.expressions, found, List.any_eq_true, List.mem_flatMap,
    write_mem_findings]
  grind

theorem statementWrites_refer {f g : References} (h : NamesWithin scope f g) {s : Statement}
    (hwrite : statementWrites scope (refer f s) = true) :
    statementWrites scope (refer g s) = true :=
  statementWrites_iff_found.2 (gathers_found.nodes h s (statementWrites_iff_found.1 hwrite))

theorem optionWrites_refer {f g : References} (h : NamesWithin scope f g) :
    ∀ {s : Option Statement}, optionWrites scope (referMissing f s) = true →
      optionWrites scope (referMissing g s) = true
  | none => id
  | some _ => statementWrites_refer h

theorem any_statementWrites_refer {f g : References} (h : NamesWithin scope f g) {n : Nat} :
    ∀ {ss : List Statement}, (referList f n ss).any (statementWrites scope) = true →
      (referList g n ss).any (statementWrites scope) = true
  | [] => id
  | s :: rest => by
    simp only [referList, List.any_cons, Bool.or_eq_true]
    exact Or.imp (statementWrites_refer (h.below n)) (any_statementWrites_refer h)

/-! ### Guards, events and calls -/

theorem guard_within {condition condition' : Expression} {gates gates' : Bool}
    (hreads : found scope condition ⊆ found scope condition')
    (hgates : gates = true → gates' = true) :
    Guard.Within ⟨reads scope condition, gates⟩ ⟨reads scope condition', gates'⟩ :=
  ⟨fun _ hname => mem_reads_iff_found.2 (hreads (mem_reads_iff_found.1 hname)), hgates⟩

mutual

theorem guards_refer {f g : References} (h : NamesWithin scope f g) {n : Nat} :
    ∀ ss, List.Forall₂ Guard.Within (guards scope (referList f n ss))
      (guards scope (referList g n ss))
  | [] => .nil
  | s :: rest => by
    rw [referList, referList, guards, guards]
    exact List.rel_append
      (guardsOf_refer (h.below n) (any_statementWrites_refer h) s) (guards_refer h rest)

theorem guardsOf_refer {f g : References} (h : NamesWithin scope f g) {later later' : Bool}
    (hlater : later = true → later' = true) :
    ∀ s, List.Forall₂ Guard.Within (guardsOf scope later (refer f s))
      (guardsOf scope later' (refer g s))
  | .branch condition whenTrue whenFalse => by
    rw [refer, refer, guardsOf, guardsOf]
    refine .cons (guard_within (found_refer (h.below 0) condition) ?_)
      (List.rel_append (guardsOf_refer (h.below 1) id whenTrue)
        (guardsOfOption_refer (h.below 2) whenFalse))
    simp only [Bool.or_eq_true, Bool.and_eq_true, terminates_refer (h.below 1) whenTrue]
    exact Or.imp (Or.imp (statementWrites_refer (h.below 1)) (optionWrites_refer (h.below 2)))
      (And.imp_right hlater)
  | .expression e => by
    rw [refer, refer, guardsOf, guardsOf]
    have hcondition := assertedCondition?_refer (h.below 0) e
    generalize assertedCondition? (Expression.refer (f.below 0) e) = c at hcondition ⊢
    generalize assertedCondition? (Expression.refer (g.below 0) e) = c' at hcondition ⊢
    cases hcondition with
    | none => exact .nil
    | some hreads => exact .cons (guard_within hreads hlater) .nil
  | .forLoop _ condition _ body => by
    rw [refer, refer, guardsOf, guardsOf]
    refine List.rel_append ?_ (guardsOf_refer (h.below 3) id body)
    cases condition with
    | none => exact .nil
    | some condition =>
      exact .cons (guard_within (found_refer (h.below 1) condition)
        (statementWrites_refer (h.below 3))) .nil
  | .whileLoop condition body =>
    .cons (guard_within (found_refer (h.below 0) condition) (statementWrites_refer (h.below 1)))
      (guardsOf_refer (h.below 1) id body)
  | .doWhileLoop condition body =>
    .cons (guard_within (found_refer (h.below 0) condition) (statementWrites_refer (h.below 1)))
      (guardsOf_refer (h.below 1) id body)
  | .block statements => guards_refer h statements
  | .unchecked statements => guards_refer h statements
  | .declaration _ | .ret _ | .emit _ | .revert _ | .other => .nil

theorem guardsOfOption_refer {f g : References} (h : NamesWithin scope f g) :
    ∀ s, List.Forall₂ Guard.Within (guardsOfOption scope (referMissing f s))
      (guardsOfOption scope (referMissing g s))
  | none => .nil
  | some s => guardsOf_refer h id s

end

theorem gathers_emission : Gathers scope (fun s => (emission? scope s).toList) Eq where
  nil := rfl
  append := congrArg₂ _
  own := by
    intro f g h s
    cases s with
    | emit event => exact congrArg _ (emissionOf?_refer (h.below 0) event)
    | _ => rfl

theorem emissions_refer {f g : References} (h : NamesWithin scope f g) (body : List Statement) :
    emissions scope (referBody f body) = emissions scope (referBody g body) := by
  simpa only [emissions, referBody, List.filterMap_eq_flatMap_toList] using
    gathers_emission.list h body

theorem mem_calls_iff_found {body : List Statement} {k : Selector} :
    k ∈ calls scope body ↔
      .call k ∈ (body.flatMap Statement.nodes).flatMap fun t => t.roots.flatMap (found scope) := by
  simp only [calls, Statement.expressions, found, OrderedSet.mem_ofList, List.mem_flatMap,
    call_mem_findings]
  grind

theorem calls_refer {f g : References} (h : NamesWithin scope f g) {body : List Statement}
    {k : Selector} (hk : k ∈ calls scope (referBody f body)) :
    k ∈ calls scope (referBody g body) :=
  mem_calls_iff_found.2 (gathers_found.list h body (mem_calls_iff_found.1 hk))

end Statement

/-- A body whose names say no more is known to do no more. -/
theorem bodyFacts_within {f g : References} (h : NamesWithin scope f g) (body : List Statement) :
    (bodyFacts scope (some (referBody f body))).Within
      (bodyFacts scope (some (referBody g body))) :=
  ⟨guards_refer h body, emissions_refer h body, fun _ => calls_refer h⟩

end Body

end TokenConformance
