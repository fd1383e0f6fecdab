import TokenConformance.Proofs.Body.GuardSite
import TokenConformance.Proofs.Body.Rephrasing
import TokenConformance.Proofs.Body.Weakening
import TokenConformance.Proofs.Standard.BalanceGuard

/-! # Calls with options

A call may be given options, as in `f{gas: g}(x)`. Everything that is known of a body looks through
them, but for what a condition reads: a call with options is not read by the name of its callee.

* `Expression.Optioned`, `Statement.OwnOptioned`: one call in an expression, or in an expression of
  a statement, is given options.
* `TakesOptions`: the callees whose calls may be given options.
* `isStateRooted_optioned`, `callees_optioned`, `callWrites_optioned`: what looks at an expression
  makes the same of it.
* `mem_found_iff`: nothing is lost of what the expression does but that it reads the callee's name.
* `rephrased_optioned`: the statement says the same, but for a condition that the call stands in.
* `bodyFacts_optioned`: what becomes of what is known of a body.
-/

namespace TokenConformance.Solidity

namespace Expression

/-- An expression directly inside another one is exchanged. -/
inductive PartExchanged (e e' : Expression) : Expression → Expression → Prop where
  | object (name declaration) :
      PartExchanged e e' (.member e name declaration) (.member e' name declaration)
  | base (subscript) : PartExchanged e e' (.index e subscript) (.index e' subscript)
  | subscript (base) : PartExchanged e e' (.index base (some e)) (.index base (some e'))
  | callee (arguments) : PartExchanged e e' (.call e arguments) (.call e' arguments)
  | argument (callee before after) : PartExchanged e e' (.call callee (before ++ e :: after))
      (.call callee (before ++ e' :: after))
  | options : PartExchanged e e' (.withOptions e) (.withOptions e')
  | left (right) : PartExchanged e e' (.binary e right) (.binary e' right)
  | right (left) : PartExchanged e e' (.binary left e) (.binary left e')
  | operand (operator) : PartExchanged e e' (.unary operator e) (.unary operator e')
  | target (value) : PartExchanged e e' (.assign e value) (.assign e' value)
  | value (target) : PartExchanged e e' (.assign target e) (.assign target e')
  | condition (whenTrue whenFalse) : PartExchanged e e' (.conditional e whenTrue whenFalse)
      (.conditional e' whenTrue whenFalse)
  | whenTrue (condition whenFalse) : PartExchanged e e' (.conditional condition e whenFalse)
      (.conditional condition e' whenFalse)
  | whenFalse (condition whenTrue) : PartExchanged e e' (.conditional condition whenTrue e)
      (.conditional condition whenTrue e')
  | component (before after) : PartExchanged e e' (.tuple (before ++ some e :: after))
      (.tuple (before ++ some e' :: after))

/-- One call of a callee in an expression is given options. -/
inductive Optioned (callee : Expression) : Expression → Expression → Prop where
  | here (arguments) :
      Optioned callee (.call callee arguments) (.call (.withOptions callee) arguments)
  | inside {p p' e e'} (h : Optioned callee p p') (hpart : PartExchanged p p' e e') :
      Optioned callee e e'

/-- Around a part that is exchanged everything stays where it is. -/
theorem PartExchanged.parts_eq {p p' e e' : Expression} (h : PartExchanged p p' e e') :
    ∃ before after, e.parts = before ++ p :: after ∧ e'.parts = before ++ p' :: after := by
  cases h with
  | object | base | callee | options | left | operand | target | condition =>
    exact ⟨[], _, rfl, rfl⟩
  | subscript | right | value | whenTrue => exact ⟨[_], _, rfl, rfl⟩
  | whenFalse => exact ⟨[_, _], _, rfl, rfl⟩
  | argument callee before after => exact ⟨callee :: before, after, rfl, rfl⟩
  | component before after =>
    exact ⟨before.filterMap id, after.filterMap id, by simp [parts], by simp [parts]⟩

/-- A name by itself has no call in it. -/
theorem Optioned.ne_identifier {callee e e' : Expression} (h : Optioned callee e e')
    (name : String) (declaration : Option NodeId) :
    e ≠ .identifier name declaration ∧ e' ≠ .identifier name declaration := by
  cases h with
  | here => exact ⟨nofun, nofun⟩
  | inside _ hpart => cases hpart <;> exact ⟨nofun, nofun⟩

end Expression

open Expression (Optioned)

/-- One call in an expression of a statement is given options. The event of an `emit` and the error
of a `revert` are named by a call that takes none, but what is inside it may. -/
inductive Statement.OwnOptioned (callee : Expression) : Statement → Statement → Prop where
  | expression {e e'} (h : Optioned callee e e') :
      OwnOptioned callee (.expression e) (.expression e')
  | branch {e e'} (h : Optioned callee e e') (whenTrue whenFalse) :
      OwnOptioned callee (.branch e whenTrue whenFalse) (.branch e' whenTrue whenFalse)
  | declaration {e e'} (h : Optioned callee e e') :
      OwnOptioned callee (.declaration (some e)) (.declaration (some e'))
  | ret {e e'} (h : Optioned callee e e') : OwnOptioned callee (.ret (some e)) (.ret (some e'))
  | forLoop {e e'} (h : Optioned callee e e') (initial step body) :
      OwnOptioned callee (.forLoop initial (some e) step body)
        (.forLoop initial (some e') step body)
  | whileLoop {e e'} (h : Optioned callee e e') (body) :
      OwnOptioned callee (.whileLoop e body) (.whileLoop e' body)
  | doWhileLoop {e e'} (h : Optioned callee e e') (body) :
      OwnOptioned callee (.doWhileLoop e body) (.doWhileLoop e' body)
  | emit {p p' event event'} (h : Optioned callee p p')
      (hpart : Expression.PartExchanged p p' event event') :
      OwnOptioned callee (.emit event) (.emit event')
  | revert {p p' error error'} (h : Optioned callee p p')
      (hpart : Expression.PartExchanged p p' error error') :
      OwnOptioned callee (.revert error) (.revert error')

end TokenConformance.Solidity

namespace TokenConformance.Body

open Solidity
open Expression (Optioned PartExchanged)

/-- A call of the callee may be given options: it is no assertion, no `revert`, and no `push` or
`pop`. -/
def TakesOptions : Expression → Prop
  | .identifier name _ => name ∉ ["require", "assert", "revert"]
  | .member _ name _ => name ∉ ["push", "pop"]
  | _ => True

/-- The name by which a condition reads a call of the callee. -/
def calledName? : Expression → Option String
  | .identifier name _ => some name
  | .member _ name _ => some name
  | _ => none

variable {scope : Scope} {callee e e' p p' : Expression}

/-! ## What looks at an expression -/

theorem anyStateRooted_append (before after : List (Option Expression)) :
    anyStateRooted scope (before ++ after) =
      (anyStateRooted scope before || anyStateRooted scope after) := by
  induction before with
  | nil => rfl
  | cons e before ih => cases e <;> simp [anyStateRooted, ih, Bool.or_assoc]

theorem isStateRooted_optioned (h : Optioned callee e e') :
    isStateRooted scope e' = isStateRooted scope e := by
  induction h with
  | here => simp only [isStateRooted]
  | inside _ hpart ih =>
    cases hpart with
    | component before after =>
      simp only [isStateRooted, anyStateRooted_append, anyStateRooted, ih]
    | object | base => simpa only [isStateRooted] using ih
    | _ => simp only [isStateRooted]

/-- The members of a name are those that count as calls, and in a name there is no call. -/
theorem callees_member_of_not_identifier {object : Expression}
    (h : ∀ name declaration, object ≠ .identifier name declaration) (name : String)
    (declaration : Option NodeId) : callees scope (.member object name declaration) = [] := by
  cases object with
  | identifier name declaration => exact absurd rfl (h name declaration)
  | _ => simp only [callees]

theorem callees_optioned (h : Optioned callee e e') : callees scope e' = callees scope e := by
  induction h with
  | here => simp only [callees]
  | inside hinside hpart ih =>
    cases hpart with
    | object name declaration =>
      rw [callees_member_of_not_identifier fun _ _ => (hinside.ne_identifier _ _).1,
        callees_member_of_not_identifier fun _ _ => (hinside.ne_identifier _ _).2]
    | options => simpa only [callees] using ih
    | _ => simp only [callees]

theorem callWrites_optioned (h : Optioned callee e e') :
    callWrites scope e' = callWrites scope e := by
  have hcallees : callees scope e' = callees scope e := callees_optioned h
  cases h with
  | here => simp only [callWrites, hcallees]
  | inside hinside hpart =>
    cases hpart with
    | object name declaration =>
      simp only [callWrites, hcallees, isStateRooted_optioned hinside]
    | _ => simp only [callWrites, hcallees]

theorem callWrites_withOptions (h : TakesOptions callee) :
    callWrites scope (.withOptions callee) = callWrites scope callee := by
  cases callee with
  | member object name declaration =>
    have hname : ¬(name = "push" ∨ name = "pop") := by simpa [TakesOptions] using h
    simp only [callWrites, callees, if_neg hname]
  | _ => simp only [callWrites, callees]

/-! ## What is found in an expression -/

theorem readOf_call (callee : Expression) (arguments : List Expression) :
    readOf scope (.call callee arguments) = calledName? callee := by
  cases callee <;> rfl

theorem calledName?_optioned (h : Optioned callee e e') : calledName? e' = calledName? e := by
  cases h with
  | here => rfl
  | inside _ hpart => cases hpart <;> rfl

theorem findings_withOptions : findings scope (.withOptions e) = [] := by
  simp [findings, readOf, writes, callsOf]

/-- The call that is given options does what it did, but is not read by the name of its callee. -/
theorem mem_findings_call_iff (hcallee : TakesOptions callee) (arguments : List Expression)
    (x : Finding) : x ∈ findings scope (.call callee arguments) ↔
      (∃ name, calledName? callee = some name ∧ x = .read name) ∨
        x ∈ findings scope (.call (.withOptions callee) arguments) := by
  cases x with
  | read name => simp [readOf_call, calledName?]
  | write => simp [writes, callWrites_withOptions hcallee]
  | call k => simp [callsOf, callees]

/-- Around the call, an expression does by itself what it did. -/
theorem findings_partExchanged (h : Optioned callee p p') (hpart : PartExchanged p p' e e') :
    findings scope e' = findings scope e := by
  have hread : readOf scope e' = readOf scope e := by
    cases hpart with
    | callee => rw [readOf_call, readOf_call, calledName?_optioned h]
    | argument => rw [readOf_call, readOf_call]
    | _ => rfl
  have hwrite : writes scope e' = writes scope e := by
    cases hpart with
    | callee => simp only [writes, callWrites_optioned h]
    | target | operand => simp only [writes, isStateRooted_optioned h]
    | _ => simp only [writes]
  have hcall : callsOf scope e' = callsOf scope e := by
    cases hpart with
    | callee => simp only [callsOf, callees_optioned h]
    | _ => simp only [callsOf]
  rw [findings, findings, hread, hwrite, hcall]

/-- With options nothing is lost of what an expression does but that it reads the name of the
callee. -/
theorem mem_found_iff (hcallee : TakesOptions callee) (h : Optioned callee e e') (x : Finding) :
    x ∈ found scope e ↔
      (∃ name, calledName? callee = some name ∧ x = .read name) ∨ x ∈ found scope e' := by
  -- from the call upwards: around it every expression does by itself what it did
  induction h with
  | here arguments =>
    simp only [found_eq (.call _ _), found_eq (.withOptions _), Expression.parts,
      List.flatMap_cons, List.flatMap_nil, List.append_nil, findings_withOptions, List.nil_append,
      List.mem_append, mem_findings_call_iff hcallee arguments x, or_assoc]
  | @inside p p' e e' hinside hpart ih =>
    obtain ⟨before, after, hparts, hparts'⟩ := hpart.parts_eq
    simp only [found_eq e, found_eq e', findings_partExchanged hinside hpart, hparts, hparts',
      List.flatMap_append, List.flatMap_cons, List.mem_append, ih]
    grind

theorem mem_reads_optioned (hcallee : TakesOptions callee) (h : Optioned callee e e')
    (name : String) :
    name ∈ reads scope e ↔ calledName? callee = some name ∨ name ∈ reads scope e' := by
  rw [mem_reads_iff_found, mem_reads_iff_found, mem_found_iff hcallee h]
  simp

/-! ## Statements -/

/-- A condition that may have been given options. -/
def MaybeOptioned (callee c c' : Expression) : Prop := c' = c ∨ Optioned callee c c'

/-- Only a call of a name can be an assertion. -/
theorem assertedCondition?_call {f : Expression}
    (hf : ∀ name declaration, f ≠ .identifier name declaration) (arguments : List Expression) :
    assertedCondition? (.call f arguments) = none := by
  cases f with
  | identifier name declaration => exact absurd rfl (hf name declaration)
  | _ => rfl

/-- Only a call of a name can be a `revert`. -/
theorem isRevertCall_call {f : Expression}
    (hf : ∀ name declaration, f ≠ .identifier name declaration) (arguments : List Expression) :
    isRevertCall (.call f arguments) = false := by
  cases f with
  | identifier name declaration => exact absurd rfl (hf name declaration)
  | _ => rfl

/-- No assertion takes options, and of its arguments the first one is the condition. -/
theorem assertedCondition?_optioned (hcallee : TakesOptions callee) (h : Optioned callee e e') :
    Option.Rel (MaybeOptioned callee) (assertedCondition? e) (assertedCondition? e') := by
  cases h with
  | here arguments =>
    rw [assertedCondition?_call (f := .withOptions callee) (by simp)]
    cases callee with
    | identifier name declaration =>
      have hname : ¬(name = "require" ∨ name = "assert") := by
        simp_all [TakesOptions]
      rw [assertedCondition?, if_neg hname]
      exact .none
    | _ => exact .none
  | inside hinside hpart =>
    cases hpart with
    | callee arguments =>
      rw [assertedCondition?_call fun _ _ => (hinside.ne_identifier _ _).1,
        assertedCondition?_call fun _ _ => (hinside.ne_identifier _ _).2]
      exact .none
    | argument f before after =>
      cases f with
      | identifier name declaration =>
        rw [assertedCondition?, assertedCondition?]
        split
        · cases before with
          | nil => exact .some (.inr hinside)
          | cons first before => exact .some (.inl rfl)
        · exact .none
      | _ => exact .none
    | _ => exact .none

theorem isRevertCall_optioned (hcallee : TakesOptions callee) (h : Optioned callee e e') :
    isRevertCall e' = isRevertCall e := by
  cases h with
  | here =>
    rw [isRevertCall_call (f := .withOptions callee) (by simp)]
    cases callee with
    | identifier name declaration => simp_all [isRevertCall, TakesOptions]
    | _ => rfl
  | inside hinside hpart =>
    cases hpart with
    | callee arguments =>
      rw [isRevertCall_call fun _ _ => (hinside.ne_identifier _ _).1,
        isRevertCall_call fun _ _ => (hinside.ne_identifier _ _).2]
    | argument f before after => cases f <;> rfl
    | _ => rfl

/-- The name of an event stays if something inside of it is given options. -/
theorem emissionOf?_partExchanged (h : Optioned callee p p') (hpart : PartExchanged p p' e e') :
    emissionOf? scope e' = emissionOf? scope e := by
  cases hpart with
  | callee arguments =>
    cases h with
    | here => rfl
    | inside _ hpart => cases hpart <;> rfl
  | argument f before after => cases f <;> rfl
  | _ => rfl

/-- What is found in the arguments of an event or an error. -/
theorem mem_found_arguments_iff (hcallee : TakesOptions callee) (h : Optioned callee p p')
    (hpart : PartExchanged p p' e e') {x : Finding} (hx : ∀ name, x ≠ .read name) :
    x ∈ e.arguments.flatMap (found scope) ↔ x ∈ e'.arguments.flatMap (found scope) := by
  cases hpart with
  | argument f before after =>
    simp only [Expression.arguments, List.flatMap_append, List.flatMap_cons, List.mem_append,
      mem_found_iff hcallee h, hx, and_false, exists_false, false_or]
  | _ => rfl

section Own

open Statement (OwnOptioned)

variable {s s' : Statement} (hcallee : TakesOptions callee) (h : OwnOptioned callee s s')
include h

theorem parts_ownOptioned : s'.parts = s.parts := by
  cases h <;> rfl

theorem emission?_ownOptioned : emission? scope s' = emission? scope s := by
  cases h with
  | emit h hpart => exact emissionOf?_partExchanged h hpart
  | _ => rfl

include hcallee

theorem mem_found_roots_iff {x : Finding} (hx : ∀ name, x ≠ .read name) :
    x ∈ s.roots.flatMap (found scope) ↔ x ∈ s'.roots.flatMap (found scope) := by
  cases h with
  | emit h hpart | revert h hpart => exact mem_found_arguments_iff hcallee h hpart hx
  | expression h | branch h | declaration h | ret h | forLoop h | whileLoop h | doWhileLoop h =>
    simp only [Statement.roots, Option.toList_some, List.flatMap_singleton, mem_found_iff hcallee h,
      hx, and_false, exists_false, false_or]

theorem mem_found_nodes_iff {x : Finding} (hx : ∀ name, x ≠ .read name) :
    x ∈ (s.nodes.flatMap fun t => t.roots.flatMap (found scope)) ↔
      x ∈ s'.nodes.flatMap fun t => t.roots.flatMap (found scope) := by
  rw [Statement.nodes_eq s, Statement.nodes_eq s', List.flatMap_cons, List.flatMap_cons,
    List.mem_append, List.mem_append, mem_found_roots_iff hcallee h hx, parts_ownOptioned h]

theorem terminates_ownOptioned : terminates s' = terminates s := by
  cases h with
  | expression h => rw [terminates, terminates, isRevertCall_optioned hcallee h]
  | _ => simp only [terminates]

theorem sitesOf_ownOptioned (later : Bool) :
    List.Forall₂ (Site.Matched (MaybeOptioned callee)) (sitesOf scope later s)
      (sitesOf scope later s') := by
  have hrefl : ∀ xs : List Site, List.Forall₂ (Site.Matched (MaybeOptioned callee)) xs xs :=
    fun xs => List.forall₂_same.2 fun _ _ => ⟨.inl rfl, rfl⟩
  cases h with
  | expression h =>
    rw [sitesOf, sitesOf]
    have hasserted := assertedCondition?_optioned hcallee h
    generalize assertedCondition? _ = c at hasserted ⊢
    generalize assertedCondition? _ = c' at hasserted ⊢
    cases hasserted with
    | none => exact .nil
    | some hcondition => exact .cons ⟨hcondition, rfl⟩ .nil
  | branch h | forLoop h | whileLoop h | doWhileLoop h =>
    rw [sitesOf, sitesOf]
    exact .cons ⟨.inr h, rfl⟩ (hrefl _)
  | _ => exact .nil

/-- A statement in which a call is given options says the same, but for a condition that the call
stands in. -/
theorem rephrased_optioned : Rephrased scope (MaybeOptioned callee) s s' where
  sites := sitesOf_ownOptioned hcallee h
  writes := by
    rw [Bool.eq_iff_iff, statementWrites_iff_found, statementWrites_iff_found,
      mem_found_nodes_iff hcallee h (x := .write) fun _ => nofun]
  emissions := by
    rw [emissions_singleton, emissions_singleton, emission?_ownOptioned h, parts_ownOptioned h]
  calls := OrderedSet.ext fun k => by
    rw [mem_calls_iff_found, mem_calls_iff_found, List.flatMap_singleton, List.flatMap_singleton,
      mem_found_nodes_iff hcallee h (x := .call k) fun _ => nofun]
  ends := terminates_ownOptioned hcallee h

end Own

/-! ## Bodies -/

/-- The same is known of a guard exactly if its condition, where the call stands in it, still reads
the name of the callee somewhere else. -/
theorem guard_eq_iff (hcallee : TakesOptions callee) {x x' : Site}
    (hx : x.Matched (MaybeOptioned callee) x') :
    x.guard scope = x'.guard scope ↔ (Optioned callee x.condition x'.condition →
      ∀ name ∈ calledName? callee, ReadIn scope x'.condition name) := by
  constructor
  · intro hguard hoptioned name hname
    have hreads : reads scope x.condition = reads scope x'.condition := congrArg Guard.reads hguard
    rw [← mem_reads_iff, ← hreads, mem_reads_optioned hcallee hoptioned]
    exact .inl hname
  · intro hread
    have hreads : reads scope x.condition = reads scope x'.condition := by
      rcases hx.condition with heq | hoptioned
      · rw [heq]
      · refine OrderedSet.ext fun name => ?_
        rw [mem_reads_optioned hcallee hoptioned, or_iff_right_of_imp]
        exact fun hname => mem_reads_iff.2 (hread hoptioned name hname)
    rw [Site.guard, Site.guard, hreads, hx.gatesWrite]

/-- A guard to which the rule on balances objects was one before the call was given options. -/
theorem checksBalance_of_matched (hcallee : TakesOptions callee) {x x' : Site}
    (hx : x.Matched (MaybeOptioned callee) x') (h : (x'.guard scope).ChecksBalance) :
    (x.guard scope).ChecksBalance := by
  obtain ⟨hgates, name, hname, hbalance⟩ := h
  refine ⟨hx.gatesWrite.symm.trans hgates, name, ?_, hbalance⟩
  rcases hx.condition with heq | hoptioned
  · exact (congrArg (name ∈ reads scope ·) heq).mp hname
  · exact (mem_reads_optioned hcallee hoptioned name).2 (.inr hname)

/-- If one call in a body is given options, the events and the calls of the body stay, and its
guards stay one by one, with the writes that they gate. Only the condition that the call stands in,
if there is one, may read less: the name of the callee. So the same is known of the body exactly if
this condition reads the name somewhere else. And the rule on balances, if it is violated
afterwards, was violated before. -/
theorem bodyFacts_optioned (scope : Scope) {callee : Expression} {body body' : List Statement}
    (hcallee : TakesOptions callee)
    (h : Statement.Exchanged (Statement.OwnOptioned callee) (.block body) (.block body')) :
    (bodyFacts scope (some body')).emissions = (bodyFacts scope (some body)).emissions ∧
      (bodyFacts scope (some body')).calls = (bodyFacts scope (some body)).calls ∧
      List.Forall₂ (Site.Matched (MaybeOptioned callee)) (sites scope false body)
        (sites scope false body') ∧
      (bodyFacts scope (some body) = bodyFacts scope (some body') ↔
        ∀ x x', (x, x') ∈ (sites scope false body).zip (sites scope false body') →
          Optioned callee x.condition x'.condition →
            ∀ name ∈ calledName? callee, ReadIn scope x'.condition name) ∧
      ∀ (c : FlatContract) (k : Selector) (t : FunctionTemplate),
        ((Requirement.noBalanceGuard t).evaluate
            (c.withFacts k (bodyFacts scope (some body')))).map (·.outcome) = .ok .violated →
          ((Requirement.noBalanceGuard t).evaluate
            (c.withFacts k (bodyFacts scope (some body)))).map (·.outcome) = .ok .violated := by
  have hC : ∀ e, MaybeOptioned callee e e := fun _ => .inl rfl
  have hR : ∀ {s s'}, Statement.OwnOptioned callee s s' →
      Rephrased scope (MaybeOptioned callee) s s' := fun hs => rephrased_optioned hcallee hs
  have hemissions := emissions_of_exchanged hC hR h
  have hcalls := calls_of_exchanged hC hR h
  have hsites := sites_of_exchanged hC hR h
  refine ⟨hemissions, hcalls, hsites, ?_, fun c k t => evaluate_noBalanceGuard_violated ?_⟩
  -- the guards alone can differ, and they do so condition by condition
  · have hguards : bodyFacts scope (some body) = bodyFacts scope (some body') ↔
        guards scope body = guards scope body' := by
      rw [bodyFacts, bodyFacts, hemissions, hcalls, BodyFacts.mk.injEq]
      exact and_iff_left ⟨rfl, rfl⟩
    obtain ⟨hlength, hmatched⟩ := List.forall₂_iff_zip.1 hsites
    rw [hguards, guards_eq_iff, List.forall₂_iff_zip, and_iff_right hlength]
    refine forall_congr' fun x => forall_congr' fun x' => forall_congr' fun hmem => ?_
    exact guard_eq_iff hcallee (hmatched hmem)
  · simp only [bodyFacts, guards_eq_sites]
    rintro ⟨g', hg', hbalance⟩
    obtain ⟨x', hx', rfl⟩ := List.mem_map.1 hg'
    obtain ⟨x, hx, hmatched⟩ :=
      exists_of_mem_of_sublistForall₂ (sublistForall₂_of_forall₂ hsites.flip) hx'
    exact ⟨_, List.mem_map_of_mem hx, checksBalance_of_matched hcallee hmatched hbalance⟩

/-! ### A check of balances -/

open TokenConformance.Allowance

/-- `this.balanceOf` -/
def balanceOf : Expression := .member (.identifier "this" (some (-28))) "balanceOf" (some 4)

/-- `require(f(owner) >= value); _allowances[owner] = value;`, with some callee. -/
def setWithOne (f : Expression) : List Statement :=
  [requireEnough (.call f [owner]), setAllowance]

/-- `require(f(owner) + this.balanceOf(value) >= value); _allowances[owner] = value;`, with some
callee. -/
def setWithTwo (f : Expression) : List Statement :=
  [requireEnough (.binary (.call f [owner]) (.call balanceOf [value])), setAllowance]

/-- Of two calls of `balanceOf` in one condition one is given options, and the other one still reads
the name. -/
theorem facts_one_of_two_optioned :
    TakesOptions balanceOf ∧
      Statement.Exchanged (Statement.OwnOptioned balanceOf) (.block (setWithTwo balanceOf))
        (.block (setWithTwo (.withOptions balanceOf))) ∧
      bodyFacts names (some (setWithTwo balanceOf)) =
        bodyFacts names (some (setWithTwo (.withOptions balanceOf))) := by
  have hcallee : TakesOptions balanceOf := by simp [TakesOptions, balanceOf]
  have hexchanged : Statement.Exchanged (Statement.OwnOptioned balanceOf)
      (.block (setWithTwo balanceOf)) (.block (setWithTwo (.withOptions balanceOf))) :=
    .inside (.here (.expression (.inside (.inside (.inside (.here [owner]) (.left _)) (.left value))
      (.argument _ [] [])))) (.block [] [setAllowance])
  obtain ⟨-, -, -, hiff, -⟩ := bodyFacts_optioned names hcallee hexchanged
  refine ⟨hcallee, hexchanged, hiff.2 fun x x' hmem _ name hname => ?_⟩
  obtain rfl := Option.some.inj hname
  obtain ⟨-, rfl⟩ := Prod.mk.inj (List.mem_singleton.1 hmem)
  exact mem_reads_iff.1 (by decide)

/-- The only call of `balanceOf` in the condition is given options. The condition reads nothing
then, and the rule on balances, which was violated, is met. -/
theorem balance_check_lost :
    TakesOptions balanceOf ∧
      Statement.Exchanged (Statement.OwnOptioned balanceOf) (.block (setWithOne balanceOf))
        (.block (setWithOne (.withOptions balanceOf))) ∧
      bodyFacts names (some (setWithOne balanceOf)) =
        ⟨[⟨.ofList ["balanceOf"], true⟩], [], .ofList [⟨"balanceOf", ["address"]⟩]⟩ ∧
      bodyFacts names (some (setWithOne (.withOptions balanceOf))) =
        ⟨[⟨.ofList [], true⟩], [], .ofList [⟨"balanceOf", ["address"]⟩]⟩ ∧
      bodyFacts names (some (setWithOne balanceOf)) ≠
        bodyFacts names (some (setWithOne (.withOptions balanceOf))) ∧
      outcome (bodyFacts names (some (setWithOne balanceOf))) = .ok .violated ∧
      outcome (bodyFacts names (some (setWithOne (.withOptions balanceOf)))) = .ok .satisfied := by
  refine ⟨by simp [TakesOptions, balanceOf], ?_, by decide, by decide, by decide, rfl, rfl⟩
  exact .inside (.here (.expression (.inside (.inside (.here [owner]) (.left value))
    (.argument _ [] [])))) (.block [] [setAllowance])

end TokenConformance.Body
