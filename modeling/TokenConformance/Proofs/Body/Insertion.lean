import TokenConformance.Proofs.Body.Exchange
import TokenConformance.Proofs.Standard.BalanceGuard

/-! # Inserting a statement

A statement more in a body takes away nothing of what is known of the body.

* `InsertedBeforeLast`, `Inserted`: a list, and a body, with one statement more. Inside of a block
  it stands before the last statement, which decides whether control goes past the block.
* `grows_inserted`: the list does more.
* `BodyFacts.Kept`, `Grows.kept`: what is known of a body that does more.
* `bodyFacts_inserted`: everything is still known, and a violated rule on balances stays violated.
-/

namespace TokenConformance

/-- A guard is still there: it reads the same, and it still gates a write if it did. -/
structure Guard.Kept (g g' : Guard) : Prop where
  reads : g'.reads = g.reads
  gatesWrite : g.gatesWrite = true → g'.gatesWrite = true

/-- What is known of a body is still known: its guards and its events are there in their order, with
others before, between and after them, and its calls are there. -/
structure BodyFacts.Kept (facts facts' : BodyFacts) : Prop where
  guards : List.SublistForall₂ Guard.Kept facts.guards facts'.guards
  emissions : facts.emissions.Sublist facts'.emissions
  calls : ∀ k ∈ facts.calls, k ∈ facts'.calls

namespace Body

open Solidity

/-- A list with one statement more, somewhere before its last one. -/
inductive InsertedBeforeLast : List Statement → List Statement → Prop where
  | insert (before : List Statement) (new : Statement) {after : List Statement} (h : after ≠ []) :
      InsertedBeforeLast (before ++ after) (before ++ new :: after)

/-- A body with one statement more: anywhere in its own list, or before the last statement of a
block, checked or not, at any depth. -/
inductive Inserted : List Statement → List Statement → Prop where
  | top (before : List Statement) (new : Statement) (after : List Statement) :
      Inserted (before ++ after) (before ++ new :: after)
  | nested {body body' : List Statement}
      (h : Statement.Exchanged (InBlock InsertedBeforeLast) (.block body) (.block body')) :
      Inserted body body'

variable {scope : Scope}

theorem grows_inserted (before : List Statement) (new : Statement) (after : List Statement) :
    Grows scope Eq (before ++ after) (before ++ new :: after) :=
  (Grows.refl (fun _ => rfl) before).append
    ((Grows.nil [new]).append (.refl (fun _ => rfl) after))

theorem lastTerminates_insertedBeforeLast {ss ss' : List Statement}
    (h : InsertedBeforeLast ss ss') : lastTerminates ss' = lastTerminates ss := by
  obtain ⟨before, new, h⟩ := h
  obtain ⟨s, after, rfl⟩ := List.exists_cons_of_ne_nil h
  rw [lastTerminates_append, lastTerminates_append, lastTerminates]

theorem grows_inBlock_insertedBeforeLast {s s' : Statement} (h : InBlock InsertedBeforeLast s s') :
    Grows scope Eq [s] [s'] ∧ terminates s' = terminates s := by
  refine ⟨grows_of_inBlock ?_ h, ?_⟩
  · rintro _ _ ⟨before, new, -⟩
    exact grows_inserted before new _
  · cases h with
    | block h | unchecked h => exact lastTerminates_insertedBeforeLast h

/-- If a body does more, with its conditions as they are, what is known of it is still known. -/
theorem Grows.kept {body body' : List Statement}
    (h : Grows scope Eq [.block body] [.block body']) :
    (bodyFacts scope (some body)).Kept (bodyFacts scope (some body')) where
  guards := by
    simp only [bodyFacts, guards_eq_sites, List.sublistForall₂_map_left_iff,
      List.sublistForall₂_map_right_iff]
    obtain ⟨kept, hkept, hsub⟩ := List.sublistForall₂_iff.1 h.sites_body
    refine List.sublistForall₂_iff.2 ⟨kept, hkept.imp fun x x' hx => ?_, hsub⟩
    exact ⟨congrArg (reads scope) hx.condition.symm, hx.gatesWrite⟩
  emissions := h.emissions_body
  calls _ := h.calls_body

/-- A body with one statement more keeps its guards, with what they read and with the writes that
they gate, its events and its calls. So the rule on balances, if it was violated in the function,
still is. -/
theorem bodyFacts_inserted (scope : Scope) {body body' : List Statement}
    (h : Inserted body body') :
    (bodyFacts scope (some body)).Kept (bodyFacts scope (some body')) ∧
      ∀ (c : FlatContract) (k : Selector) (t : FunctionTemplate),
        ((Requirement.noBalanceGuard t).evaluate
            (c.withFacts k (bodyFacts scope (some body)))).map (·.outcome) = .ok .violated →
          ((Requirement.noBalanceGuard t).evaluate
            (c.withFacts k (bodyFacts scope (some body')))).map (·.outcome) = .ok .violated := by
  have hkept : (bodyFacts scope (some body)).Kept (bodyFacts scope (some body')) := by
    cases h with
    | top before new after => exact (grows_inserted before new after).block.kept
    | nested h =>
      exact (grows_of_exchanged (fun _ => rfl) grows_inBlock_insertedBeforeLast h).1.kept
  refine ⟨hkept, fun c k t => evaluate_noBalanceGuard_violated ?_⟩
  rintro ⟨g, hg, hgates, name, hname, hbalance⟩
  obtain ⟨g', hg', hguard⟩ := exists_of_mem_of_sublistForall₂ hkept.guards hg
  exact ⟨g', hg', hguard.gatesWrite hgates, name, hguard.reads ▸ hname, hbalance⟩

/-! ### An event in a branch -/

open TokenConformance.Allowance

/-- `if (_balances[owner] >= value) { _allowances[owner] = value; .. return; }`, with some
statements before the `return`. -/
def branchWith (more : List Statement) : List Statement :=
  [.branch (.binary balance value) (.block (setAllowance :: (more ++ [.ret none]))) none]

theorem facts_inserted_in_branch :
    Inserted (branchWith []) (branchWith [emitApproval 5]) ∧
      (bodyFacts names (some (branchWith []))).Kept
        (bodyFacts names (some (branchWith [emitApproval 5]))) ∧
      outcome (bodyFacts names (some (branchWith []))) = .ok .violated ∧
      outcome (bodyFacts names (some (branchWith [emitApproval 5]))) = .ok .violated := by
  have hinserted : Inserted (branchWith []) (branchWith [emitApproval 5]) :=
    .nested (.inside (.inside (.here (.block (.insert [_] (emitApproval 5) (List.cons_ne_nil _ _))))
      (.whenTrue _ _)) (.block [] []))
  obtain ⟨hkept, hrule⟩ := bodyFacts_inserted names hinserted
  exact ⟨hinserted, hkept, rfl, hrule _ approve.selector Erc20.approve rfl⟩

end Body

end TokenConformance
