import TokenConformance.Proofs.Body.Rephrasing
import TokenConformance.Proofs.Standard.BalanceGuard

/-! # The rest of a list in a block

From some statement on, the rest of a list may be written as one block, checked or not, that ends
the list. Nothing else is known of the body then.

* `IsBlock`, `TailWrapped`: the block of a list, and a list whose rest stands in a block.
* `Alike`: two lists of which, as lists of blocks, the same is known.
* `alike_of_tailWrapped`: the list and the one with its rest in a block are alike.
* `bodyFacts_tailWrapped`: what is known of the body.
-/

namespace TokenConformance.Body

open Solidity

/-- A statement is a block of a list, checked or not. -/
inductive IsBlock (ss : List Statement) : Statement → Prop where
  | block : IsBlock ss (.block ss)
  | unchecked : IsBlock ss (.unchecked ss)

/-- The rest of a list, from one of its statements on, stands in a block. -/
inductive TailWrapped : List Statement → List Statement → Prop where
  | wrap (before : List Statement) {tail : List Statement} {s : Statement} (h : tail ≠ [])
      (hs : IsBlock tail s) : TailWrapped (before ++ tail) (before ++ [s])

/-- Of two lists, taken as those of blocks, the same is known. Nothing comes after them, for the
guards of a block do not look past its end. -/
structure Alike (scope : Scope) (ss ss' : List Statement) : Prop where
  sites : sites scope false ss = sites scope false ss'
  writes : ss.any (statementWrites scope) = ss'.any (statementWrites scope)
  emissions : emissions scope ss = emissions scope ss'
  calls : calls scope ss = calls scope ss'
  ends : lastTerminates ss = lastTerminates ss'

variable {scope : Scope}

/-! ## A block and its list -/

section Block

variable {ss : List Statement} {s : Statement} (h : IsBlock ss s)
include h

theorem IsBlock.sitesOf_eq (later : Bool) : sitesOf scope later s = sites scope false ss := by
  cases h <;> rw [sitesOf]

theorem IsBlock.statementWrites_eq : statementWrites scope s = ss.any (statementWrites scope) := by
  rw [statementWrites_eq_parts]
  cases h <;> rfl

theorem IsBlock.emissions_eq : emissions scope [s] = emissions scope ss := by
  rw [emissions_singleton]
  cases h <;> rfl

theorem IsBlock.calls_eq : calls scope [s] = calls scope ss := by
  refine OrderedSet.ext fun k => ?_
  rw [mem_calls_singleton]
  cases h <;> simp [Statement.roots, Statement.parts]

theorem IsBlock.terminates_eq : terminates s = lastTerminates ss := by
  cases h <;> rw [terminates]

end Block

theorem Alike.rephrased {ss ss' : List Statement} (h : Alike scope ss ss') {s s' : Statement}
    (hs : IsBlock ss s) (hs' : IsBlock ss' s') : Rephrased scope Eq s s' where
  sites later := by
    rw [hs.sitesOf_eq, hs'.sitesOf_eq, h.sites]
    exact List.forall₂_same.2 fun _ _ => ⟨rfl, rfl⟩
  writes := by rw [hs.statementWrites_eq, hs'.statementWrites_eq, h.writes]
  emissions := by rw [hs.emissions_eq, hs'.emissions_eq, h.emissions]
  calls := by rw [hs.calls_eq, hs'.calls_eq, h.calls]
  ends := by rw [hs.terminates_eq, hs'.terminates_eq, h.ends]

/-! ## The rest in a block -/

theorem alike_of_tailWrapped {ss ss' : List Statement} (h : TailWrapped ss ss') :
    Alike scope ss ss' := by
  obtain ⟨before, htail, hs⟩ := h
  constructor
  · rw [sites_append, sites_append, sites_singleton, hs.sitesOf_eq, List.any_cons,
      hs.statementWrites_eq, List.any_nil, Bool.or_false, Bool.or_false]
  · rw [List.any_append, List.any_append, List.any_cons, hs.statementWrites_eq, List.any_nil,
      Bool.or_false]
  · rw [emissions_append, emissions_append, hs.emissions_eq]
  · refine OrderedSet.ext fun k => ?_
    rw [mem_calls_append, mem_calls_append, hs.calls_eq]
  · obtain ⟨t, rest, rfl⟩ := List.exists_cons_of_ne_nil htail
    rw [lastTerminates_append, lastTerminates_append, lastTerminates, hs.terminates_eq]

/-- If, in the list of a body or of a block at any depth, the rest from one statement on is put into
a block, checked or not, then the same is known of the body: the same guards in the same order, with
what they read and whether they gate a write, the same events in the same order and the same
calls. -/
theorem bodyFacts_tailWrapped (scope : Scope) {body body' : List Statement}
    (h : Statement.Exchanged (InBlock TailWrapped) (.block body) (.block body')) :
    bodyFacts scope (some body') = bodyFacts scope (some body) := by
  have hrephrased : ∀ {s s'}, InBlock TailWrapped s s' → Rephrased scope Eq s s' := by
    rintro s s' (hwrapped | hwrapped)
    · exact (alike_of_tailWrapped hwrapped).rephrased .block .block
    · exact (alike_of_tailWrapped hwrapped).rephrased .unchecked .unchecked
  have hguards : guards scope body = guards scope body' := by
    refine guards_eq_iff.2 ((sites_of_exchanged (fun _ => rfl) hrephrased h).imp fun x x' hx => ?_)
    rw [Site.guard, Site.guard, hx.condition, hx.gatesWrite]
  rw [bodyFacts, bodyFacts, hguards, emissions_of_exchanged (fun _ => rfl) hrephrased h,
    calls_of_exchanged (fun _ => rfl) hrephrased h]

/-! ### The rest of a branch without checks -/

open TokenConformance.Allowance

/-- `require(_balances[owner] >= value); if (value > 0) { value; .. }`, with some statements at the
end of the branch. -/
def branchEndingWith (tail : List Statement) : List Statement :=
  [requireEnough balance, .branch (.binary value .other) (.block (.expression value :: tail)) none]

/-- `_allowances[owner] = value; emit Approval(owner, value);` -/
def setAndEmit : List Statement := [setAllowance, emitApproval 5]

theorem facts_wrapped_in_branch :
    Statement.Exchanged (InBlock TailWrapped) (.block (branchEndingWith setAndEmit))
        (.block (branchEndingWith [.unchecked setAndEmit])) ∧
      bodyFacts names (some (branchEndingWith [.unchecked setAndEmit])) =
        bodyFacts names (some (branchEndingWith setAndEmit)) ∧
      bodyFacts names (some (branchEndingWith setAndEmit)) =
        ⟨[⟨.ofList ["_balances"], true⟩, ⟨.ofList [], true⟩],
          [⟨"Approval", some ["address", "address", "uint256"]⟩], .ofList []⟩ := by
  have hwrapped : Statement.Exchanged (InBlock TailWrapped) (.block (branchEndingWith setAndEmit))
      (.block (branchEndingWith [.unchecked setAndEmit])) :=
    .inside (.inside (.here (.block (.wrap [_] (List.cons_ne_nil _ _) .unchecked)))
      (.whenTrue _ _)) (.block [_] [])
  exact ⟨hwrapped, bodyFacts_tailWrapped names hwrapped, by decide⟩

end TokenConformance.Body
