import TokenConformance.Proofs.Body.Exchange

/-! # Saying the same in other words

One statement of a body may be written in another way that changes at most its conditions. Then
nothing else changes in what is known of the body.

* `Site.Matched`, `Rephrased`: a guard with another condition, a statement with other conditions.
* `guards_eq_iff`: when the same guards are known of two bodies.
* `Rephrased.grows`, `Rephrased.symm`: either statement does all that the other one does.
* `sites_of_exchanged`, `emissions_of_exchanged`, `calls_of_exchanged`: what follows for a body.
-/

namespace TokenConformance.Body

open Solidity

/-- A guard has another condition, related to the old one, and gates a write exactly if it did. -/
structure Site.Matched (C : Expression → Expression → Prop) (x x' : Site) : Prop where
  condition : C x.condition x'.condition
  gatesWrite : x'.gatesWrite = x.gatesWrite

/-- Two statements say the same, but for conditions, which may be others. -/
structure Rephrased (scope : Scope) (C : Expression → Expression → Prop) (s s' : Statement) :
    Prop where
  sites : ∀ later,
    List.Forall₂ (Site.Matched C) (sitesOf scope later s) (sitesOf scope later s')
  writes : statementWrites scope s' = statementWrites scope s
  emissions : emissions scope [s'] = emissions scope [s]
  calls : calls scope [s'] = calls scope [s]
  ends : terminates s' = terminates s

variable {scope : Scope} {C : Expression → Expression → Prop}

theorem Site.Matched.symm {x x' : Site} (h : x.Matched C x') : x'.Matched (flip C) x :=
  ⟨h.condition, h.gatesWrite.symm⟩

theorem Rephrased.symm {s s' : Statement} (h : Rephrased scope C s s') :
    Rephrased scope (flip C) s' s :=
  ⟨fun later => ((h.sites later).imp fun _ _ => Site.Matched.symm).flip, h.writes.symm,
    h.emissions.symm, h.calls.symm, h.ends.symm⟩

/-- The same guards are known of two bodies exactly if the same is known of guard after guard. -/
theorem guards_eq_iff {body body' : List Statement} :
    guards scope body = guards scope body' ↔
      List.Forall₂ (fun x x' => x.guard scope = x'.guard scope) (sites scope false body)
        (sites scope false body') := by
  rw [guards_eq_sites, guards_eq_sites, ← List.forall₂_eq_eq_eq, List.forall₂_map_left_iff,
    List.forall₂_map_right_iff]

theorem forall₂_kept_of_matched {xs ys zs : List Site} (h : List.Forall₂ (Site.Matched C) xs ys)
    (h' : List.Forall₂ (Site.Kept Eq) ys zs) : List.Forall₂ (Site.Kept C) xs zs := by
  induction h generalizing zs with
  | nil =>
    cases h'
    exact .nil
  | cons hxy _ ih =>
    obtain _ | ⟨hyz, hrest⟩ := h'
    refine .cons ⟨hyz.condition ▸ hxy.condition, fun hgates => hyz.gatesWrite ?_⟩ (ih hrest)
    rw [hxy.gatesWrite, hgates]

theorem Rephrased.grows {s s' : Statement} (h : Rephrased scope C s s') :
    Grows scope C [s] [s'] ∧ terminates s' = terminates s := by
  refine ⟨⟨fun hlater => ?_, ?_, ?_, ?_⟩, h.ends⟩
  · rw [sites_singleton, sites_singleton]
    exact sublistForall₂_of_forall₂
      (forall₂_kept_of_matched (h.sites _) (sitesOf_later (fun _ => rfl) hlater s'))
  · rw [List.any_cons, List.any_cons, h.writes]
    exact id
  · rw [h.emissions]
  · rw [h.calls]
    exact fun _ => id

section Exchanged

variable {R : Statement → Statement → Prop} {body body' : List Statement} (hC : ∀ e, C e e)
  (hR : ∀ {s s'}, R s s' → Rephrased scope C s s')
  (h : Statement.Exchanged R (.block body) (.block body'))
include hC hR h

/-- A body in which a statement is rephrased does more, and so does the old one. -/
theorem grows_of_rephrased : Grows scope C [.block body] [.block body'] ∧
    Grows scope (flip C) [.block body'] [.block body] :=
  ⟨(grows_of_exchanged hC (fun hs => (hR hs).grows) h).1,
    (grows_of_exchanged (C := flip C) hC (fun hs => (hR hs).symm.grows) h.symm).1⟩

/-- The guards of the body stay, one by one, with conditions that may be others. -/
theorem sites_of_exchanged :
    List.Forall₂ (Site.Matched C) (sites scope false body) (sites scope false body') := by
  obtain ⟨hgrows, hgrows'⟩ := grows_of_rephrased hC hR h
  obtain ⟨hkept, hkept'⟩ := forall₂_of_sublistForall₂ hgrows.sites_body hgrows'.sites_body
  -- a guard gates a write in either body if it does in the other one
  refine .mp (fun x x' hx hx' => ⟨hx.condition, ?_⟩) hkept hkept'.flip
  exact Bool.eq_iff_iff.2 ⟨hx'.gatesWrite, hx.gatesWrite⟩

/-- The events of the body stay. -/
theorem emissions_of_exchanged : emissions scope body' = emissions scope body := by
  obtain ⟨hgrows, hgrows'⟩ := grows_of_rephrased hC hR h
  exact hgrows'.emissions_body.antisymm hgrows.emissions_body

/-- The calls of the body stay. -/
theorem calls_of_exchanged : calls scope body' = calls scope body := by
  obtain ⟨hgrows, hgrows'⟩ := grows_of_rephrased hC hR h
  exact OrderedSet.ext fun k => ⟨hgrows'.calls_body, hgrows.calls_body⟩

end Exchanged

end TokenConformance.Body
