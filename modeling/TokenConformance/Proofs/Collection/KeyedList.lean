import Mathlib.Data.List.Forall2
import Mathlib.Data.List.Pairwise
import TokenConformance.Hierarchy.Flatten

/-! # Lists whose elements have keys

What `firstBy` keeps and what `sortedBy` does to it:

* `find?_ofList_of_pairwise`: a map of entries that have different keys.
* `exists_find?_ofList`: a map of entries that may have equal ones.
* `find?_firstBy`, `pairwise_firstBy`: the first element of every key is kept, and no key twice.
* `sortedBy_perm`, `filter_sortedBy`: sorting changes nothing but the order.
* `pairwise_sortedBy`: elements with different keys are sorted strictly.
* `find?_of_related`, `firstBy_map`, `sortedBy_map`: lists with the same keys.
-/

namespace TokenConformance

variable {α κ : Type}

/-! ## The first element of every key -/

theorem filter_key_of_pairwise [DecidableEq κ] {key : α → κ} {l : List α}
    (h : l.Pairwise fun a b => key a ≠ key b) (k : κ) :
    (l.filter fun a => key a = k) = (l.find? fun a => key a = k).toList := by
  induction l with
  | nil => rfl
  | cons a rest ih =>
    obtain ⟨ha, hrest⟩ := List.pairwise_cons.1 h
    by_cases hk : key a = k
    · have hnone : (rest.filter fun b => key b = k) = [] := by
        rw [List.filter_eq_nil_iff]
        intro b hb
        simpa [hk, eq_comm] using ha b hb
      simp [hk, hnone]
    · simp [hk, ih hrest]

/-- Where no key stands twice, a list can be searched from either end. -/
theorem find?_reverse_of_pairwise [DecidableEq κ] {key : α → κ} {l : List α}
    (h : l.Pairwise fun a b => key a ≠ key b) (k : κ) :
    (l.reverse.find? fun a => key a = k) = l.find? fun a => key a = k := by
  have hreverse : l.reverse.Pairwise fun a b => key a ≠ key b :=
    List.pairwise_reverse.2 (h.imp fun h => h.symm)
  have hfilter := filter_key_of_pairwise hreverse k
  rw [List.filter_reverse, filter_key_of_pairwise h k] at hfilter
  cases hfind : l.find? fun a => key a = k <;>
    cases hfind' : l.reverse.find? fun a => key a = k <;>
    simp_all

theorem find?_ofList_of_pairwise {ν : Type} [Ord κ] [Std.TransOrd κ] [Std.LawfulEqOrd κ]
    [DecidableEq κ] {l : List (κ × ν)} (h : l.Pairwise fun a b => a.1 ≠ b.1) (k : κ) :
    (OrderedMap.ofList l).find? k = (l.find? fun e => e.1 = k).map (·.2) := by
  rw [OrderedMap.find?_ofList, find?_reverse_of_pairwise h]

/-- A key that stands in a list has a value in the map, and one of those that stand with it. -/
theorem exists_find?_ofList {ν : Type} [Ord κ] [Std.TransOrd κ] [Std.LawfulEqOrd κ]
    [DecidableEq κ] {l : List (κ × ν)} {k : κ} {v : ν} (h : (k, v) ∈ l) :
    ∃ w, (OrderedMap.ofList l).find? k = some w ∧ (k, w) ∈ l := by
  have hsome : (l.reverse.find? fun e => e.1 = k).isSome := by
    rw [List.find?_isSome]
    exact ⟨(k, v), List.mem_reverse.2 h, by simp⟩
  obtain ⟨⟨j, w⟩, he⟩ := Option.isSome_iff_exists.1 hsome
  have hj : j = k := by simpa using List.find?_some he
  refine ⟨w, by rw [OrderedMap.find?_ofList, he]; rfl, ?_⟩
  exact hj ▸ List.mem_reverse.1 (List.mem_of_find?_eq_some he)

theorem find?_of_related {β : Type} {R : α → β → Prop} {l : List α} {m : List β}
    (h : List.Forall₂ R l m) {p : α → Bool} {q : β → Bool} (hpq : ∀ a b, R a b → p a = q b) :
    Option.Rel R (l.find? p) (m.find? q) := by
  induction h with
  | nil => exact .none
  | cons hab _ ih =>
    rw [List.find?_cons, List.find?_cons, hpq _ _ hab]
    split
    · exact .some hab
    · exact ih

namespace Hierarchy

theorem find?_firstBy [DecidableEq κ] (key : α → κ) (l : List α) (k : κ) :
    ((firstBy key l).find? fun a => key a = k) = l.find? fun a => key a = k := by
  induction l with
  | nil => rfl
  | cons a rest ih =>
    by_cases hk : key a = k
    · simp [firstBy, hk]
    · have hcongr : (fun b => decide (decide (key b ≠ key a) = true ∧ decide (key b = k) = true)) =
          fun b => decide (key b = k) := by
        funext b
        by_cases hb : key b = k
        · simp [hb, Ne.symm hk]
        · simp [hb]
      rw [firstBy, List.find?_cons_of_neg (by simpa using hk), List.find?_filter, hcongr, ih,
        List.find?_cons_of_neg (by simpa using hk)]

theorem firstBy_sublist [DecidableEq κ] (key : α → κ) (l : List α) :
    (firstBy key l).Sublist l := by
  induction l with
  | nil => exact List.Sublist.refl _
  | cons a rest ih => exact (List.filter_sublist.trans ih).cons_cons a

theorem pairwise_firstBy [DecidableEq κ] (key : α → κ) (l : List α) :
    (firstBy key l).Pairwise fun a b => key a ≠ key b := by
  induction l with
  | nil => exact List.Pairwise.nil
  | cons a rest ih =>
    refine List.pairwise_cons.2 ⟨fun b hb => ?_, ih.filter _⟩
    have hne : key b ≠ key a := by simpa using (List.mem_filter.1 hb).2
    exact hne.symm

theorem firstBy_map {β : Type} [DecidableEq κ] (key : β → κ) (f : α → β) (l : List α) :
    firstBy key (l.map f) = (firstBy (fun a => key (f a)) l).map f := by
  induction l with
  | nil => rfl
  | cons a rest ih =>
    rw [List.map_cons, firstBy, ih, List.filter_map, firstBy, List.map_cons]
    rfl

end Hierarchy

/-! ## Sorting -/

theorem sortedBy_map {β : Type} [Ord κ] (key : β → κ) (f : α → β) (l : List α) :
    sortedBy key (l.map f) = (sortedBy (fun a => key (f a)) l).map f := by
  rw [sortedBy, sortedBy, List.map_mergeSort]
  exact fun a _ b _ => rfl

theorem sortedBy_perm [Ord κ] (key : α → κ) (l : List α) : (sortedBy key l).Perm l :=
  List.mergeSort_perm l _

theorem filter_sortedBy [Ord κ] [DecidableEq κ] {key : α → κ} {l : List α}
    (h : l.Pairwise fun a b => key a ≠ key b) (k : κ) :
    ((sortedBy key l).filter fun a => key a = k) = (l.find? fun a => key a = k).toList := by
  have hperm := (sortedBy_perm key l).filter fun a => key a = k
  rw [filter_key_of_pairwise h k] at hperm
  cases hfind : l.find? fun a => key a = k with
  | none =>
    rw [hfind] at hperm
    exact hperm.eq_nil
  | some a =>
    rw [hfind] at hperm
    exact List.perm_singleton.1 hperm

theorem pairwise_sortedBy [Ord κ] [Std.TransOrd κ] [Std.LawfulEqOrd κ] {key : α → κ} {l : List α}
    (h : l.Pairwise fun a b => key a ≠ key b) :
    (sortedBy key l).Pairwise fun a b => compare (key a) (key b) = .lt := by
  have hle : (sortedBy key l).Pairwise fun a b => (compare (key a) (key b)).isLE := by
    refine List.pairwise_mergeSort ?_ ?_ l
    · intro a b c hab hbc
      exact Std.TransCmp.isLE_trans hab hbc
    · intro a b
      rw [Std.OrientedOrd.eq_swap (a := key b)]
      cases compare (key a) (key b) <;> rfl
  have hne : (sortedBy key l).Pairwise fun a b => key a ≠ key b :=
    (List.Perm.pairwise_iff (fun h => h.symm) (sortedBy_perm key l)).2 h
  refine (hle.and hne).imp fun {a b} hab => ?_
  cases hcompare : compare (key a) (key b) with
  | lt => rfl
  | eq => exact absurd (Std.LawfulEqOrd.eq_of_compare hcompare) hab.2
  | gt => exact absurd hab.1 (by simp [hcompare])

end TokenConformance
