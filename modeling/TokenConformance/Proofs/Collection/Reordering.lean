import Mathlib.Data.List.Perm.Basic
import TokenConformance.Proofs.Collection.KeyedList

/-! # Lists in another order

Where keys are different, the order of a list does not show in what is made of it:

* `eq_of_perm_of_increasing`: a list in strict order is determined by its elements.
* `OrderedMap.ext`: maps with the same values are equal.
* `OrderedMap.ofList_eq_of_perm`, `OrderedSet.ofList_eq_of_perm`, `sortedBy_eq_of_perm`: what is made
  of lists in another order.
* `find?_flatten_of_perm`: a list may be put together from blocks, so that keys are different only
  inside of a block; reordering every block in itself keeps the first element of every key.
* `Hierarchy.firstBy_perm`: what that means for the first elements of all keys.
-/

namespace TokenConformance

variable {α κ : Type}

/-! ## Lists in strict order -/

section Increasing

variable [Ord κ] [Std.OrientedOrd κ] {key : α → κ} {l m : List α}

theorem eq_of_perm_of_increasing (h : l.Perm m)
    (hl : l.Pairwise fun a b => compare (key a) (key b) = .lt)
    (hm : m.Pairwise fun a b => compare (key a) (key b) = .lt) : l = m := by
  refine List.Perm.eq_of_pairwise (fun a b _ _ hab hba => ?_) hl hm h
  exact absurd hba (Std.OrientedCmp.not_lt_of_lt hab)

theorem nodup_of_increasing (h : l.Pairwise fun a b => compare (key a) (key b) = .lt) :
    l.Nodup :=
  h.imp fun hab heq => by
    subst heq
    exact Std.OrientedCmp.not_lt_of_lt hab hab

end Increasing

/-! ## Different keys -/

section Keyed

variable [DecidableEq κ] {key : α → κ} {l m : List α}

theorem mem_iff_find?_of_pairwise (h : l.Pairwise fun a b => key a ≠ key b) (a : α) :
    a ∈ l ↔ (l.find? fun b => key b = key a) = some a := by
  have hfilter := filter_key_of_pairwise h (key a)
  constructor
  · intro ha
    have hmem : a ∈ (l.find? fun b => key b = key a).toList :=
      hfilter ▸ List.mem_filter.2 ⟨ha, by simp⟩
    exact Option.mem_toList.1 hmem
  · exact List.mem_of_find?_eq_some

theorem find?_of_perm (h : l.Perm m) (hl : l.Pairwise fun a b => key a ≠ key b) (k : κ) :
    (l.find? fun a => key a = k) = m.find? fun a => key a = k := by
  have hm : m.Pairwise fun a b => key a ≠ key b := (h.pairwise_iff fun h => h.symm).1 hl
  -- with different keys, what has the key is at most one element, so there is no order to change
  have hfilter := h.filter fun a => key a = k
  rw [filter_key_of_pairwise hl, filter_key_of_pairwise hm] at hfilter
  cases hfind : m.find? fun a => key a = k with
  | none =>
    rw [hfind] at hfilter
    exact Option.toList_eq_nil_iff.1 hfilter.eq_nil
  | some a =>
    rw [hfind] at hfilter
    exact Option.toList_eq_singleton_iff.1 (List.perm_singleton.1 hfilter)

/-- The first element of a key is in the first block that has the key, and there it is the only
one. -/
theorem find?_flatten_of_perm {bs cs : List (List α)} (h : List.Forall₂ List.Perm bs cs)
    (hbs : ∀ b ∈ bs, b.Pairwise fun x y => key x ≠ key y) (k : κ) :
    (bs.flatten.find? fun a => key a = k) = cs.flatten.find? fun a => key a = k := by
  induction h with
  | nil => rfl
  | cons hbc _ ih =>
    rw [List.flatten_cons, List.flatten_cons, List.find?_append, List.find?_append,
      find?_of_perm hbc (hbs _ List.mem_cons_self),
      ih fun b hb => hbs b (List.mem_cons_of_mem _ hb)]

/-- The first elements of all keys are the same where they are the same for every key. -/
theorem Hierarchy.firstBy_perm
    (h : ∀ k, (l.find? fun a => key a = k) = m.find? fun a => key a = k) :
    (firstBy key l).Perm (firstBy key m) := by
  have hnodup : ∀ l : List α, (firstBy key l).Nodup := fun l =>
    (pairwise_firstBy key l).imp fun hab heq => hab (congrArg key heq)
  rw [List.perm_ext_iff_of_nodup (hnodup l) (hnodup m)]
  intro a
  rw [mem_iff_find?_of_pairwise (pairwise_firstBy key l),
    mem_iff_find?_of_pairwise (pairwise_firstBy key m), find?_firstBy, find?_firstBy, h]

end Keyed

theorem sortedBy_eq_of_perm [Ord κ] [Std.TransOrd κ] [Std.LawfulEqOrd κ] {key : α → κ}
    {l m : List α} (h : l.Perm m) (hl : l.Pairwise fun a b => key a ≠ key b) :
    sortedBy key l = sortedBy key m :=
  eq_of_perm_of_increasing ((sortedBy_perm key l).trans (h.trans (sortedBy_perm key m).symm))
    (pairwise_sortedBy hl) (pairwise_sortedBy ((h.pairwise_iff fun h => h.symm).1 hl))

/-! ## Sets and maps -/

theorem OrderedSet.ofList_eq_of_perm [Ord α] [Std.TransOrd α] [Std.LawfulEqOrd α] {l m : List α}
    (h : l.Perm m) : OrderedSet.ofList l = OrderedSet.ofList m :=
  OrderedSet.ext fun a => by simp [h.mem_iff]

namespace OrderedMap

variable {ν : Type} [Ord κ] [Std.TransOrd κ] [Std.LawfulEqOrd κ] [DecidableEq κ]

omit [Std.TransOrd κ] in
theorem mem_entries_iff {m : OrderedMap κ ν} {e : κ × ν} :
    e ∈ m.entries ↔ m.find? e.1 = some e.2 := by
  have hne : m.entries.Pairwise fun a b => a.1 ≠ b.1 :=
    m.increasing.imp fun hlt heq => by simp [heq, Std.ReflCmp.compare_self] at hlt
  rw [mem_iff_find?_of_pairwise hne, find?]
  constructor
  · intro h
    rw [h, Option.map_some]
  · intro h
    obtain ⟨d, hd, hvalue⟩ := Option.map_eq_some_iff.1 h
    have hkey : d.1 = e.1 := by simpa using List.find?_some hd
    rw [hd, Prod.ext hkey hvalue]

/-- Maps with the same values are equal. -/
theorem ext {m n : OrderedMap κ ν} (h : ∀ k, m.find? k = n.find? k) : m = n := by
  have hperm : m.entries.Perm n.entries := by
    rw [List.perm_ext_iff_of_nodup (nodup_of_increasing m.increasing)
      (nodup_of_increasing n.increasing)]
    intro e
    rw [mem_entries_iff, mem_entries_iff, h]
  exact entries_injective (eq_of_perm_of_increasing hperm m.increasing n.increasing)

/-- The order of entries does not matter where entries with one key are equal. -/
theorem ofList_eq_of_perm {l m : List (κ × ν)} (h : l.Perm m)
    (hl : ∀ a ∈ l, ∀ b ∈ l, a.1 = b.1 → a = b) : ofList l = ofList m := by
  refine ext fun k => ?_
  cases hm : (ofList m).find? k with
  | none =>
    rw [find?_ofList, Option.map_eq_none_iff, List.find?_eq_none] at hm ⊢
    intro e he
    exact hm e (List.mem_reverse.2 (h.mem_iff.1 (List.mem_reverse.1 he)))
  | some v =>
    rw [find?_ofList] at hm
    obtain ⟨⟨k', v'⟩, hfind, rfl⟩ := Option.map_eq_some_iff.1 hm
    obtain rfl : k' = k := by simpa using List.find?_some hfind
    have hmem : (k', v') ∈ l := h.mem_iff.2 (List.mem_reverse.1 (List.mem_of_find?_eq_some hfind))
    obtain ⟨w, hw, hmem'⟩ := exists_find?_ofList hmem
    rw [hw, (Prod.ext_iff.1 (hl _ hmem _ hmem' rfl)).2]

theorem ofList_map_eq_of_perm {key : α → κ} {value : α → ν} {l m : List α} (h : l.Perm m)
    (hl : ∀ a ∈ l, ∀ b ∈ l, key a = key b → value a = value b) :
    ofList (l.map fun a => (key a, value a)) = ofList (m.map fun a => (key a, value a)) := by
  refine ofList_eq_of_perm (h.map _) fun a ha b hb hab => ?_
  obtain ⟨x, hx, rfl⟩ := List.mem_map.1 ha
  obtain ⟨y, hy, rfl⟩ := List.mem_map.1 hb
  exact Prod.ext hab (hl x hx y hy hab)

end OrderedMap

end TokenConformance
