/-! # Finite sets in increasing order

A set is the strictly increasing list of its members, so two sets with the same members are equal.

* `OrderedSet`: the type, with `insert`, `ofList` and membership.
* `mem_insert`, `mem_ofList`: what the operations do to membership.
* `ext`: sets with the same members are equal.
-/

namespace TokenConformance

/-- A finite set, as the strictly increasing list of its members. -/
structure OrderedSet (α : Type) [Ord α] where
  toList : List α
  increasing : toList.Pairwise fun a b => compare a b = .lt

namespace OrderedSet

variable {α : Type} [Ord α]

theorem toList_injective {s t : OrderedSet α} (h : s.toList = t.toList) : s = t := by
  cases s; cases t; cases h; rfl

instance [DecidableEq α] : DecidableEq (OrderedSet α) := fun s t =>
  decidable_of_iff (s.toList = t.toList) ⟨toList_injective, fun h => h ▸ rfl⟩

instance : Membership α (OrderedSet α) := ⟨fun s a => a ∈ s.toList⟩

theorem mem_def {a : α} {s : OrderedSet α} : a ∈ s ↔ a ∈ s.toList := Iff.rfl

instance [DecidableEq α] (a : α) (s : OrderedSet α) : Decidable (a ∈ s) :=
  inferInstanceAs (Decidable (a ∈ s.toList))

/-- The set without members. -/
def empty : OrderedSet α := ⟨[], .nil⟩

instance : EmptyCollection (OrderedSet α) := ⟨empty⟩
instance : Inhabited (OrderedSet α) := ⟨empty⟩

/-! ## Insertion -/

/-- Puts a value at its place in an increasing list, unless it is there already. -/
def place (a : α) : List α → List α
  | [] => [a]
  | b :: rest =>
    match compare a b with
    | .lt => a :: b :: rest
    | .eq => b :: rest
    | .gt => b :: place a rest

variable [Std.TransOrd α] [Std.LawfulEqOrd α]

omit [Std.TransOrd α] in
theorem mem_place {a b : α} {l : List α} : b ∈ place a l ↔ b = a ∨ b ∈ l := by
  induction l with
  | nil => simp [place]
  | cons c rest ih =>
    rw [place]
    split
    · simp
    · next h =>
      have := Std.LawfulEqOrd.eq_of_compare h
      subst this; simp
    · simp [ih]; grind

theorem place_increasing {a : α} {l : List α} (h : l.Pairwise fun a b => compare a b = .lt) :
    (place a l).Pairwise fun a b => compare a b = .lt := by
  induction l with
  | nil => simp [place]
  | cons b rest ih =>
    rw [place]
    obtain ⟨hb, hrest⟩ := List.pairwise_cons.1 h
    split
    · next hab =>
      refine List.pairwise_cons.2 ⟨fun c hc => ?_, h⟩
      rcases List.mem_cons.1 hc with rfl | hc
      · exact hab
      · exact Std.TransCmp.lt_trans hab (hb c hc)
    · exact h
    · next hab =>
      refine List.pairwise_cons.2 ⟨fun c hc => ?_, ih hrest⟩
      rcases mem_place.1 hc with rfl | hc
      · exact Std.OrientedCmp.lt_of_gt hab
      · exact hb c hc

/-- The set with one more member. -/
def insert (a : α) (s : OrderedSet α) : OrderedSet α :=
  ⟨place a s.toList, place_increasing s.increasing⟩

/-- The set of the members of a list. -/
def ofList (l : List α) : OrderedSet α := l.foldr insert empty

@[simp] theorem mem_insert {a b : α} {s : OrderedSet α} : b ∈ s.insert a ↔ b = a ∨ b ∈ s :=
  mem_place

@[simp] theorem mem_ofList {a : α} {l : List α} : a ∈ ofList l ↔ a ∈ l := by
  induction l with
  | nil => simp [ofList, empty, mem_def]
  | cons b rest ih => simpa [ofList] using or_congr Iff.rfl ih

/-- Sets with the same members are equal. -/
theorem ext {s t : OrderedSet α} (h : ∀ a, a ∈ s ↔ a ∈ t) : s = t := by
  apply toList_injective
  have irrefl : ∀ a : α, compare a a ≠ .lt := fun a => by simp [Std.ReflCmp.compare_self]
  have key : ∀ l m : List α, (l.Pairwise fun a b => compare a b = .lt) →
      (m.Pairwise fun a b => compare a b = .lt) → (∀ a, a ∈ l ↔ a ∈ m) → l = m := by
    intro l
    induction l with
    | nil =>
      intro m _ _ h
      cases m with
      | nil => rfl
      | cons b m => simpa using h b
    | cons a l ih =>
      intro m hl hm h
      cases m with
      | nil => simpa using h a
      | cons b m =>
        obtain ⟨ha, hl'⟩ := List.pairwise_cons.1 hl
        obtain ⟨hb, hm'⟩ := List.pairwise_cons.1 hm
        have hab : a = b := by
          rcases List.mem_cons.1 ((h a).1 List.mem_cons_self) with e | e
          · exact e
          rcases List.mem_cons.1 ((h b).2 List.mem_cons_self) with e' | e'
          · exact e'.symm
          · exact absurd (Std.TransCmp.lt_trans (ha b e') (hb a e)) (irrefl a)
        subst hab
        congr 1
        refine ih m hl' hm' fun c => ⟨fun hc => ?_, fun hc => ?_⟩
        · rcases List.mem_cons.1 ((h c).1 (List.mem_cons_of_mem _ hc)) with e | e
          · exact absurd (e ▸ ha c hc) (irrefl a)
          · exact e
        · rcases List.mem_cons.1 ((h c).2 (List.mem_cons_of_mem _ hc)) with e | e
          · exact absurd (e ▸ hb c hc) (irrefl a)
          · exact e
  exact key _ _ s.increasing t.increasing h

end OrderedSet

end TokenConformance
