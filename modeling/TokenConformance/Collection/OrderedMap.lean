/-! # Finite maps in increasing order of their keys

A map is the list of its entries with strictly increasing keys, so two maps with the same entries
are equal.

* `OrderedMap`: the type, with `find?`, `insert`, `ofList` and `keys`.
* `find?_insert`: what insertion does to a look-up.
* `ofGroups`: all values of a key, in their order, in one list.
-/

namespace TokenConformance

/-- A finite map, as the list of its entries in strictly increasing order of their keys. -/
structure OrderedMap (κ ν : Type) [Ord κ] where
  entries : List (κ × ν)
  increasing : entries.Pairwise fun a b => compare a.1 b.1 = .lt

namespace OrderedMap

variable {κ ν : Type} [Ord κ]

theorem entries_injective {m n : OrderedMap κ ν} (h : m.entries = n.entries) : m = n := by
  cases m; cases n; cases h; rfl

instance [DecidableEq κ] [DecidableEq ν] : DecidableEq (OrderedMap κ ν) := fun m n =>
  decidable_of_iff (m.entries = n.entries) ⟨entries_injective, fun h => h ▸ rfl⟩

/-- The map without entries. -/
def empty : OrderedMap κ ν := ⟨[], .nil⟩

instance : EmptyCollection (OrderedMap κ ν) := ⟨empty⟩
instance : Inhabited (OrderedMap κ ν) := ⟨empty⟩

/-- The keys in increasing order. -/
def keys (m : OrderedMap κ ν) : List κ := m.entries.map (·.1)

/-- The value of a key. -/
def find? [DecidableEq κ] (m : OrderedMap κ ν) (k : κ) : Option ν :=
  (m.entries.find? fun e => e.1 = k).map (·.2)

theorem mem_keys_of_find? [DecidableEq κ] {m : OrderedMap κ ν} {k : κ} {v : ν}
    (h : m.find? k = some v) : k ∈ m.keys := by
  obtain ⟨e, he, -⟩ := Option.map_eq_some_iff.1 h
  have hk : e.1 = k := by simpa using List.find?_some he
  exact hk ▸ List.mem_map_of_mem (List.mem_of_find?_eq_some he)

/-! ## Insertion -/

/-- Puts an entry at its place in a list with increasing keys, over an entry of the same key. -/
def place (k : κ) (v : ν) : List (κ × ν) → List (κ × ν)
  | [] => [(k, v)]
  | e :: rest =>
    match compare k e.1 with
    | .lt => (k, v) :: e :: rest
    | .eq => (k, v) :: rest
    | .gt => e :: place k v rest

theorem fst_mem_of_mem_place {k : κ} {v : ν} {e : κ × ν} {l : List (κ × ν)}
    (h : e ∈ place k v l) : e.1 = k ∨ e ∈ l := by
  induction l with
  | nil => simp_all [place]
  | cons d rest ih =>
    rw [place] at h
    split at h
    · rcases List.mem_cons.1 h with rfl | h
      · exact .inl rfl
      · exact .inr h
    · rcases List.mem_cons.1 h with rfl | h
      · exact .inl rfl
      · exact .inr (List.mem_cons_of_mem _ h)
    · rcases List.mem_cons.1 h with rfl | h
      · exact .inr List.mem_cons_self
      · exact (ih h).imp_right (List.mem_cons_of_mem _)

variable [Std.TransOrd κ] [Std.LawfulEqOrd κ]

theorem place_increasing {k : κ} {v : ν} {l : List (κ × ν)}
    (h : l.Pairwise fun a b => compare a.1 b.1 = .lt) :
    (place k v l).Pairwise fun a b => compare a.1 b.1 = .lt := by
  induction l with
  | nil => simp [place]
  | cons e rest ih =>
    rw [place]
    obtain ⟨he, hrest⟩ := List.pairwise_cons.1 h
    split
    · next hk =>
      refine List.pairwise_cons.2 ⟨fun d hd => ?_, h⟩
      rcases List.mem_cons.1 hd with rfl | hd
      · exact hk
      · exact Std.TransCmp.lt_trans hk (he d hd)
    · next hk =>
      have := Std.LawfulEqOrd.eq_of_compare hk
      exact List.pairwise_cons.2 ⟨fun d hd => this ▸ he d hd, hrest⟩
    · next hk =>
      refine List.pairwise_cons.2 ⟨fun d hd => ?_, ih hrest⟩
      rcases fst_mem_of_mem_place hd with hd | hd
      · rw [hd]; exact Std.OrientedCmp.lt_of_gt hk
      · exact he d hd

/-- The map with a value for a key, in the place of any value that the key had. -/
def insert (k : κ) (v : ν) (m : OrderedMap κ ν) : OrderedMap κ ν :=
  ⟨place k v m.entries, place_increasing m.increasing⟩

/-- The map of a list of entries. Of two entries with one key the later one counts. -/
def ofList (l : List (κ × ν)) : OrderedMap κ ν := l.foldl (fun m e => m.insert e.1 e.2) empty

/-- The map that takes every key of a list of pairs to the list of its values. -/
def ofGroups [DecidableEq κ] (l : List (κ × ν)) : OrderedMap κ (List ν) :=
  l.foldl (fun m e => m.insert e.1 ((m.find? e.1).getD [] ++ [e.2])) empty

omit [Std.TransOrd κ] [Std.LawfulEqOrd κ] in
@[simp] theorem find?_empty [DecidableEq κ] (k : κ) : (empty : OrderedMap κ ν).find? k = none := rfl

theorem find?_insert [DecidableEq κ] (m : OrderedMap κ ν) (k l : κ) (v : ν) :
    (m.insert k v).find? l = if l = k then some v else m.find? l := by
  obtain ⟨es, hes⟩ := m
  simp only [insert, find?]
  induction es with
  | nil => by_cases h : l = k <;> simp [place, h, eq_comm (a := k)]
  | cons e rest ih =>
    have ih := ih (List.pairwise_cons.1 hes).2
    obtain ⟨j, w⟩ := e
    rw [place]
    split
    · by_cases h : l = k <;> simp [h, eq_comm (a := k)]
    · next hk =>
      have hk : k = j := Std.LawfulEqOrd.eq_of_compare hk
      subst hk
      by_cases h : l = k <;> simp [h, eq_comm (a := k)]
    · next hk =>
      have hne : j ≠ k := fun e => by simp [e, Std.ReflCmp.compare_self] at hk
      by_cases h : j = l
      · subst h; simp [hne]
      · simp [h, ih]

/-! ## Lists of entries -/

omit [Std.TransOrd κ] [Std.LawfulEqOrd κ] in
theorem mem_keys_iff [DecidableEq κ] {m : OrderedMap κ ν} {k : κ} :
    k ∈ m.keys ↔ (m.find? k).isSome := by
  constructor
  · intro h
    obtain ⟨e, he, rfl⟩ := List.mem_map.1 h
    simpa [find?] using ⟨e.2, he⟩
  · intro h
    obtain ⟨v, hv⟩ := Option.isSome_iff_exists.1 h
    exact mem_keys_of_find? hv

theorem find?_foldl_insert [DecidableEq κ] (l : List (κ × ν)) (m : OrderedMap κ ν) (k : κ) :
    (l.foldl (fun m e => m.insert e.1 e.2) m).find? k =
      ((l.reverse.find? fun e => e.1 = k).map (·.2)).or (m.find? k) := by
  induction l generalizing m with
  | nil => simp
  | cons e rest ih =>
    rw [List.foldl_cons, ih, find?_insert, List.reverse_cons, List.find?_append]
    cases hrest : rest.reverse.find? fun e => e.1 = k with
    | some d => simp
    | none => by_cases hk : k = e.1 <;> simp [hk, eq_comm (b := k)]

/-- Of the entries of a list with one key the last one counts. -/
theorem find?_ofList [DecidableEq κ] (l : List (κ × ν)) (k : κ) :
    (ofList l).find? k = (l.reverse.find? fun e => e.1 = k).map (·.2) := by
  simp [ofList, find?_foldl_insert]

/-- Every key has all the values that stand with it, in their order. -/
theorem find?_ofGroups [DecidableEq κ] (l : List (κ × ν)) (k : κ) :
    ((ofGroups l).find? k).getD [] = (l.filter fun e => e.1 = k).map (·.2) := by
  have key : ∀ m : OrderedMap κ (List ν),
      ((l.foldl (fun m e => m.insert e.1 ((m.find? e.1).getD [] ++ [e.2])) m).find? k).getD [] =
        (m.find? k).getD [] ++ (l.filter fun e => e.1 = k).map (·.2) := by
    induction l with
    | nil => simp
    | cons e rest ih =>
      intro m
      rw [List.foldl_cons, ih, find?_insert]
      by_cases hk : e.1 = k
      · simp [hk]
      · simp [hk, eq_comm (a := k)]
  simpa [ofGroups] using key empty

end OrderedMap

end TokenConformance
