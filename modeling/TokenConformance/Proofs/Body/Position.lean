import Mathlib.Data.List.Forall2
import Mathlib.Data.List.Lex
import TokenConformance.Proofs.Body.Occurrence

/-! # Where statements stand

A statement is found by the numbers of the parts on the way down to it. In the order of these
positions a statement comes before what is inside it, and what is inside an earlier part before what
is inside a later one.

* `StandsAt`: a node of a tree, and the position at which it stands.
* `IsListing`: the places of the nodes with some property, in order and each of them once.
* `exists_listing`: what a walk collects stands in a listing, node by node.
* `Followed`: a statement with what comes after it in its list.
-/

namespace TokenConformance.Solidity

/-- The numbers of the parts on the way down from the root. -/
abbrev Position := List Nat

/-! ## Trees -/

section Tree

variable {α β : Type}

/-- The third tree stands in the first one at a position. -/
inductive StandsAt (parts : α → List α) : α → Position → α → Prop where
  | root (a : α) : StandsAt parts a [] a
  | inside {a b c : α} {i : Nat} {p : Position} (hpart : (parts a)[i]? = some b)
      (h : StandsAt parts b p c) : StandsAt parts a (i :: p) c

/-- The places in a tree at which something with a property stands: all of them, in order and each
of them once. -/
structure IsListing (parts : α → List α) (P : α → Prop) (a : α)
    (places : List (Position × α)) : Prop where
  increasing : places.Pairwise fun x y => x.1 < y.1
  mem_iff : ∀ p b, (p, b) ∈ places ↔ StandsAt parts a p b ∧ P b

/-- The places in the parts from the number `n` on, if there is a listing for each part. -/
theorem exists_listing_parts {parts : α → List α} {own : α → Option β} {collect : α → List β}
    {as : List α}
    (h : ∀ a ∈ as, ∃ places, IsListing parts (fun b => (own b).isSome) a places ∧
      List.Forall₂ (fun place x => own place.2 = some x) places (collect a)) (n : Nat) :
    ∃ places : List (Position × α), places.Pairwise (fun x y => x.1 < y.1) ∧
      (∀ p b, (p, b) ∈ places ↔ ∃ i q a, p = (n + i) :: q ∧ as[i]? = some a ∧
        StandsAt parts a q b ∧ (own b).isSome) ∧
      List.Forall₂ (fun place x => own place.2 = some x) places (as.flatMap collect) := by
  induction as generalizing n with
  | nil => exact ⟨[], .nil, by simp, .nil⟩
  | cons a as ih =>
    obtain ⟨first, hfirst, hcollect⟩ := h a List.mem_cons_self
    obtain ⟨rest, hincreasing, hmem, hrest⟩ :=
      ih (fun b hb => h b (List.mem_cons_of_mem _ hb)) (n + 1)
    refine ⟨first.map (fun place => (n :: place.1, place.2)) ++ rest, ?_, fun p b => ?_, ?_⟩
    · refine List.pairwise_append.2 ⟨?_, hincreasing, ?_⟩
      · exact List.pairwise_map.2 (hfirst.increasing.imp fun hlt => List.cons_lt_cons_self.2 hlt)
      · rintro x hx ⟨p, b⟩ hy
        obtain ⟨place, -, rfl⟩ := List.mem_map.1 hx
        obtain ⟨i, q, -, rfl, -⟩ := (hmem p b).1 hy
        exact List.cons_lt_cons_iff.2 (.inl (by omega))
    · rw [List.mem_append, hmem, List.mem_map]
      constructor
      · rintro (⟨⟨q, c⟩, hq, heq⟩ | ⟨i, q, c, rfl, hi, hq⟩)
        · obtain ⟨rfl, rfl⟩ := Prod.mk.inj heq
          exact ⟨0, q, a, rfl, rfl, (hfirst.mem_iff q c).1 hq⟩
        · exact ⟨i + 1, q, c, by rw [Nat.add_right_comm, Nat.add_assoc], hi, hq⟩
      · rintro ⟨i, q, c, rfl, hi, hq⟩
        cases i with
        | zero =>
          obtain rfl := Option.some.inj hi
          exact .inl ⟨(q, b), (hfirst.mem_iff q b).2 hq, rfl⟩
        | succ i => exact .inr ⟨i, q, c, by rw [Nat.add_right_comm, Nat.add_assoc], hi, hq⟩
    · rw [List.flatMap_cons]
      exact List.rel_append (List.forall₂_map_left_iff.2 hcollect) hrest

/-- What a walk collects, node by node, stands in a listing of the nodes that have something to
collect. -/
theorem exists_listing (size : α → Nat) {parts : α → List α} {own : α → Option β}
    {collect : α → List β} (hparts : ∀ a, ∀ b ∈ parts a, size b < size a)
    (hcollect : ∀ a, collect a = (own a).toList ++ (parts a).flatMap collect) (a : α) :
    ∃ places, IsListing parts (fun b => (own b).isSome) a places ∧
      List.Forall₂ (fun place x => own place.2 = some x) places (collect a) := by
  induction hn : size a using Nat.strongRecOn generalizing a with
  | _ n ih =>
    obtain ⟨rest, hincreasing, hmem, hrest⟩ :=
      exists_listing_parts (fun b hb => ih _ (hn ▸ hparts a b hb) b rfl) 0
    have hinside : ∀ p b, (p, b) ∈ rest ↔ p ≠ [] ∧ StandsAt parts a p b ∧ (own b).isSome := by
      intro p b
      rw [hmem]
      constructor
      · rintro ⟨i, q, c, rfl, hi, hq, hown⟩
        exact ⟨nofun, .inside (by rwa [Nat.zero_add]) hq, hown⟩
      · rintro ⟨hp, h, hown⟩
        cases h with
        | root => exact absurd rfl hp
        | @inside _ c _ i q hi hq => exact ⟨i, q, c, by rw [Nat.zero_add], hi, hq, hown⟩
    rw [hcollect a]
    cases hown : own a with
    | none =>
      refine ⟨rest, ⟨hincreasing, fun p b => ?_⟩, by simpa using hrest⟩
      rw [hinside, and_iff_right_iff_imp]
      rintro ⟨h, hb⟩ rfl
      cases h with
      | root => simp [hown] at hb
    | some x =>
      refine ⟨([], a) :: rest, ⟨List.pairwise_cons.2 ⟨?_, hincreasing⟩, fun p b => ?_⟩,
        .cons hown hrest⟩
      · rintro ⟨p, b⟩ hplace
        obtain ⟨i, q, rfl⟩ := List.exists_cons_of_ne_nil ((hinside p b).1 hplace).1
        exact List.nil_lt_cons i q
      · rw [List.mem_cons, hinside]
        constructor
        · rintro (heq | ⟨-, h⟩)
          · obtain ⟨rfl, rfl⟩ := Prod.mk.inj heq
            exact ⟨.root b, by rw [hown]; rfl⟩
          · exact h
        · rintro ⟨h, hb⟩
          cases h with
          | root => exact .inl rfl
          | inside hi hq => exact .inr ⟨nofun, .inside hi hq, hb⟩

/-- The same nodes may be told apart in another way. -/
theorem IsListing.congr {parts : α → List α} {P Q : α → Prop} {a : α}
    {places : List (Position × α)} (h : IsListing parts P a places) (hPQ : ∀ b, P b ↔ Q b) :
    IsListing parts Q a places :=
  ⟨h.increasing, fun p b => by rw [h.mem_iff, hPQ]⟩

end Tree

/-! ## Statements with what comes after them -/

/-- A statement with the statements after it in the same list. -/
structure Followed where
  statement : Statement
  later : List Statement

/-- The statements of a list, each with those after it. -/
def Followed.ofList : List Statement → List Followed
  | [] => []
  | s :: later => ⟨s, later⟩ :: ofList later

/-- The lists of statements that a statement is made of. A branch and the body of a loop are lists
of one statement. What a `for` begins with and its step are in no list. -/
def Statement.lists : Statement → List (List Statement)
  | .block statements => [statements]
  | .unchecked statements => [statements]
  | .branch _ whenTrue whenFalse => [whenTrue] :: whenFalse.toList.map ([·])
  | .forLoop _ _ _ body => [[body]]
  | .whileLoop _ body => [[body]]
  | .doWhileLoop _ body => [[body]]
  | .expression _ | .declaration _ | .ret _ | .emit _ | .revert _ | .other => []

namespace Followed

/-- The statements in the lists that a statement is made of. -/
def parts (x : Followed) : List Followed := x.statement.lists.flatMap ofList

theorem statement_mem_of_mem_ofList {x : Followed} {statements : List Statement}
    (h : x ∈ ofList statements) : x.statement ∈ statements := by
  induction statements with
  | nil => exact absurd h List.not_mem_nil
  | cons s later ih =>
    rcases List.mem_cons.1 h with rfl | h
    · exact List.mem_cons_self
    · exact List.mem_cons_of_mem _ (ih h)

theorem sizeOf_lt_of_mem_parts {x y : Followed} (h : y ∈ x.parts) :
    sizeOf y.statement < sizeOf x.statement := by
  obtain ⟨statements, hlist, hy⟩ := List.mem_flatMap.1 h
  refine Statement.sizeOf_lt_of_mem_parts ?_
  have hmem := statement_mem_of_mem_ofList hy
  cases hx : x.statement <;> rw [hx] at hlist <;>
    simp only [Statement.lists, List.mem_cons, List.mem_map, Option.mem_toList, List.not_mem_nil,
      or_false] at hlist
  case block => rw [← hlist]; exact hmem
  case unchecked => rw [← hlist]; exact hmem
  case branch whenTrue whenFalse =>
    rcases hlist with rfl | ⟨s, rfl, rfl⟩ <;> simp_all [Statement.parts]
  all_goals subst hlist; simp_all [Statement.parts]

end Followed

end TokenConformance.Solidity
