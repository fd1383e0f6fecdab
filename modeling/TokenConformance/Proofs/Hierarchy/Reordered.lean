import Mathlib.Data.List.Forall2
import TokenConformance.Proofs.Collection.Reordering
import TokenConformance.Proofs.Hierarchy.MostDerived

/-! # Contracts with their members in another order

Which contracts make up a hierarchy does not depend on the order of their members:

* `ReorderedContract`, `ReorderedUnit`, `ReorderedLocated`: the relation, from contracts up to
  source files.
* `contracts_reordered`, `target_of_reordered`, `ancestry_reordered`, `missingBases_eq`: the parts of
  a hierarchy, one by one.
* `declared`, `blocks`: what the contracts of a hierarchy declare of one kind, at once and contract by
  contract.
* `declared_perm`, `firstBy_declared_perm`: what becomes of it.
-/

namespace TokenConformance.Hierarchy

open Solidity

/-! ## The relation -/

/-- A contract with its members in another order. -/
structure ReorderedContract (c c' : ContractDefinition) : Prop where
  id : c'.id = c.id
  name : c'.name = c.name
  kind : c'.kind = c.kind
  isAbstract : c'.isAbstract = c.isAbstract
  linearizedBases : c'.linearizedBases = c.linearizedBases
  members : c.members.Perm c'.members

/-- A member of a source file; if it is a contract, with its members in another order. -/
inductive ReorderedMember : SourceMember → SourceMember → Prop where
  | contract {c c' : ContractDefinition} (h : ReorderedContract c c') :
      ReorderedMember (.contract c) (.contract c')
  | other : ReorderedMember .other .other

/-- A source file with the members of its contracts in another order. -/
structure ReorderedUnit (u u' : SourceUnit) : Prop where
  path : u'.path = u.path
  members : List.Forall₂ ReorderedMember u.members u'.members

/-- A contract of a source file, with its members in another order. -/
structure ReorderedLocated (l l' : Located) : Prop where
  path : l'.path = l.path
  contract : ReorderedContract l.contract l'.contract

/-! ## Look-ups in lists that are related one by one -/

section Related

variable {α β : Type} {R : α → β → Prop} {l : List α} {m : List β}

theorem head?_of_related (h : List.Forall₂ R l m) : Option.Rel R l.head? m.head? := by
  cases h with
  | nil => exact .none
  | cons hab _ => exact .some hab

theorem or_of_related {x y : Option α} {x' y' : Option β} (hx : Option.Rel R x x')
    (hy : Option.Rel R y y') : Option.Rel R (x.or y) (x'.or y') := by
  cases hx with
  | none => simpa using hy
  | some hab => exact .some hab

theorem exists_of_related_some {a : α} {y : Option β} (h : Option.Rel R (some a) y) :
    ∃ b, y = some b ∧ R a b := by
  cases h with
  | some hab => exact ⟨_, rfl, hab⟩

theorem isNone_of_related {x : Option α} {y : Option β} (h : Option.Rel R x y) :
    y.isNone = x.isNone := by
  cases h <;> rfl

end Related

/-! ## The contracts of a hierarchy -/

variable {units units' : List SourceUnit}

theorem contractsOf_reordered {u u' : SourceUnit} (h : ReorderedUnit u u') :
    List.Forall₂ ReorderedLocated (contractsOf u) (contractsOf u') := by
  refine List.rel_filterMap ?_ h.members
  intro m m' hm
  cases hm with
  | contract hc => exact .some ⟨h.path, hc⟩
  | other => exact .none

theorem contracts_reordered (h : List.Forall₂ ReorderedUnit units units') :
    List.Forall₂ ReorderedLocated (contracts units) (contracts units') :=
  List.rel_flatMap h fun _ _ => contractsOf_reordered

theorem target_eq_ok_iff {units : List SourceUnit} {name sourcePath : String} {t : Located} :
    target units name sourcePath = .ok t ↔
      let candidates := (contracts units).filter fun c => c.contract.name = name
      ((candidates.find? fun c => pathsMatch c.path sourcePath).or candidates.head?) = some t := by
  unfold target
  dsimp only
  split
  · next c hc => rw [hc, Except.ok.injEq, Option.some.injEq]
  · next hnone => rw [hnone]; simp

theorem target_of_reordered (h : List.Forall₂ ReorderedUnit units units') {name sourcePath : String}
    {t : Located} (ht : target units name sourcePath = .ok t) :
    ∃ t', target units' name sourcePath = .ok t' ∧ ReorderedLocated t t' := by
  have hnamed : List.Forall₂ ReorderedLocated
      ((contracts units).filter fun c => c.contract.name = name)
      ((contracts units').filter fun c => c.contract.name = name) :=
    List.rel_filter (fun l l' hl => by simp [hl.contract.name]) (contracts_reordered h)
  have hchoice := or_of_related
    (find?_of_related hnamed (p := fun c => pathsMatch c.path sourcePath)
      (q := fun c => pathsMatch c.path sourcePath) fun l l' hl => by rw [hl.path])
    (head?_of_related hnamed)
  rw [target_eq_ok_iff.1 ht] at hchoice
  obtain ⟨t', ht', htt'⟩ := exists_of_related_some hchoice
  exact ⟨t', target_eq_ok_iff.2 ht', htt'⟩

theorem lineage_eq {c c' : ContractDefinition} (h : ReorderedContract c c') :
    lineage c' = lineage c := by
  rw [lineage, lineage, h.linearizedBases, h.id]

theorem find?_contractsById_reordered (h : List.Forall₂ ReorderedUnit units units') (id : NodeId) :
    Option.Rel ReorderedLocated ((contractsById units).find? id)
      ((contractsById units').find? id) := by
  rw [find?_contractsById, find?_contractsById]
  exact find?_of_related (List.rel_reverse (contracts_reordered h))
    fun l l' hl => by rw [hl.contract.id]

variable {c c' : ContractDefinition}

theorem ancestry_reordered (h : List.Forall₂ ReorderedUnit units units')
    (hc : ReorderedContract c c') :
    List.Forall₂ ReorderedLocated (ancestry units c) (ancestry units' c') := by
  rw [ancestry, ancestry, lineage_eq hc]
  refine List.rel_filterMap (R := Eq) ?_ (List.forall₂_refl _)
  rintro id _ rfl
  exact find?_contractsById_reordered h id

theorem missingBases_eq (h : List.Forall₂ ReorderedUnit units units')
    (hc : ReorderedContract c c') : missingBases units' c' = missingBases units c := by
  rw [missingBases, missingBases, lineage_eq hc]
  exact List.filter_congr fun id _ => isNone_of_related (find?_contractsById_reordered h id)

/-! ## What the contracts declare -/

section Declared

variable {α κ : Type} {hierarchy hierarchy' : List Located}
  {f : Located → ContractMember → Option α}

theorem mem_members_iff {l : Located} {m : ContractMember} :
    (l, m) ∈ members hierarchy ↔ l ∈ hierarchy ∧ m ∈ l.contract.members := by
  simp only [members, List.mem_flatMap, List.mem_map, Prod.mk.injEq]
  constructor
  · rintro ⟨l, hl, m, hm, rfl, rfl⟩
    exact ⟨hl, hm⟩
  · rintro ⟨hl, hm⟩
    exact ⟨l, hl, m, hm, rfl, rfl⟩

theorem exists_member_of_reordered (h : List.Forall₂ ReorderedLocated hierarchy hierarchy')
    {l' : Located} {m : ContractMember} (hm : (l', m) ∈ members hierarchy') :
    ∃ l, (l, m) ∈ members hierarchy ∧ ReorderedLocated l l' := by
  obtain ⟨hl', hm⟩ := mem_members_iff.1 hm
  obtain ⟨l, hl, hll'⟩ : ∃ l ∈ hierarchy, ReorderedLocated l l' := exists_of_forall₂ h.flip hl'
  exact ⟨l, mem_members_iff.2 ⟨hl, hll'.contract.members.mem_iff.2 hm⟩, hll'⟩

/-- What the contracts of a hierarchy declare of one kind, in a block for each contract. -/
def blocks (f : Located → ContractMember → Option α) (hierarchy : List Located) :
    List (List α) :=
  hierarchy.map fun l => l.contract.members.filterMap (f l)

/-- What the contracts of a hierarchy declare of one kind. -/
def declared (f : Located → ContractMember → Option α) (hierarchy : List Located) : List α :=
  (members hierarchy).filterMap fun m => f m.1 m.2

theorem filterMap_members {g : LocatedMember → Option α} (h : ∀ l m, g (l, m) = f l m) :
    (members hierarchy).filterMap g = declared f hierarchy :=
  List.filterMap_congr fun m _ => h m.1 m.2

theorem declared_eq_flatten (f : Located → ContractMember → Option α) (hierarchy : List Located) :
    declared f hierarchy = (blocks f hierarchy).flatten := by
  rw [declared, members, List.filterMap_flatMap, blocks, ← List.flatMap_def]
  exact List.flatMap_congr fun l _ => List.filterMap_map

/-- Reordering the members of the contracts reorders every block in itself. -/
theorem blocks_perm (h : List.Forall₂ ReorderedLocated hierarchy hierarchy')
    (hf : ∀ l l', ReorderedLocated l l' → f l' = f l) :
    List.Forall₂ List.Perm (blocks f hierarchy) (blocks f hierarchy') := by
  rw [blocks, blocks, List.forall₂_map_left_iff, List.forall₂_map_right_iff]
  exact h.imp fun l l' hl => hf l l' hl ▸ hl.contract.members.filterMap (f l)

theorem declared_perm (h : List.Forall₂ ReorderedLocated hierarchy hierarchy')
    (hf : ∀ l l', ReorderedLocated l l' → f l' = f l) :
    (declared f hierarchy).Perm (declared f hierarchy') := by
  rw [declared_eq_flatten, declared_eq_flatten]
  exact List.Perm.flatten_congr (blocks_perm h hf)

/-- Of every key the first declaration stays, if no contract declares a key twice. -/
theorem firstBy_declared_perm [DecidableEq κ] {key : α → κ}
    (h : List.Forall₂ ReorderedLocated hierarchy hierarchy')
    (hf : ∀ l l', ReorderedLocated l l' → f l' = f l)
    (hkey : ∀ l ∈ hierarchy,
      (l.contract.members.filterMap (f l)).Pairwise fun a b => key a ≠ key b) :
    (firstBy key (declared f hierarchy)).Perm (firstBy key (declared f hierarchy')) := by
  rw [declared_eq_flatten, declared_eq_flatten]
  refine firstBy_perm (find?_flatten_of_perm (blocks_perm h hf) fun b hb => ?_)
  obtain ⟨l, hl, rfl⟩ := List.mem_map.1 hb
  exact hkey l hl

end Declared

end TokenConformance.Hierarchy
