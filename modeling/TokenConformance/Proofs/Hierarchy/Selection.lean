import TokenConformance.Proofs.Hierarchy.Reordered

/-! # Which contract is flattened, and what else matters

The target is picked by its name and the path of its file, its bases by their numbers. No other
contract shows in the result:

* `IsFirst`, `target_eq_of_isFirst`: the target is the first contract with the name that matches the
  path, or else the first one with the name.
* `Unrelated`, `SameButUnrelated`: source files that may come and go, and source files in another
  order with some of these more or less.
* `candidates_perm`, `find?_contractsById_kept`: what a look-up by name or number still finds.
* `flatten_congr`: the target, its ancestry and its missing bases determine the flat contract.
* `flatten_selection`: all of it together.
-/

namespace TokenConformance.Hierarchy

open Solidity

/-! ## The first contract of its kind -/

/-- A contract is the first one in a list with a property. -/
def IsFirst (p : Located → Prop) (ls : List Located) (l : Located) : Prop :=
  ∃ before after, ls = before ++ l :: after ∧ p l ∧ ∀ b ∈ before, ¬p b

theorem find?_eq_some_iff_isFirst {p : Located → Bool} {ls : List Located} {l : Located} :
    ls.find? p = some l ↔ IsFirst (fun l => p l = true) ls l := by
  rw [List.find?_eq_some_iff_append]
  simp only [IsFirst, Bool.not_eq_true']
  constructor
  · rintro ⟨hl, before, after, hls, hbefore⟩
    exact ⟨before, after, hls, hl, fun b hb => by simp [hbefore b hb]⟩
  · rintro ⟨before, after, hls, hl, hbefore⟩
    exact ⟨hl, before, after, hls, fun b hb => by simpa using hbefore b hb⟩

theorem exists_isFirst {p : Located → Prop} [DecidablePred p] {ls : List Located}
    (h : ∃ l ∈ ls, p l) : ∃ l, IsFirst p ls l := by
  obtain ⟨l, hl, hp⟩ := h
  have hsome : (ls.find? fun l => decide (p l)).isSome :=
    List.find?_isSome.2 ⟨l, hl, decide_eq_true hp⟩
  obtain ⟨first, hfirst⟩ := Option.isSome_iff_exists.1 hsome
  refine ⟨first, ?_⟩
  simpa using find?_eq_some_iff_isFirst.1 hfirst

section Target

variable {units : List SourceUnit} {name sourcePath : String} {l : Located}

/-- A contract with a name in a file that the inspected path may mean. -/
def IsMatch (name sourcePath : String) (l : Located) : Prop :=
  l.contract.name = name ∧ pathsMatch l.path sourcePath = true

instance : DecidablePred (IsMatch name sourcePath) := fun _ => inferInstanceAs (Decidable (_ ∧ _))

theorem find?_candidates (units : List SourceUnit) (name sourcePath : String) :
    ((contracts units).filter fun c => c.contract.name = name).find?
        (fun c => pathsMatch c.path sourcePath) =
      (contracts units).find? fun c => decide (IsMatch name sourcePath c) := by
  rw [List.find?_filter]
  refine congrArg (List.find? · _) (funext fun c => ?_)
  rw [Bool.eq_iff_iff]
  simp only [decide_eq_true_iff]
  exact Iff.rfl

theorem target_eq_of_isMatch (h : IsFirst (IsMatch name sourcePath) (contracts units) l) :
    target units name sourcePath = .ok l := by
  have hfind : (contracts units).find? (fun c => decide (IsMatch name sourcePath c)) = some l :=
    find?_eq_some_iff_isFirst.2 (by simpa using h)
  rw [target_eq_ok_iff]
  dsimp only
  rw [find?_candidates, hfind, Option.some_or]

theorem target_eq_of_isFirst (hnone : ∀ c ∈ contracts units, ¬IsMatch name sourcePath c)
    (h : IsFirst (fun c => c.contract.name = name) (contracts units) l) :
    target units name sourcePath = .ok l := by
  have hfind : (contracts units).find? (fun c => decide (IsMatch name sourcePath c)) = none :=
    List.find?_eq_none.2 fun c hc => by simpa using hnone c hc
  have hhead : (contracts units).find? (fun c => decide (c.contract.name = name)) = some l :=
    find?_eq_some_iff_isFirst.2 (by simpa using h)
  rw [target_eq_ok_iff]
  dsimp only
  rw [find?_candidates, hfind, Option.none_or, List.head?_filter, hhead]

theorem mem_contracts_iff :
    l ∈ contracts units ↔ ∃ u ∈ units, SourceMember.contract l.contract ∈ u.members ∧
      l.path = u.path := by
  simp only [contracts, List.mem_flatMap, contractsOf, List.mem_filterMap]
  constructor
  · rintro ⟨u, hu, m, hm, hl⟩
    cases m with
    | contract c =>
      obtain rfl := Option.some.inj hl
      exact ⟨u, hu, hm, rfl⟩
    | other => exact absurd hl (by simp)
  · rintro ⟨u, hu, hm, hpath⟩
    refine ⟨u, hu, _, hm, ?_⟩
    rw [← hpath]

end Target

/-! ## Source files that do not matter -/

/-- A source file without a contract of a name or of some numbers. -/
def Unrelated (name : String) (ids : List NodeId) (u : SourceUnit) : Prop :=
  ∀ c, .contract c ∈ u.members → c.name ≠ name ∧ c.id ∉ ids

/-- The same source files in whatever order, with some unrelated ones more and some less. -/
def SameButUnrelated (name : String) (ids : List NodeId) (units units' : List SourceUnit) : Prop :=
  ∃ kept removed added, units.Perm (kept ++ removed) ∧ units'.Perm (kept ++ added) ∧
    (∀ u ∈ removed, Unrelated name ids u) ∧ ∀ u ∈ added, Unrelated name ids u

/-- Every contract has a number of its own. -/
def DistinctContracts (units : List SourceUnit) : Prop :=
  (contracts units).Pairwise fun a b => a.contract.id ≠ b.contract.id

section Unrelated

variable {units kept others : List SourceUnit} {name : String} {ids : List NodeId}

theorem contracts_perm (h : units.Perm (kept ++ others)) :
    (contracts units).Perm (contracts kept ++ contracts others) := by
  rw [← show contracts (kept ++ others) = contracts kept ++ contracts others from
    List.flatMap_append]
  exact h.flatMap_right _

theorem of_mem_unrelated (h : ∀ u ∈ others, Unrelated name ids u) {l : Located}
    (hl : l ∈ contracts others) : l.contract.name ≠ name ∧ l.contract.id ∉ ids := by
  obtain ⟨u, hu, hm, -⟩ := mem_contracts_iff.1 hl
  exact h u hu _ hm

theorem candidates_perm (h : units.Perm (kept ++ others))
    (hothers : ∀ u ∈ others, Unrelated name ids u) :
    ((contracts units).filter fun c => c.contract.name = name).Perm
      ((contracts kept).filter fun c => c.contract.name = name) := by
  have hnone : ((contracts others).filter fun c => c.contract.name = name) = [] :=
    List.filter_eq_nil_iff.2 fun l hl => by simpa using (of_mem_unrelated hothers hl).1
  have hperm := (contracts_perm h).filter fun c => c.contract.name = name
  rwa [List.filter_append, hnone, List.append_nil] at hperm

/-- A number of the lineage leads to a contract of the files that are kept. -/
theorem find?_contractsById_kept (h : units.Perm (kept ++ others))
    (hothers : ∀ u ∈ others, Unrelated name ids u) (hdistinct : DistinctContracts units)
    {id : NodeId} (hid : id ∈ ids) :
    (contractsById units).find? id = (contracts kept).find? fun l => l.contract.id = id := by
  have hperm : (contracts units).reverse.Perm (contracts kept ++ contracts others) :=
    (List.reverse_perm _).trans (contracts_perm h)
  have hreverse : (contracts units).reverse.Pairwise fun a b => a.contract.id ≠ b.contract.id :=
    List.pairwise_reverse.2 (hdistinct.imp Ne.symm)
  have hnone : ((contracts others).find? fun l => l.contract.id = id) = none :=
    List.find?_eq_none.2 fun l hl => by
      simpa using fun heq : l.contract.id = id => (of_mem_unrelated hothers hl).2 (heq ▸ hid)
  rw [find?_contractsById, find?_of_perm hperm hreverse, List.find?_append, hnone, Option.or_none]

end Unrelated

section Frame

variable {units units' : List SourceUnit} {name sourcePath : String} {t : Located}

theorem target_of_candidates
    (h : ((contracts units).filter fun c => c.contract.name = name) = [t]) :
    target units name sourcePath = .ok t := by
  rw [target_eq_ok_iff]
  dsimp only
  rw [h]
  cases hfind : [t].find? fun c => pathsMatch c.path sourcePath with
  | none => rfl
  | some l => rw [List.mem_singleton.1 (List.mem_of_find?_eq_some hfind), Option.some_or]

/-- The target, its ancestry and its missing bases determine the flat contract. -/
theorem flatten_congr (ht : target units name sourcePath = .ok t)
    (ht' : target units' name sourcePath = .ok t)
    (hancestry : ancestry units' t.contract = ancestry units t.contract)
    (hmissing : missingBases units' t.contract = missingBases units t.contract)
    (libraryPrefixes : List String) :
    flatten units' name sourcePath libraryPrefixes =
      flatten units name sourcePath libraryPrefixes := by
  simp only [flatten, ht, ht', bind, Except.bind, hancestry, hmissing]

theorem flatten_of_sameButUnrelated (hdistinct : DistinctContracts units)
    (hdistinct' : DistinctContracts units')
    (ht : ((contracts units).filter fun c => c.contract.name = name) = [t])
    (h : SameButUnrelated name (lineage t.contract) units units') (libraryPrefixes : List String) :
    flatten units' name sourcePath libraryPrefixes =
      flatten units name sourcePath libraryPrefixes := by
  obtain ⟨kept, removed, added, hunits, hunits', hremoved, hadded⟩ := h
  have ht' : ((contracts units').filter fun c => c.contract.name = name) = [t] := by
    rw [← List.perm_singleton, ← ht]
    exact (candidates_perm hunits' hadded).trans (candidates_perm hunits hremoved).symm
  have hfind : ∀ id ∈ lineage t.contract,
      (contractsById units').find? id = (contractsById units).find? id := by
    intro id hid
    rw [find?_contractsById_kept hunits hremoved hdistinct hid,
      find?_contractsById_kept hunits' hadded hdistinct' hid]
  exact flatten_congr (target_of_candidates ht) (target_of_candidates ht')
    (List.filterMap_congr hfind) (List.filter_congr fun id hid => by rw [hfind id hid])
    libraryPrefixes

end Frame

/-! ## The contract that is flattened -/

section Chosen

variable {units : List SourceUnit} {name sourcePath : String} {libraryPrefixes : List String}
  {t : Located}

/-- A result of flattening is that of a contract: the flat contract made of it and its ancestry, or
what is malformed there. -/
structure IsResultFor (units : List SourceUnit) (name sourcePath : String)
    (libraryPrefixes : List String) (t : Located) (result : Except SourceFailure FlatContract) :
    Prop where
  ok : ∀ c, result = .ok c →
    ∃ hierarchy cs, Flattening units name sourcePath libraryPrefixes t hierarchy cs c
  error : ∀ failure, result = .error failure →
    shapedCallables (members (ancestry units t.contract)) = .error failure

theorem isResultFor_of_target (ht : target units name sourcePath = .ok t) :
    IsResultFor units name sourcePath libraryPrefixes t
      (flatten units name sourcePath libraryPrefixes) where
  ok := by
    intro c hc
    obtain ⟨t', hierarchy, cs, h⟩ := exists_flattening hc
    obtain rfl := Except.ok.inj (ht.symm.trans h.target)
    exact ⟨hierarchy, cs, h⟩
  error := by
    intro failure hfailure
    rcases flatten_eq_error_iff.1 hfailure with hnone | ⟨t', ht', hmalformed⟩
    · exact absurd (ht.symm.trans hnone) (by simp)
    · obtain rfl := Except.ok.inj (ht.symm.trans ht')
      exact hmalformed

end Chosen

/-- Where contracts have numbers of their own and one of them has the name, source files without
that name and without the bases of the contract change nothing, and neither does the order of files.
Of several contracts with the name, the first one in a file that the path may mean is flattened, and
if there is none, the first one at all. -/
theorem flatten_selection (name sourcePath : String) (libraryPrefixes : List String) :
    (∀ units units' t, DistinctContracts units → DistinctContracts units' →
      ((contracts units).filter fun c => c.contract.name = name) = [t] →
      SameButUnrelated name (lineage t.contract) units units' →
      flatten units' name sourcePath libraryPrefixes =
        flatten units name sourcePath libraryPrefixes) ∧
    (∀ units, (∃ l ∈ contracts units, IsMatch name sourcePath l) →
      ∃ t, IsFirst (IsMatch name sourcePath) (contracts units) t ∧
        IsResultFor units name sourcePath libraryPrefixes t
          (flatten units name sourcePath libraryPrefixes)) ∧
    ∀ units, (∀ l ∈ contracts units, ¬IsMatch name sourcePath l) →
      (∃ l ∈ contracts units, l.contract.name = name) →
      ∃ t, IsFirst (fun l => l.contract.name = name) (contracts units) t ∧
        IsResultFor units name sourcePath libraryPrefixes t
          (flatten units name sourcePath libraryPrefixes) := by
  refine ⟨fun units units' t hdistinct hdistinct' ht h => ?_, fun units hmatch => ?_,
    fun units hnone hnamed => ?_⟩
  · exact flatten_of_sameButUnrelated hdistinct hdistinct' ht h libraryPrefixes
  · obtain ⟨t, ht⟩ := exists_isFirst hmatch
    exact ⟨t, ht, isResultFor_of_target (target_eq_of_isMatch ht)⟩
  · obtain ⟨t, ht⟩ := exists_isFirst hnamed
    exact ⟨t, ht, isResultFor_of_target (target_eq_of_isFirst hnone ht)⟩

/-! ## The small token among other files -/

namespace Sample

def stranger : ContractDefinition where
  id := 30
  name := "Stranger"
  kind := "library"
  isAbstract := false
  linearizedBases := [30, 1]
  members := [.function { transfer with visibility := "friendly" }]

def crowd : List SourceUnit :=
  [⟨"Token.sol", [.contract token]⟩, ⟨"Stranger.sol", [.contract stranger]⟩,
    ⟨"lib/Base.sol", [.contract base]⟩]

theorem sameButUnrelated_crowd : SameButUnrelated "Token" [6, 1] units crowd := by
  refine ⟨units, [], [⟨"Stranger.sol", [.contract stranger]⟩], ?_, ?_, ?_, ?_⟩
  · rw [List.append_nil]
  · exact (List.reverse_perm _).symm.trans (.cons _ (.swap _ _ _))
  · exact fun u hu => absurd hu List.not_mem_nil
  · intro u hu c hc
    obtain rfl := List.mem_singleton.1 hu
    obtain rfl := SourceMember.contract.inj (List.mem_singleton.1 hc)
    decide

/-- A malformed stranger changes nothing. -/
theorem flatten_crowd :
    DistinctContracts units ∧ DistinctContracts crowd ∧
      ((contracts units).filter fun c => c.contract.name = "Token") = [⟨token, "Token.sol"⟩] ∧
      SameButUnrelated "Token" (lineage token) units crowd ∧
      flatten crowd "Token" "Token.sol" ["lib/"] = flatten units "Token" "Token.sol" ["lib/"] ∧
      ∃ t, IsFirst (IsMatch "Token" "Token.sol") (contracts crowd) t ∧
        IsResultFor crowd "Token" "Token.sol" ["lib/"] t
          (flatten crowd "Token" "Token.sol" ["lib/"]) := by
  have hdistinct : DistinctContracts units := by
    simp [DistinctContracts, contracts, contractsOf, units, token, base]
  have hdistinct' : DistinctContracts crowd := by
    simp [DistinctContracts, contracts, contractsOf, crowd, token, base, stranger]
  have hmatch : ∃ l ∈ contracts crowd, IsMatch "Token" "Token.sol" l :=
    ⟨⟨token, "Token.sol"⟩, List.mem_cons_self, by decide⟩
  obtain ⟨hframe, hfirst, -⟩ := flatten_selection "Token" "Token.sol" ["lib/"]
  exact ⟨hdistinct, hdistinct', rfl, sameButUnrelated_crowd,
    hframe _ _ _ hdistinct hdistinct' rfl sameButUnrelated_crowd, hfirst crowd hmatch⟩

end Sample

end TokenConformance.Hierarchy
