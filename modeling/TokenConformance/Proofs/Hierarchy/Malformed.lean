import TokenConformance.Proofs.Hierarchy.Selection
import TokenConformance.Proofs.Text.ByteOrder

/-! # When there is no flat contract

Flattening fails for one of two reasons: no contract has the name, or a function of the hierarchy
has an attribute that is unknown. Nothing else in the compiler output makes it fail.

* `DeclaresContract`, `IsTarget`: the contracts of the compiler output, and the one that is chosen.
* `IsMalformed`, `Complaint`: definitions with an unknown attribute, and what is told of them.
* `IsFirstMalformed`: the first such definition, contract by contract and then in the order of the
  text. Whether an override hides it does not matter.
* `target_eq_error_iff`, `shapedCallables_eq_error_iff`: the two steps that can fail.
* `flatten_fails_iff`: when each of the reasons is given, and with what text.
-/

namespace TokenConformance.Hierarchy

open Solidity

/-! ## The contract that is chosen -/

section Target

variable {units : List SourceUnit} {name sourcePath : String} {t : Located}

/-- A source file declares a contract. -/
def DeclaresContract (units : List SourceUnit) (c : ContractDefinition) : Prop :=
  ∃ u ∈ units, .contract c ∈ u.members

/-- The contract that is chosen for a name: the first one in a file that the inspected path may
mean, or else the first one at all. -/
def IsTarget (units : List SourceUnit) (name sourcePath : String) (t : Located) : Prop :=
  IsFirst (IsMatch name sourcePath) (contracts units) t ∨
    (∀ l ∈ contracts units, ¬IsMatch name sourcePath l) ∧
      IsFirst (fun l => l.contract.name = name) (contracts units) t

theorem declaresContract_iff {c : ContractDefinition} :
    DeclaresContract units c ↔ ∃ l ∈ contracts units, l.contract = c := by
  constructor
  · rintro ⟨u, hu, hc⟩
    exact ⟨⟨c, u.path⟩, mem_contracts_iff.2 ⟨u, hu, hc, rfl⟩, rfl⟩
  · rintro ⟨l, hl, rfl⟩
    obtain ⟨u, hu, hc, -⟩ := mem_contracts_iff.1 hl
    exact ⟨u, hu, hc⟩

theorem exists_declared_iff {p : ContractDefinition → Prop} :
    (∃ c, DeclaresContract units c ∧ p c) ↔ ∃ l ∈ contracts units, p l.contract := by
  simp only [declaresContract_iff]
  constructor
  · rintro ⟨c, ⟨l, hl, rfl⟩, hc⟩
    exact ⟨l, hl, hc⟩
  · rintro ⟨l, hl, hc⟩
    exact ⟨l.contract, ⟨l, hl, rfl⟩, hc⟩

theorem exists_isTarget (h : ∃ l ∈ contracts units, l.contract.name = name) (sourcePath : String) :
    ∃ t, IsTarget units name sourcePath t := by
  by_cases hmatch : ∃ l ∈ contracts units, IsMatch name sourcePath l
  · obtain ⟨t, ht⟩ := exists_isFirst hmatch
    exact ⟨t, .inl ht⟩
  · obtain ⟨t, ht⟩ := exists_isFirst h
    exact ⟨t, .inr ⟨fun l hl hl' => hmatch ⟨l, hl, hl'⟩, ht⟩⟩

theorem IsTarget.target_eq (h : IsTarget units name sourcePath t) :
    target units name sourcePath = .ok t := by
  rcases h with h | ⟨hnone, h⟩
  · exact target_eq_of_isMatch h
  · exact target_eq_of_isFirst hnone h

theorem IsTarget.exists_declared (h : IsTarget units name sourcePath t) :
    ∃ c, DeclaresContract units c ∧ c.name = name := by
  rw [exists_declared_iff]
  rcases h with ⟨before, after, hcontracts, ht, -⟩ | ⟨-, before, after, hcontracts, ht, -⟩
  · exact ⟨t, hcontracts ▸ List.mem_append_right _ List.mem_cons_self, ht.1⟩
  · exact ⟨t, hcontracts ▸ List.mem_append_right _ List.mem_cons_self, ht⟩

theorem target_eq_error_iff {failure : SourceFailure} :
    target units name sourcePath = .error failure ↔
      (∀ l ∈ contracts units, l.contract.name ≠ name) ∧
        failure = .contractNotFound name
          (OrderedSet.ofList ((contracts units).map (·.contract.name))).toList := by
  by_cases hnamed : ∃ l ∈ contracts units, l.contract.name = name
  · obtain ⟨t, ht⟩ := exists_isTarget hnamed sourcePath
    obtain ⟨l, hl, hname⟩ := hnamed
    rw [ht.target_eq]
    exact iff_of_false nofun fun h => h.1 l hl hname
  · have hnone : ∀ l ∈ contracts units, l.contract.name ≠ name := by simpa using hnamed
    have hcandidates : ((contracts units).filter fun c => c.contract.name = name) = [] :=
      List.filter_eq_nil_iff.2 fun l hl => by simpa using hnone l hl
    have htarget : target units name sourcePath = .error (.contractNotFound name
        (OrderedSet.ofList ((contracts units).map (·.contract.name))).toList) := by
      simp only [target, hcandidates, List.find?_nil, List.head?_nil, Option.or_none]
    rw [htarget, Except.error.injEq, eq_comm]
    exact (and_iff_right hnone).symm

theorem target_eq_ok_iff_isTarget :
    target units name sourcePath = .ok t ↔ IsTarget units name sourcePath t := by
  refine ⟨fun h => ?_, IsTarget.target_eq⟩
  by_cases hnamed : ∃ l ∈ contracts units, l.contract.name = name
  · obtain ⟨t', ht'⟩ := exists_isTarget hnamed sourcePath
    exact Except.ok.inj (h.symm.trans ht'.target_eq) ▸ ht'
  · have hnone : ∀ l ∈ contracts units, l.contract.name ≠ name := by simpa using hnamed
    exact absurd (h.symm.trans (target_eq_error_iff.2 ⟨hnone, rfl⟩)) nofun

end Target

/-! ## Malformed definitions -/

section Malformed

variable {d : FunctionDefinition} {ms : List LocatedMember}

/-- The visibilities that are known. -/
def visibilityWords : List String := ["external", "public", "internal", "private"]

/-- The mutabilities that are known. -/
def mutabilityWords : List String := ["pure", "view", "constant", "nonpayable", "payable"]

/-- What is told of a definition with an unknown attribute, of the visibility first. -/
inductive Complaint (d : FunctionDefinition) : String → Prop where
  | visibility (h : d.visibility ∉ visibilityWords) :
      Complaint d ("function `" ++ d.name ++ "` has visibility `" ++ d.visibility ++ "`")
  | mutability (hvisibility : d.visibility ∈ visibilityWords) (h : d.mutability ∉ mutabilityWords) :
      Complaint d ("function `" ++ d.name ++ "` has state mutability `" ++ d.mutability ++ "`")

/-- A definition of a function, and not of a constructor or the like, with an unknown attribute. -/
def IsMalformed (m : ContractMember) : Prop :=
  ∃ d, m = .function d ∧ d.kind = "function" ∧
    (d.visibility ∉ visibilityWords ∨ d.mutability ∉ mutabilityWords)

/-- The first malformed definition, with the contract that has it. -/
def IsFirstMalformed (ms : List LocatedMember) (l : Located) (d : FunctionDefinition) : Prop :=
  IsMalformed (.function d) ∧
    ∃ before after, ms = before ++ (l, .function d) :: after ∧ ∀ m ∈ before, ¬IsMalformed m.2

theorem visibility_ofKeyword?_eq_none_iff (s : String) :
    Visibility.ofKeyword? s = none ↔ s ∉ visibilityWords := by
  unfold Visibility.ofKeyword?
  split <;> simp_all [visibilityWords]

theorem mutability_ofKeyword?_eq_none_iff (s : String) :
    Mutability.ofKeyword? s = none ↔ s ∉ mutabilityWords := by
  unfold Mutability.ofKeyword?
  split <;> simp_all [mutabilityWords]

theorem isMalformed_function_iff (hkind : d.kind = "function") :
    IsMalformed (.function d) ↔ ∃ detail, Complaint d detail := by
  constructor
  · rintro ⟨d', hd', -, h⟩
    obtain rfl := ContractMember.function.inj hd'
    by_cases hvisibility : d.visibility ∈ visibilityWords
    · exact ⟨_, .mutability hvisibility (h.resolve_left (not_not.2 hvisibility))⟩
    · exact ⟨_, .visibility hvisibility⟩
  · rintro ⟨_, h⟩
    cases h with
    | visibility h => exact ⟨d, rfl, hkind, .inl h⟩
    | mutability _ h => exact ⟨d, rfl, hkind, .inr h⟩

/-! ## The first failure -/

/-- The failure of a computation that fails. -/
def failure? {ε α : Type} : Except ε α → Option ε
  | .error e => some e
  | .ok _ => none

theorem failure?_eq_some_iff {ε α : Type} {x : Except ε α} {e : ε} :
    failure? x = some e ↔ x = .error e := by
  cases x <;> simp [failure?]

/-- What is made of a list fails where the first of its elements does. -/
theorem failure?_mapM_filterMap {ε α β γ : Type} (g : α → Option β) (f : β → Except ε γ)
    (l : List α) : failure? ((l.filterMap g).mapM f) =
      l.findSome? fun a => (g a).bind fun b => failure? (f b) := by
  induction l with
  | nil => rfl
  | cons a rest ih =>
    rw [List.findSome?_cons, ← ih]
    cases hg : g a with
    | none => rw [List.filterMap_cons_none hg]; rfl
    | some b =>
      rw [List.filterMap_cons_some hg, List.mapM_cons, Option.bind_some]
      cases hb : f b with
      | error e => rfl
      | ok c => cases (rest.filterMap g).mapM f <;> rfl

theorem failure?_functionShape_eq_some_iff {names : OrderedMap NodeId String} {declaredIn : String}
    {failure : SourceFailure} :
    failure? (functionShape names declaredIn d) = some failure ↔
      ∃ detail, Complaint d detail ∧ failure = .malformedTree declaredIn detail := by
  rw [failure?_eq_some_iff]
  cases hv : Visibility.ofKeyword? d.visibility with
  | none =>
    have hvisibility := (visibility_ofKeyword?_eq_none_iff _).1 hv
    simp only [functionShape, visibility, hv, bind, Except.bind, Except.error.injEq]
    constructor
    · rintro rfl
      exact ⟨_, .visibility hvisibility, rfl⟩
    · rintro ⟨_, _ | ⟨hword, -⟩, rfl⟩
      · rfl
      · exact absurd hword hvisibility
  | some v =>
    have hvisibility : d.visibility ∈ visibilityWords := by
      by_contra hword
      cases hv.symm.trans ((visibility_ofKeyword?_eq_none_iff _).2 hword)
    cases hm : Mutability.ofKeyword? d.mutability with
    | none =>
      have hmutability := (mutability_ofKeyword?_eq_none_iff _).1 hm
      simp only [functionShape, visibility, mutability, hv, hm, bind, Except.bind,
        Except.error.injEq]
      constructor
      · rintro rfl
        exact ⟨_, .mutability hvisibility hmutability, rfl⟩
      · rintro ⟨_, hword | ⟨-, -⟩, rfl⟩
        · exact absurd hvisibility hword
        · rfl
    | some m =>
      simp only [functionShape, visibility, mutability, hv, hm, bind, Except.bind, pure,
        Except.pure]
      refine iff_of_false (fun h => by cases h) ?_
      rintro ⟨_, hword | ⟨-, hword⟩, -⟩
      · exact hword hvisibility
      · cases hm.symm.trans ((mutability_ofKeyword?_eq_none_iff _).2 hword)

/-- The failure that a member alone leads to. -/
def memberFailure? (names : OrderedMap NodeId String) (m : LocatedMember) : Option SourceFailure :=
  (callable? m.2).bind fun c => failure? (c.shape names m.1.contract.name)

theorem memberFailure?_eq_some_iff {names : OrderedMap NodeId String} {l : Located}
    {m : ContractMember} {failure : SourceFailure} :
    memberFailure? names (l, m) = some failure ↔
      ∃ d detail, m = .function d ∧ d.kind = "function" ∧ Complaint d detail ∧
        failure = .malformedTree l.contract.name detail := by
  cases m with
  | function d =>
    by_cases hkind : d.kind = "function"
    · simp only [memberFailure?, callable?, hkind, if_true, Option.bind_some, Callable.shape,
        failure?_functionShape_eq_some_iff]
      constructor
      · rintro ⟨detail, hdetail, rfl⟩
        exact ⟨d, detail, rfl, hkind, hdetail, rfl⟩
      · rintro ⟨d', detail, hd', -, hdetail, rfl⟩
        obtain rfl := ContractMember.function.inj hd'
        exact ⟨detail, hdetail, rfl⟩
    · simp only [memberFailure?, callable?, hkind, if_false, Option.bind_none]
      refine iff_of_false nofun ?_
      rintro ⟨d', -, hd', hkind', -⟩
      exact hkind (ContractMember.function.inj hd' ▸ hkind')
  | «variable» v =>
    refine iff_of_false (fun h => ?_) (by rintro ⟨_, _, h, -⟩; cases h)
    by_cases hpublic : v.visibility = "public" <;>
      simp [memberFailure?, callable?, hpublic, Callable.shape, failure?] at h
  | event | modifier | other => exact iff_of_false nofun (by rintro ⟨_, _, h, -⟩; cases h)

theorem memberFailure?_eq_none_iff {names : OrderedMap NodeId String} {m : LocatedMember} :
    memberFailure? names m = none ↔ ¬IsMalformed m.2 := by
  obtain ⟨l, m⟩ := m
  constructor
  · rintro hnone ⟨d, rfl, hkind, h⟩
    obtain ⟨detail, hdetail⟩ := (isMalformed_function_iff hkind).1 ⟨d, rfl, hkind, h⟩
    exact absurd (hnone.symm.trans
      (memberFailure?_eq_some_iff.2 ⟨d, detail, rfl, hkind, hdetail, rfl⟩)) nofun
  · intro h
    cases hfailure : memberFailure? names (l, m) with
    | none => rfl
    | some failure =>
      obtain ⟨d, detail, rfl, hkind, hdetail, -⟩ := memberFailure?_eq_some_iff.1 hfailure
      exact absurd ((isMalformed_function_iff hkind).2 ⟨detail, hdetail⟩) h

theorem failure?_shapedCallables (ms : List LocatedMember) :
    failure? (shapedCallables ms) = ms.findSome? (memberFailure? (modifierNames ms)) := by
  rw [shapedCallables, declaredCallables, failure?_mapM_filterMap]
  refine congrArg (List.findSome? · ms) (funext fun m => ?_)
  rw [memberFailure?, Option.bind_map]
  refine congrArg (Option.bind _) (funext fun c => ?_)
  dsimp only [Function.comp_apply]
  cases c.shape (modifierNames ms) m.1.contract.name <;> rfl

/-- The members of a hierarchy are refused for the first definition that is malformed. -/
theorem shapedCallables_eq_error_iff {failure : SourceFailure} :
    shapedCallables ms = .error failure ↔
      ∃ l d detail, IsFirstMalformed ms l d ∧ Complaint d detail ∧
        failure = .malformedTree l.contract.name detail := by
  rw [← failure?_eq_some_iff, failure?_shapedCallables, List.findSome?_eq_some_iff]
  constructor
  · rintro ⟨before, ⟨l, m⟩, after, hms, hfailure, hbefore⟩
    obtain ⟨d, detail, rfl, hkind, hdetail, rfl⟩ := memberFailure?_eq_some_iff.1 hfailure
    exact ⟨l, d, detail, ⟨(isMalformed_function_iff hkind).2 ⟨detail, hdetail⟩, before, after, hms,
      fun m hm => memberFailure?_eq_none_iff.1 (hbefore m hm)⟩, hdetail, rfl⟩
  · rintro ⟨l, d, detail, ⟨⟨d', hd', hkind, -⟩, before, after, hms, hbefore⟩, hdetail, rfl⟩
    obtain rfl := ContractMember.function.inj hd'
    exact ⟨before, _, after, hms, memberFailure?_eq_some_iff.2 ⟨d, detail, rfl, hkind, hdetail, rfl⟩,
      fun m hm => memberFailure?_eq_none_iff.2 (hbefore m hm)⟩

theorem exists_shapedCallables_iff :
    (∃ cs, shapedCallables ms = .ok cs) ↔ ∀ m ∈ ms, ¬IsMalformed m.2 := by
  have hnone : failure? (shapedCallables ms) = none ↔ ∀ m ∈ ms, ¬IsMalformed m.2 := by
    rw [failure?_shapedCallables, List.findSome?_eq_none_iff]
    exact forall₂_congr fun m _ => memberFailure?_eq_none_iff
  rw [← hnone]
  cases shapedCallables ms <;> simp [failure?]

end Malformed

/-! ## Flattening -/

section Flatten

variable {units : List SourceUnit} {name sourcePath : String} {libraryPrefixes : List String}

/-- All names of contracts, each once, in the order of their bytes. -/
structure ListsNames (units : List SourceUnit) (names : List String) : Prop where
  increasing : names.Pairwise fun a b => Text.Utf8.encode a < Text.Utf8.encode b
  mem_iff : ∀ n, n ∈ names ↔ ∃ c, DeclaresContract units c ∧ c.name = n

theorem listsNames_ofList (units : List SourceUnit) :
    ListsNames units (OrderedSet.ofList ((contracts units).map (·.contract.name))).toList where
  increasing := (OrderedSet.increasing _).imp Text.Utf8.compare_eq_lt_iff.1
  mem_iff n := by
    rw [← OrderedSet.mem_def, OrderedSet.mem_ofList, List.mem_map, exists_declared_iff]

theorem ListsNames.eq {names names' : List String} (h : ListsNames units names)
    (h' : ListsNames units names') : names = names' := by
  have hset : ∀ l : List String, (l.Pairwise fun a b => Text.Utf8.encode a < Text.Utf8.encode b) →
      l.Pairwise fun a b => compare a b = .lt :=
    fun l hl => hl.imp Text.Utf8.compare_eq_lt_iff.2
  have hsame : (⟨names, hset _ h.increasing⟩ : OrderedSet String) =
      ⟨names', hset _ h'.increasing⟩ :=
    OrderedSet.ext fun n => (h.mem_iff n).trans (h'.mem_iff n).symm
  exact congrArg OrderedSet.toList hsame

theorem flatten_eq_contractNotFound_iff {n : String} {available : List String} :
    flatten units name sourcePath libraryPrefixes = .error (.contractNotFound n available) ↔
      (∀ c, DeclaresContract units c → c.name ≠ name) ∧ n = name ∧ ListsNames units available := by
  have hnone : (∀ c, DeclaresContract units c → c.name ≠ name) ↔
      ∀ l ∈ contracts units, l.contract.name ≠ name := by
    have hsome : (∃ c, DeclaresContract units c ∧ c.name = name) ↔
        ∃ l ∈ contracts units, l.contract.name = name := exists_declared_iff
    simpa using not_congr hsome
  rw [flatten_eq_error_iff, target_eq_error_iff, hnone, SourceFailure.contractNotFound.injEq]
  constructor
  · rintro (⟨h, rfl, rfl⟩ | ⟨t, -, hmalformed⟩)
    · exact ⟨h, rfl, listsNames_ofList units⟩
    · obtain ⟨_, _, _, -, -, hfailure⟩ := shapedCallables_eq_error_iff.1 hmalformed
      cases hfailure
  · rintro ⟨h, rfl, hlist⟩
    exact .inl ⟨h, rfl, hlist.eq (listsNames_ofList units)⟩

theorem flatten_eq_malformedTree_iff {place detail : String} :
    flatten units name sourcePath libraryPrefixes = .error (.malformedTree place detail) ↔
      ∃ t l d, IsTarget units name sourcePath t ∧
        IsFirstMalformed (members (ancestry units t.contract)) l d ∧ place = l.contract.name ∧
          Complaint d detail := by
  rw [flatten_eq_error_iff, target_eq_error_iff]
  simp only [target_eq_ok_iff_isTarget, shapedCallables_eq_error_iff,
    SourceFailure.malformedTree.injEq]
  constructor
  · rintro (⟨-, hfailure⟩ | ⟨t, ht, l, d, _, hfirst, hdetail, rfl, rfl⟩)
    · cases hfailure
    · exact ⟨t, l, d, ht, hfirst, rfl, hdetail⟩
  · rintro ⟨t, l, d, ht, hfirst, rfl, hdetail⟩
    exact .inr ⟨t, ht, l, d, detail, hfirst, hdetail, rfl, rfl⟩

theorem exists_flatten_iff {t : Located} (ht : IsTarget units name sourcePath t) :
    (∃ c, flatten units name sourcePath libraryPrefixes = .ok c) ↔
      ∀ l ∈ ancestry units t.contract, ∀ m ∈ l.contract.members, ¬IsMalformed m := by
  have hmembers : (∀ l ∈ ancestry units t.contract, ∀ m ∈ l.contract.members, ¬IsMalformed m) ↔
      ∀ m ∈ members (ancestry units t.contract), ¬IsMalformed m.2 := by
    simp only [Prod.forall, mem_members_iff]
    exact ⟨fun h l m hm => h l hm.1 m hm.2, fun h l hl m hm => h l m ⟨hl, hm⟩⟩
  rw [hmembers, ← exists_shapedCallables_iff]
  constructor
  · rintro ⟨c, hc⟩
    obtain ⟨t', _, cs, h⟩ := exists_flattening hc
    obtain rfl := Except.ok.inj (ht.target_eq.symm.trans h.target)
    obtain rfl := h.ancestry
    exact ⟨cs, h.callables⟩
  · rintro ⟨cs, hcs⟩
    exact exists_flatten_of_callables ht.target_eq hcs libraryPrefixes

/-- With a contract of the name, a malformed tree is the only failure. -/
theorem exists_malformedTree_iff {t : Located} (ht : IsTarget units name sourcePath t) :
    (∃ place detail,
        flatten units name sourcePath libraryPrefixes = .error (.malformedTree place detail)) ↔
      ∃ l ∈ ancestry units t.contract, ∃ m ∈ l.contract.members, IsMalformed m := by
  have hnot : (∃ place detail,
      flatten units name sourcePath libraryPrefixes = .error (.malformedTree place detail)) ↔
        ¬∃ c, flatten units name sourcePath libraryPrefixes = .ok c := by
    cases hflatten : flatten units name sourcePath libraryPrefixes with
    | ok c => simp
    | error failure =>
      refine iff_of_true ?_ (by simp)
      rcases flatten_eq_error_iff.1 hflatten with hnone | ⟨t', -, hmalformed⟩
      · exact absurd (ht.target_eq.symm.trans hnone) nofun
      · obtain ⟨l, _, detail, -, -, rfl⟩ := shapedCallables_eq_error_iff.1 hmalformed
        exact ⟨_, detail, rfl⟩
  rw [hnot, exists_flatten_iff ht]
  push Not
  rfl

end Flatten

/-- Flattening says that there is no contract exactly if none has the name, and then it lists the
names there are. It says that a tree is malformed exactly if there is a contract with the name and
some contract of its hierarchy declares a function, hidden by an override or not, with an unknown
visibility or mutability; it tells of the first one in the order of the hierarchy and then of the
text, and of the visibility first. In every other case there is a flat contract. -/
theorem flatten_fails_iff (units : List SourceUnit) (name sourcePath : String)
    (libraryPrefixes : List String) :
    (∀ n available,
      flatten units name sourcePath libraryPrefixes = .error (.contractNotFound n available) ↔
        (∀ c, DeclaresContract units c → c.name ≠ name) ∧ n = name ∧
          ListsNames units available) ∧
    ((∃ place detail,
      flatten units name sourcePath libraryPrefixes = .error (.malformedTree place detail)) ↔
        (∃ c, DeclaresContract units c ∧ c.name = name) ∧ ∃ t, IsTarget units name sourcePath t ∧
          ∃ l ∈ ancestry units t.contract, ∃ m ∈ l.contract.members, IsMalformed m) ∧
    (∀ place detail,
      flatten units name sourcePath libraryPrefixes = .error (.malformedTree place detail) ↔
        ∃ t l d, IsTarget units name sourcePath t ∧
          IsFirstMalformed (members (ancestry units t.contract)) l d ∧ place = l.contract.name ∧
            Complaint d detail) ∧
    ((∃ c, flatten units name sourcePath libraryPrefixes = .ok c) ↔
      (∃ c, DeclaresContract units c ∧ c.name = name) ∧ ∀ t, IsTarget units name sourcePath t →
        ∀ l ∈ ancestry units t.contract, ∀ m ∈ l.contract.members, ¬IsMalformed m) := by
  refine ⟨fun n available => flatten_eq_contractNotFound_iff, ?_,
    fun place detail => flatten_eq_malformedTree_iff, ?_⟩
  · constructor
    · rintro ⟨place, detail, h⟩
      obtain ⟨t, -, -, ht, -⟩ := flatten_eq_malformedTree_iff.1 h
      exact ⟨ht.exists_declared, t, ht, (exists_malformedTree_iff ht).1 ⟨place, detail, h⟩⟩
    · rintro ⟨-, t, ht, hmalformed⟩
      exact (exists_malformedTree_iff ht).2 hmalformed
  · constructor
    · rintro ⟨c, hc⟩
      obtain ⟨t, _, _, h⟩ := exists_flattening hc
      have ht := target_eq_ok_iff_isTarget.1 h.target
      refine ⟨ht.exists_declared, fun t' ht' => (exists_flatten_iff ht').1 ⟨c, hc⟩⟩
    · rintro ⟨hnamed, h⟩
      obtain ⟨t, ht⟩ := exists_isTarget (exists_declared_iff.1 hnamed) sourcePath
      exact (exists_flatten_iff ht).2 (h t ht)

/-- An override does not make up for what it hides. -/
example : flatten
    [⟨"Token.sol", [.contract Sample.token]⟩,
      ⟨"lib/Base.sol", [.contract { Sample.base with
        members := [.function { Sample.baseTransfer with visibility := "friendly" }] }]⟩]
    "Token" "Token.sol" [] =
      .error (.malformedTree "Base" "function `transfer` has visibility `friendly`") := rfl

end TokenConformance.Hierarchy
