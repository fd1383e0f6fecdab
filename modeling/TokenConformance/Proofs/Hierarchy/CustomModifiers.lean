import Mathlib.Data.List.Nodup
import TokenConformance.Proofs.Hierarchy.Consistency
import TokenConformance.Proofs.Hierarchy.MostDerived
import TokenConformance.Proofs.Hierarchy.SuperCall
import TokenConformance.Proofs.Text.ByteOrder

/-! # Custom modifiers

What a rule on modifiers says of a flat contract, told of the source it was made from: the modifiers
that functions apply, the names by which they are applied, the contracts that declare them and the
files of these contracts.

* `IsLastSegment`: what follows the last dot of a path.
* `Refers`, `AppliesName`: the modifier that an application refers to, and the name it is known by.
* `DeclaresFirst`, `CustomName`: the most derived declaration of a name; names that do not come from
  a library.
* `Offends`: a template matches a function that applies a custom modifier.
* `isCustom_iff`, `mem_customModifiers_iff`: what a flat contract says of names and of functions.
* `evaluate_noCustomModifiers`: the whole answer.
-/

namespace TokenConformance.Hierarchy

open Solidity

/-! ## Names of applied modifiers -/

/-- What follows the last dot of a path, or all of it if there is no dot. -/
def IsLastSegment (path segment : String) : Prop :=
  '.' ∉ segment.toList ∧ (path = segment ∨ ∃ before, path = before ++ "." ++ segment)

theorem exists_isLastSegment (path : String) : ∃ segment, IsLastSegment path segment := by
  by_cases hdot : '.' ∈ path.toList
  · obtain ⟨after, before, hpath, hafter⟩ :=
      List.eq_append_cons_of_mem (List.mem_reverse.2 hdot)
    refine ⟨String.ofList after.reverse, by simpa using hafter,
      .inr ⟨String.ofList before.reverse, String.toList_inj.1 ?_⟩⟩
    rw [← List.reverse_inj, hpath]
    simp
  · exact ⟨path, hdot, .inl rfl⟩

theorem IsLastSegment.eq {path segment : String} (h : IsLastSegment path segment) :
    lastSegment path = segment := by
  obtain ⟨hdot, hpath⟩ := h
  have hbefore : ∀ c ∈ segment.toList.reverse, decide (c ≠ '.') = true := fun c hc => by
    simpa using fun heq : c = '.' => hdot (heq ▸ List.mem_reverse.1 hc)
  rcases hpath with rfl | ⟨before, rfl⟩
  · have hall : (path.toList.reverse ++ []).takeWhile (· ≠ '.') = path.toList.reverse ++ [] :=
      List.takeWhile_append_of_pos hbefore
    rw [List.append_nil] at hall
    rw [lastSegment, hall, List.reverse_reverse, String.ofList_toList]
  · have hpath : (before ++ "." ++ segment).toList.reverse =
        segment.toList.reverse ++ '.' :: before.toList.reverse := by simp
    rw [lastSegment, hpath, List.takeWhile_append_of_pos hbefore]
    simp

theorem isLastSegment_iff {path segment : String} :
    IsLastSegment path segment ↔ lastSegment path = segment := by
  refine ⟨IsLastSegment.eq, ?_⟩
  rintro rfl
  obtain ⟨segment, h⟩ := exists_isLastSegment path
  exact h.eq.symm ▸ h

/-- A contract declares a modifier. -/
def DeclaresModifier (l : Located) (m : ModifierDefinition) : Prop :=
  .modifier m ∈ l.contract.members

/-- The modifier with the number by which an application refers to it, in a hierarchy. -/
def Refers (hierarchy : List Located) (i : ModifierInvocation) (m : ModifierDefinition) : Prop :=
  i.declaration = some m.id ∧ ∃ l ∈ hierarchy, DeclaresModifier l m

/-- The name of an applied modifier: that of the modifier that is referred to, or what follows the
last dot of the path where nothing in the hierarchy is referred to. -/
inductive AppliesName (hierarchy : List Located) (i : ModifierInvocation) : String → Prop where
  | declared {m} (h : Refers hierarchy i m) : AppliesName hierarchy i m.name
  | written {n} (h : ∀ m, ¬Refers hierarchy i m) (hpath : IsLastSegment i.path n) :
      AppliesName hierarchy i n

/-- No number belongs to two modifiers of the compiler output. -/
def DistinctModifiers (units : List SourceUnit) : Prop :=
  ((modifiers (members (contracts units))).map fun m => m.2.id).Nodup

instance (units : List SourceUnit) : Decidable (DistinctModifiers units) :=
  inferInstanceAs (Decidable (List.Nodup _))

/-- The modifiers of one contract, with it. -/
def modifiersOf (l : Located) : List (Located × ModifierDefinition) :=
  l.contract.members.filterMap fun
    | .modifier m => some (l, m)
    | _ => none

theorem modifiers_members (hierarchy : List Located) :
    modifiers (members hierarchy) = hierarchy.flatMap modifiersOf := by
  rw [modifiers, members, List.filterMap_flatMap]
  refine List.flatMap_congr fun l _ => ?_
  rw [List.filterMap_map]
  refine List.filterMap_congr fun member _ => ?_
  cases member <;> rfl

theorem mem_modifiersOf_iff {l l' : Located} {m : ModifierDefinition} :
    (l', m) ∈ modifiersOf l ↔ l' = l ∧ DeclaresModifier l m := by
  rw [modifiersOf, List.mem_filterMap]
  constructor
  · rintro ⟨member, hmember, heq⟩
    split at heq
    · obtain ⟨rfl, rfl⟩ := Prod.mk.inj (Option.some.inj heq)
      exact ⟨rfl, hmember⟩
    · exact absurd heq nofun
  · rintro ⟨rfl, hm⟩
    exact ⟨_, hm, rfl⟩

theorem mem_modifiers_members_iff {hierarchy : List Located} {l : Located}
    {m : ModifierDefinition} : (l, m) ∈ modifiers (members hierarchy) ↔ l ∈ hierarchy ∧ DeclaresModifier l m := by
  simp [modifiers_members, mem_modifiersOf_iff]

theorem mem_contracts_of_mem_ancestry {units : List SourceUnit} {c : ContractDefinition}
    {l : Located} (h : l ∈ ancestry units c) : l ∈ contracts units := by
  rw [ancestry_eq] at h
  obtain ⟨id, -, hfind⟩ := List.mem_filterMap.1 h
  exact List.mem_reverse.1 (List.mem_of_find?_eq_some hfind)

section Names

variable {units : List SourceUnit} {hierarchy : List Located}
  (hdistinct : DistinctModifiers units) (hunits : ∀ l ∈ hierarchy, l ∈ contracts units)
include hdistinct hunits

theorem eq_of_id_eq {l l' : Located} {m m' : ModifierDefinition} (hl : l ∈ hierarchy)
    (hm : DeclaresModifier l m) (hl' : l' ∈ hierarchy) (hm' : DeclaresModifier l' m')
    (hid : m.id = m'.id) : m = m' := by
  have hmem := mem_modifiers_members_iff.2 ⟨hunits l hl, hm⟩
  have hmem' := mem_modifiers_members_iff.2 ⟨hunits l' hl', hm'⟩
  exact (Prod.mk.inj (List.inj_on_of_nodup_map hdistinct hmem hmem' hid)).2

/-- A number has the name of the one modifier of the hierarchy that has the number. -/
theorem find?_modifierNames_iff {id : NodeId} {n : String} :
    (modifierNames (members hierarchy)).find? id = some n ↔
      ∃ l ∈ hierarchy, ∃ m, DeclaresModifier l m ∧ m.id = id ∧ m.name = n := by
  constructor
  · intro h
    rw [modifierNames, OrderedMap.find?_ofList] at h
    obtain ⟨entry, hentry, rfl⟩ := Option.map_eq_some_iff.1 h
    have hid : entry.1 = id := by simpa using List.find?_some hentry
    have hmem := List.mem_reverse.1 (List.mem_of_find?_eq_some hentry)
    obtain ⟨⟨l, m⟩, hm, rfl⟩ := List.mem_map.1 hmem
    obtain ⟨hl, hm⟩ := mem_modifiers_members_iff.1 hm
    exact ⟨l, hl, m, hm, hid, rfl⟩
  · rintro ⟨l, hl, m, hm, rfl, rfl⟩
    obtain ⟨n, hfind, hn⟩ : ∃ n, (modifierNames (members hierarchy)).find? m.id = some n ∧ _ :=
      exists_find?_ofList (List.mem_map.2 ⟨(l, m), mem_modifiers_members_iff.2 ⟨hl, hm⟩, rfl⟩)
    obtain ⟨⟨l', m'⟩, hm', heq⟩ := List.mem_map.1 hn
    obtain ⟨hid, rfl⟩ := Prod.mk.inj heq
    obtain ⟨hl', hm'⟩ := mem_modifiers_members_iff.1 hm'
    rw [hfind, eq_of_id_eq hdistinct hunits hl' hm' hl hm hid]

/-- The name that a flat contract knows an applied modifier by. -/
theorem appliesName_iff {i : ModifierInvocation} {n : String} :
    AppliesName hierarchy i n ↔ modifierName (modifierNames (members hierarchy)) i = n := by
  have hrefers : ∀ n, i.declaration.bind (modifierNames (members hierarchy)).find? = some n ↔
      ∃ m, Refers hierarchy i m ∧ m.name = n := by
    intro n
    rw [Option.bind_eq_some_iff]
    constructor
    · rintro ⟨id, hid, hname⟩
      obtain ⟨l, hl, m, hm, rfl, hn⟩ := (find?_modifierNames_iff hdistinct hunits).1 hname
      exact ⟨m, ⟨hid, l, hl, hm⟩, hn⟩
    · rintro ⟨m, ⟨hid, l, hl, hm⟩, hn⟩
      exact ⟨m.id, hid, (find?_modifierNames_iff hdistinct hunits).2 ⟨l, hl, m, hm, rfl, hn⟩⟩
  unfold modifierName
  cases hname : i.declaration.bind (modifierNames (members hierarchy)).find? with
  | some declared =>
    obtain ⟨m, hm, rfl⟩ := (hrefers declared).1 hname
    constructor
    · rintro (⟨hm'⟩ | ⟨hnone, -⟩)
      · exact Option.some.inj (hname.symm.trans ((hrefers _).2 ⟨_, hm', rfl⟩))
      · exact absurd hm (hnone m)
    · rintro rfl
      exact .declared hm
  | none =>
    have hnone : ∀ m, ¬Refers hierarchy i m := fun m hm =>
      absurd (hname.symm.trans ((hrefers _).2 ⟨m, hm, rfl⟩)) nofun
    rw [Option.getD_none, ← isLastSegment_iff]
    constructor
    · rintro (⟨hm⟩ | ⟨-, hpath⟩)
      · exact absurd hm (hnone _)
      · exact hpath
    · exact .written hnone

end Names

/-! ## Names from libraries -/

/-- A contract has the most derived declaration of a modifier name in a hierarchy. -/
def DeclaresFirst (hierarchy : List Located) (n : String) (l : Located) : Prop :=
  ∃ before after, hierarchy = before ++ l :: after ∧ (∃ m, DeclaresModifier l m ∧ m.name = n) ∧
    ∀ b ∈ before, ∀ m, DeclaresModifier b m → m.name ≠ n

/-- A name that no contract of the hierarchy declares, or whose most derived declaration lies in no
library. -/
inductive CustomName (libraryPrefixes : List String) (hierarchy : List Located) (n : String) :
    Prop where
  | undeclared (h : ∀ l ∈ hierarchy, ∀ m, DeclaresModifier l m → m.name ≠ n)
  | declared {l} (h : DeclaresFirst hierarchy n l)
      (hpath : isLibraryPath libraryPrefixes l.path = false)

theorem find?_modifiersOf_eq_none_iff {l : Located} {n : String} :
    ((modifiersOf l).find? fun m => m.2.name = n) = none ↔
      ∀ m, DeclaresModifier l m → m.name ≠ n := by
  rw [List.find?_eq_none]
  constructor
  · intro h m hm
    simpa using h (l, m) (mem_modifiersOf_iff.2 ⟨rfl, hm⟩)
  · rintro h ⟨l', m⟩ hmem
    simpa using h m (mem_modifiersOf_iff.1 hmem).2

theorem find?_modifiers_eq_some_iff {hierarchy : List Located} {n : String} {l : Located} :
    (∃ m, ((modifiers (members hierarchy)).find? fun m => m.2.name = n) = some (l, m)) ↔
      DeclaresFirst hierarchy n l := by
  simp only [modifiers_members, List.find?_flatMap, List.findSome?_eq_some_iff,
    find?_modifiersOf_eq_none_iff]
  constructor
  · rintro ⟨m, before, l', after, hhierarchy, hfind, hbefore⟩
    obtain ⟨rfl, hm⟩ := mem_modifiersOf_iff.1 (List.mem_of_find?_eq_some hfind)
    exact ⟨before, after, hhierarchy, ⟨m, hm, by simpa using List.find?_some hfind⟩, hbefore⟩
  · rintro ⟨before, after, hhierarchy, ⟨m, hm, hname⟩, hbefore⟩
    have hsome : ((modifiersOf l).find? fun m => m.2.name = n) ≠ none := fun hnone =>
      find?_modifiersOf_eq_none_iff.1 hnone m hm hname
    obtain ⟨⟨l', m'⟩, hfind⟩ := Option.ne_none_iff_exists'.1 hsome
    obtain ⟨rfl, -⟩ := mem_modifiersOf_iff.1 (List.mem_of_find?_eq_some hfind)
    exact ⟨m', before, l', after, hhierarchy, hfind, hbefore⟩

theorem find?_modifiers_eq_none_iff {hierarchy : List Located} {n : String} :
    ((modifiers (members hierarchy)).find? fun m => m.2.name = n) = none ↔
      ∀ l ∈ hierarchy, ∀ m, DeclaresModifier l m → m.name ≠ n := by
  simp only [modifiers_members, List.find?_flatMap, List.findSome?_eq_none_iff,
    find?_modifiersOf_eq_none_iff]

/-! ## Functions with custom modifiers -/

/-- A function of a flat contract is the one of a definition: the first declaration of its identity,
along the hierarchy, is this definition. -/
def DefinedBy (hierarchy : List Located) (f : FunctionShape) (d : FunctionDefinition) : Prop :=
  ∃ l, firstCallable? (members hierarchy) f.selector = some (l, .function d)

/-- A template matches a function that applies a modifier with a custom name. -/
def Offends (libraryPrefixes : List String) (hierarchy : List Located) (c : FlatContract)
    (t : FunctionTemplate) (n : String) : Prop :=
  ∃ f d, t.find? c.functions = some f ∧ DefinedBy hierarchy f d ∧
    ∃ i ∈ d.modifiers, i.kind ≠ some "baseConstructorSpecifier" ∧ AppliesName hierarchy i n ∧
      CustomName libraryPrefixes hierarchy n

/-- The custom modifiers of the function that a template matches. -/
def offendingNames (c : FlatContract) (t : FunctionTemplate) : List String :=
  ((t.find? c.functions).map (customModifiers c)).getD []

namespace Flattening

variable {units : List SourceUnit} {name sourcePath : String} {libraryPrefixes : List String}
  {t : Located} {hierarchy : List Located} {cs : List ShapedCallable} {c : FlatContract}

theorem modifier?_eq (h : Flattening units name sourcePath libraryPrefixes t hierarchy cs c)
    (n : String) : c.modifier? n =
      ((Hierarchy.modifiers (members hierarchy)).find? fun m => m.2.name = n).map fun (l, m) =>
        modifierShape libraryPrefixes l m := by
  rw [FlatContract.modifier?, ← List.head?_filter, h.filter_modifiers]
  exact Option.head?_toList

theorem isCustom_iff (h : Flattening units name sourcePath libraryPrefixes t hierarchy cs c)
    {n : String} : isCustom c n = true ↔ CustomName libraryPrefixes hierarchy n := by
  rw [isCustom, h.modifier?_eq]
  cases hfind : (Hierarchy.modifiers (members hierarchy)).find? fun m => m.2.name = n with
  | none => exact iff_of_true rfl (.undeclared (find?_modifiers_eq_none_iff.1 hfind))
  | some m =>
    obtain ⟨l, m⟩ := m
    have hfirst : DeclaresFirst hierarchy n l := find?_modifiers_eq_some_iff.1 ⟨m, hfind⟩
    have hcustom : ((modifierShape libraryPrefixes l m).userDefined = true) ↔
        isLibraryPath libraryPrefixes l.path = false := by simp [modifierShape]
    rw [Option.map_some, Option.all_some, hcustom]
    constructor
    · exact .declared hfirst
    · rintro (hnone | ⟨hfirst', hpath⟩)
      · exact absurd (hfind.symm.trans (find?_modifiers_eq_none_iff.2 hnone)) nofun
      · obtain ⟨m', hfind'⟩ := find?_modifiers_eq_some_iff.2 hfirst'
        obtain ⟨rfl, -⟩ := Prod.mk.inj (Option.some.inj (hfind.symm.trans hfind'))
        exact hpath

/-- A function of a flat contract has the shape of the first declaration of its identity. -/
theorem exists_firstCallable (h : Flattening units name sourcePath libraryPrefixes t hierarchy cs c)
    {f : FunctionShape} (hf : f ∈ c.functions) :
    ∃ l m, firstCallable? (members hierarchy) f.selector = some (l, m) ∧
      m.shape (modifierNames (members hierarchy)) l.contract.name = .ok f := by
  cases hfirst : firstCallable? (members hierarchy) f.selector with
  | none => exact absurd rfl ((h.mostDerivedWins.absent _ hfirst).1 f hf)
  | some m =>
    obtain ⟨l, m⟩ := m
    obtain ⟨g, hshape, -, hfilter, -⟩ := h.mostDerivedWins.present _ _ _ hfirst
    have hmem : f ∈ c.functions.filter fun g => g.selector = f.selector :=
      List.mem_filter.2 ⟨hf, by simp⟩
    rw [hfilter, List.mem_singleton] at hmem
    exact ⟨l, m, rfl, hmem ▸ hshape⟩

variable (hdistinct : DistinctModifiers units)
include hdistinct

/-- The modifiers of a function are those that its definition applies, by their names. A getter has
none. -/
theorem mem_modifiers_iff (h : Flattening units name sourcePath libraryPrefixes t hierarchy cs c)
    {f : FunctionShape} (hf : f ∈ c.functions) {n : String} :
    n ∈ f.modifiers ↔ ∃ d, DefinedBy hierarchy f d ∧
      ∃ i ∈ d.modifiers, i.kind ≠ some "baseConstructorSpecifier" ∧
        AppliesName hierarchy i n := by
  have hunits : ∀ l ∈ hierarchy, l ∈ contracts units := by
    rw [h.ancestry]
    exact fun _ => mem_contracts_of_mem_ancestry
  obtain ⟨l, m, hfirst, hshape⟩ := h.exists_firstCallable hf
  cases m with
  | function d =>
    have hdefined : ∀ d', DefinedBy hierarchy f d' ↔ d' = d := fun d' => by
      simp [DefinedBy, hfirst, eq_comm]
    obtain ⟨v, m, -, -, hf⟩ := functionShape_ok hshape
    have hmodifiers : n ∈ f.modifiers ↔
        n ∈ appliedModifiers (modifierNames (members hierarchy)) d := by
      rw [hf, OrderedSet.mem_ofList]
    simp only [hmodifiers, hdefined, exists_eq_left, appliedModifiers, List.mem_map,
      List.mem_filter, decide_eq_true_eq, appliesName_iff hdistinct hunits, and_assoc]
  | getter v =>
    have hnone : ∀ d, ¬DefinedBy hierarchy f d := fun d => by simp [DefinedBy, hfirst]
    obtain rfl := Except.ok.inj hshape
    refine iff_of_false List.not_mem_nil ?_
    rintro ⟨d, hd, -⟩
    exact hnone d hd

theorem mem_offendingNames_iff
    (h : Flattening units name sourcePath libraryPrefixes t hierarchy cs c)
    {template : FunctionTemplate} {n : String} :
    n ∈ offendingNames c template ↔ Offends libraryPrefixes hierarchy c template n := by
  unfold offendingNames
  cases hf : template.find? c.functions with
  | none => simp [Offends, hf]
  | some f =>
    have hmem := h.mem_modifiers_iff hdistinct (List.mem_of_find?_eq_some hf) (n := n)
    rw [Option.map_some, Option.getD_some, customModifiers, List.mem_filter, h.isCustom_iff,
      ← OrderedSet.mem_def, hmem]
    constructor
    · rintro ⟨⟨d, hd, i, hi, hkind, hname⟩, hcustom⟩
      exact ⟨f, d, hf, hd, i, hi, hkind, hname, hcustom⟩
    · rintro ⟨f', d, hf', hd, i, hi, hkind, hname, hcustom⟩
      obtain rfl := Option.some.inj (hf.symm.trans hf')
      exact ⟨⟨d, hd, i, hi, hkind, hname⟩, hcustom⟩

end Flattening

/-! ## The answer -/

theorem pairwise_offendingNames (c : FlatContract) (t : FunctionTemplate) :
    (offendingNames c t).Pairwise fun m n => Text.Utf8.encode m < Text.Utf8.encode n := by
  unfold offendingNames
  cases t.find? c.functions with
  | none => exact .nil
  | some f =>
    refine (f.modifiers.increasing.filter _).imp fun h => ?_
    exact Text.Utf8.compare_eq_lt_iff.1 h

theorem offence?_eq (c : FlatContract) (t : FunctionTemplate) :
    offence? c t = if offendingNames c t = [] then none
      else some (t.name ++ " modified by " ++ ", ".intercalate (offendingNames c t)) := by
  unfold offence? offendingNames
  cases hf : t.find? c.functions with
  | none => rfl
  | some f =>
    have hname : f.name = t.name :=
      congrArg Selector.name (FunctionTemplate.selector_of_admits (List.find?_some hf))
    cases hcustom : customModifiers c f <;> simp [hcustom, hname]

theorem filterMap_offence? (c : FlatContract) (ts : List FunctionTemplate) :
    ts.filterMap (offence? c) = (ts.filter fun t => offendingNames c t ≠ []).map fun t =>
      t.name ++ " modified by " ++ ", ".intercalate (offendingNames c t) := by
  rw [← List.filterMap_eq_map, List.filterMap_filter]
  refine List.filterMap_congr fun t _ => ?_
  rw [offence?_eq]
  by_cases h : offendingNames c t = [] <;> simp [h]

/-- What the rule on modifiers says of a flat contract. It is violated exactly if one of its
templates matches a function whose definition applies a modifier, and no base constructor, with a
name that no contract of the hierarchy declares, or whose most derived declaration lies in no
library; the name is that of the modifier that is referred to by number, or else the last part of
the path. Otherwise it is met. If it is violated, there is an entry for every template that matches
such a function, in the order of the templates, with the name of the function and its offending
names, each of them once and in the order of their bytes. -/
theorem evaluate_noCustomModifiers {units : List SourceUnit} {name sourcePath : String}
    {libraryPrefixes : List String} {c : FlatContract} (hdistinct : DistinctModifiers units)
    (hc : flatten units name sourcePath libraryPrefixes = .ok c) (ts : List FunctionTemplate) :
    ∃ target hierarchy, Hierarchy.target units name sourcePath = .ok target ∧
      hierarchy = ancestry units target.contract ∧
      let offends := Offends libraryPrefixes hierarchy c
      let answer := (Requirement.noCustomModifiers ts).evaluate c
      (answer.map (·.outcome) = .ok .violated ↔ ∃ t ∈ ts, ∃ n, offends t n) ∧
      ((¬∃ t ∈ ts, ∃ n, offends t n) → answer = .ok .satisfied) ∧
      ∃ names : FunctionTemplate → List String,
        (∀ t, (names t).Pairwise (fun m n => Text.Utf8.encode m < Text.Utf8.encode n) ∧
          ∀ n, n ∈ names t ↔ offends t n) ∧
        ((∃ t ∈ ts, ∃ n, offends t n) → answer = .ok (.violated ("; ".intercalate
          ((ts.filter fun t => names t ≠ []).map fun t =>
            t.name ++ " modified by " ++ ", ".intercalate (names t))))) := by
  obtain ⟨target, hierarchy, cs, h⟩ := exists_flattening hc
  have hmem : ∀ t n, n ∈ offendingNames c t ↔ Offends libraryPrefixes hierarchy c t n :=
    fun t n => h.mem_offendingNames_iff hdistinct
  have hnil : (∃ t ∈ ts, ∃ n, Offends libraryPrefixes hierarchy c t n) ↔
      ts.filterMap (offence? c) ≠ [] := by
    simp [filterMap_offence?, ← hmem, List.eq_nil_iff_forall_not_mem]
  have hsatisfied : ts.filterMap (offence? c) = [] → evaluateModifiers c ts = .satisfied :=
    fun hnone => by rw [evaluateModifiers, hnone]
  have hviolated : ts.filterMap (offence? c) ≠ [] → evaluateModifiers c ts =
      .violated ("; ".intercalate (ts.filterMap (offence? c))) := fun hsome => by
    obtain ⟨first, rest, hoffences⟩ := List.exists_cons_of_ne_nil hsome
    rw [evaluateModifiers, hoffences]
  refine ⟨target, hierarchy, h.target, h.ancestry, ?_, fun hnone => ?_, offendingNames c,
    fun t => ⟨pairwise_offendingNames c t, hmem t⟩, fun hsome => ?_⟩
  · rw [hnil, Requirement.evaluate]
    by_cases hnone : ts.filterMap (offence? c) = []
    · simp [hsatisfied hnone, hnone, Except.map, Evaluation.satisfied]
    · simp [hviolated hnone, hnone, Except.map, Evaluation.violated]
  · rw [Requirement.evaluate, hsatisfied (not_not.1 (hnil.not.1 hnone))]
  · rw [Requirement.evaluate, hviolated (hnil.1 hsome), filterMap_offence?]

/-! ### The modifier of the small token -/

theorem Sample.guarded_offends {c : FlatContract}
    (hc : flatten Sample.units "Token" "Token.sol" [] = .ok c) :
    Offends [] Sample.hierarchy c Sample.transferTemplate "guarded" := by
  have hdeclared : DeclaresModifier ⟨Sample.base, "lib/Base.sol"⟩ ⟨3, "guarded"⟩ := by
    simp [DeclaresModifier, Sample.base]
  have hfirst : DeclaresFirst Sample.hierarchy "guarded" ⟨Sample.base, "lib/Base.sol"⟩ :=
    ⟨[⟨Sample.token, "Token.sol"⟩], [], rfl, ⟨_, hdeclared, rfl⟩, by
      simp [DeclaresModifier, Sample.token]⟩
  obtain ⟨f, hf, hselector⟩ := Sample.find?_transfer hc
  have hdefined : DefinedBy Sample.hierarchy f Sample.transfer := by
    rw [DefinedBy, hselector]
    exact Sample.emitsThroughSuper.firstCallable?_eq
  refine ⟨f, Sample.transfer, hf, hdefined, _, List.mem_cons_self, by decide, ?_,
    .declared hfirst (by decide)⟩
  exact .declared (m := ⟨3, "guarded"⟩) ⟨rfl, _, by simp [Sample.hierarchy], hdeclared⟩

/-- Without library prefixes the modifier of the base is custom, and the function that applies it is
reported. -/
theorem sample_transfer_reported :
    DistinctModifiers Sample.units ∧
      ∃ c, flatten Sample.units "Token" "Token.sol" [] = .ok c ∧
        ((Requirement.noCustomModifiers [Sample.transferTemplate]).evaluate c).map (·.outcome) =
          .ok .violated := by
  have hdistinct : DistinctModifiers Sample.units := by decide
  obtain ⟨c', hc'⟩ := Sample.flatten_units
  obtain ⟨t, hierarchy, cs, h⟩ := exists_flattening hc'
  obtain ⟨c, hc⟩ := exists_flatten_of_callables h.target (h.ancestry ▸ h.callables) []
  obtain ⟨target, hierarchy, htarget, rfl, hiff, -⟩ :=
    evaluate_noCustomModifiers hdistinct hc [Sample.transferTemplate]
  obtain rfl : ⟨Sample.token, "Token.sol"⟩ = target :=
    Except.ok.inj (Sample.target_units.symm.trans htarget)
  exact ⟨hdistinct, c, hc, hiff.2 ⟨_, List.mem_singleton_self _, _, Sample.guarded_offends hc⟩⟩

end TokenConformance.Hierarchy
