import TokenConformance.Proofs.Hierarchy.Flattening
import TokenConformance.Proofs.Standard.Relaxation

/-! # Library paths

Which paths belong to libraries shows in nothing but the modifiers of a flat contract:

* `isLibraryPath_mono`: with more prefixes, more paths belong to libraries.
* `warnings_eq_of_names`: warnings look at modifiers by their names.
* `Flattening.relaxed`: with more prefixes, a flat contract differs in its modifiers alone.
* `flatten_relaxed`: what more prefixes change, and what that means for checklists.
-/

namespace TokenConformance.Hierarchy

open Solidity

variable {prefixes wider : List String}

theorem isLibraryPath_mono (h : prefixes ⊆ wider) {path : String}
    (hpath : isLibraryPath prefixes path = true) : isLibraryPath wider path = true := by
  simp only [isLibraryPath, List.any_eq_true] at hpath ⊢
  obtain ⟨p, hp, hinside⟩ := hpath
  exact ⟨p, h hp, hinside⟩

theorem modifierShape_relaxed (h : prefixes ⊆ wider) (l : Located) (m : ModifierDefinition) :
    RelaxedModifier (modifierShape prefixes l m) (modifierShape wider l m) where
  name := rfl
  declaredIn := rfl
  userDefined := by
    simp only [modifierShape, Bool.not_eq_true']
    intro hwider
    by_contra hpath
    rw [isLibraryPath_mono h (by simpa using hpath)] at hwider
    exact absurd hwider (by decide)

theorem warnings_eq_of_names {ms ms' : List ModifierShape}
    (h : ms.map (·.name) = ms'.map (·.name)) (c : ContractDefinition) (missing : List NodeId)
    (functions : List FunctionShape) :
    warnings c missing functions ms = warnings c missing functions ms' := by
  have hany : ∀ m, (ms.any fun d => d.name = m) = ms'.any fun d => d.name = m := by
    intro m
    have hnames := congrArg (List.any · (· = m)) h
    simpa only [List.any_map, Function.comp_def] using hnames
  simp only [warnings, hany]

/-! ## Flat contracts -/

section FlatContracts

variable {units : List SourceUnit} {name sourcePath : String} {t : Located}
  {hierarchy : List Located} {cs : List ShapedCallable} {c c' : FlatContract}

/-- The first modifier of every name, in the order of the names. -/
def visibleModifiers (ms : List LocatedMember) : List (Located × ModifierDefinition) :=
  sortedBy (·.2.name) (firstBy (·.2.name) (modifiers ms))

theorem Flattening.modifiers_eq_map
    (h : Flattening units name sourcePath prefixes t hierarchy cs c) :
    c.modifiers = (visibleModifiers (members hierarchy)).map fun m =>
      modifierShape prefixes m.1 m.2 := by
  rw [h.modifiers, sortModifiers, firstBy_map, sortedBy_map]
  rfl

/-- With more prefixes, a contract differs in its modifiers alone. -/
theorem Flattening.relaxed (hprefixes : prefixes ⊆ wider)
    (h : Flattening units name sourcePath prefixes t hierarchy cs c)
    (h' : Flattening units name sourcePath wider t hierarchy cs c') : Relaxed c c' where
  same := by
    have hwarnings : c'.warnings = c.warnings := by
      rw [h.warnings, h'.warnings]
      refine warnings_eq_of_names ?_ t.contract _ _
      rw [firstBy_map, firstBy_map, List.map_map, List.map_map]
      rfl
    obtain ⟨hname, hkind, hpath⟩ := h.contract
    obtain ⟨hname', hkind', hpath'⟩ := h'.contract
    exact FlatContract.ext (hname'.trans hname.symm) (hkind'.trans hkind.symm)
      (hpath'.trans hpath.symm) (h'.functions.trans h.functions.symm)
      (h'.events.trans h.events.symm) rfl (h'.facts.trans h.facts.symm) hwarnings
  modifiers := by
    rw [h.modifiers_eq_map, h'.modifiers_eq_map, List.forall₂_map_left_iff,
      List.forall₂_map_right_iff, List.forall₂_same]
    exact fun m _ => modifierShape_relaxed hprefixes m.1 m.2

/-- With more library prefixes there is the same failure, or a contract that differs in nothing but
modifiers that are custom no more. In the checklist of any rule set the rules on modifiers become
milder, the other ones stay as they are, and a contract that conforms goes on conforming. -/
theorem flatten_relaxed (units : List SourceUnit) (name sourcePath : String)
    (hprefixes : prefixes ⊆ wider) :
    (∃ failure, flatten units name sourcePath prefixes = .error failure ∧
      flatten units name sourcePath wider = .error failure) ∨
    ∃ c c', flatten units name sourcePath prefixes = .ok c ∧
      flatten units name sourcePath wider = .ok c' ∧ Relaxed c c' ∧
        ∀ rs : RuleSet, RelaxedRun rs c c' := by
  cases hc : flatten units name sourcePath prefixes with
  | error failure =>
    exact .inl ⟨failure, rfl, flatten_eq_error_iff.2 (flatten_eq_error_iff.1 hc)⟩
  | ok c =>
    obtain ⟨t, hierarchy, cs, h⟩ := exists_flattening hc
    obtain rfl := h.ancestry
    obtain ⟨c', hc'⟩ := exists_flatten_of_callables h.target h.callables wider
    obtain ⟨t', hierarchy', cs', h'⟩ := exists_flattening hc'
    obtain rfl := Except.ok.inj (h.target.symm.trans h'.target)
    obtain rfl := h'.ancestry
    obtain rfl := Except.ok.inj (h.callables.symm.trans h'.callables)
    have hrelaxed : Relaxed c c' := h.relaxed hprefixes h'
    exact .inr ⟨c, c', rfl, hc', hrelaxed, hrelaxed.run⟩

end FlatContracts

/-! ## The modifier of the small token -/

namespace Sample

theorem modifiers_of_flatten {libraryPrefixes : List String} {c : FlatContract}
    (hc : flatten units "Token" "Token.sol" libraryPrefixes = .ok c) :
    c.modifiers = [⟨"guarded", !isLibraryPath libraryPrefixes "lib/Base.sol", "Base"⟩] := by
  obtain ⟨t, hierarchy, cs, h⟩ := exists_flattening hc
  obtain rfl : ⟨token, "Token.sol"⟩ = t := Except.ok.inj (target_units.symm.trans h.target)
  obtain rfl := h.ancestry
  have hfirst : firstBy (·.2.name) (Hierarchy.modifiers (members hierarchy)) =
      [(⟨base, "lib/Base.sol"⟩, ⟨3, "guarded"⟩)] := rfl
  have hvisible : visibleModifiers (members hierarchy) =
      [(⟨base, "lib/Base.sol"⟩, ⟨3, "guarded"⟩)] := by
    rw [visibleModifiers, hfirst, sortedBy, List.mergeSort_singleton]
  rw [h.modifiers_eq_map]
  exact congrArg (List.map fun m => modifierShape libraryPrefixes m.1 m.2) hvisible

/-- The modifier is custom until the path of its contract counts as that of a library. -/
theorem relaxed_units :
    ∃ c c', flatten units "Token" "Token.sol" [] = .ok c ∧
      flatten units "Token" "Token.sol" ["lib/"] = .ok c' ∧ Relaxed c c' ∧
      c.modifiers = [⟨"guarded", true, "Base"⟩] ∧ c'.modifiers = [⟨"guarded", false, "Base"⟩] := by
  obtain ⟨c', hc'⟩ := flatten_units
  rcases flatten_relaxed units "Token" "Token.sol" (List.nil_subset ["lib/"]) with
    ⟨failure, -, hfailure⟩ | ⟨c, c'', hc, hc'', hrelaxed, -⟩
  · exact absurd (hc'.symm.trans hfailure) (by simp)
  · have hbefore : isLibraryPath [] "lib/Base.sol" = false := by decide
    have hafter : isLibraryPath ["lib/"] "lib/Base.sol" = true := by decide
    refine ⟨c, c'', hc, hc'', hrelaxed, ?_, ?_⟩
    · rw [modifiers_of_flatten hc, hbefore]; rfl
    · rw [modifiers_of_flatten hc'', hafter]; rfl

end Sample

end TokenConformance.Hierarchy
