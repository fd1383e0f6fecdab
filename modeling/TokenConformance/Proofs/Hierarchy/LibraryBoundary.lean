import Mathlib.Data.List.Infix
import TokenConformance.Hierarchy.Flatten

/-! # Where library prefixes stand

A prefix stands in a path at its start or after a slash, once `./` is taken off the start:

* `IsStripped`: a path without the `./` at its start. There is one such path.
* `StandsIn`: a prefix stands in a path, with nothing or a slash right before it.
* `standsIn_iff`, `isLibraryPath_iff`: the two tests on a path come to this.
* `withoutDotSlash_directory`: what is left of a path behind a directory.
* `isLibraryPath_boundary`: where prefixes stand, and that `./` and directories in front of a path
  take nothing away.
-/

namespace TokenConformance

/-! ## Texts inside texts -/

theorem Text.isInside_iff {part cs : List Char} : Text.isInside part cs = true ↔ part <:+: cs := by
  induction cs with
  | nil => rw [Text.isInside, List.isEmpty_iff, List.infix_nil]
  | cons c rest ih =>
    rw [Text.isInside, Bool.or_eq_true, List.isPrefixOf_iff_prefix, ih, List.infix_cons_iff]

namespace Hierarchy

open Solidity

/-! ## Without leading dots and slashes -/

/-- The second path is what is left of the first one when `./` is taken off its start as often as it
stands there. -/
inductive IsStripped : String → String → Prop where
  | bare {path : String} (h : ∀ after, path ≠ "./" ++ after) : IsStripped path path
  | dotSlash {path rest : String} (h : IsStripped path rest) : IsStripped ("./" ++ path) rest

theorem toList_dotSlash (path : String) : ("./" ++ path).toList = '.' :: '/' :: path.toList := by
  rw [String.toList_append]
  rfl

theorem eq_dotSlash_iff {path : String} {after : List Char} :
    path.toList = '.' :: '/' :: after ↔ path = "./" ++ String.ofList after := by
  rw [← String.toList_inj, toList_dotSlash, String.toList_ofList]

theorem withoutDotSlash_of_bare {cs : List Char} (h : ∀ after, cs ≠ '.' :: '/' :: after) :
    withoutDotSlash cs = cs := by
  unfold withoutDotSlash
  split
  · next after => exact absurd rfl (h after)
  · rfl

theorem IsStripped.toList_eq {path rest : String} (h : IsStripped path rest) :
    rest.toList = withoutDotSlash path.toList := by
  induction h with
  | bare h =>
    exact (withoutDotSlash_of_bare fun after hpath => h _ (eq_dotSlash_iff.1 hpath)).symm
  | dotSlash _ ih => rw [toList_dotSlash, withoutDotSlash, ih]

theorem isStripped_of_toList_eq {path rest : String}
    (h : rest.toList = withoutDotSlash path.toList) : IsStripped path rest := by
  induction hcs : path.toList using withoutDotSlash.induct generalizing path with
  | case1 after ih =>
    rw [hcs, withoutDotSlash] at h
    obtain rfl := eq_dotSlash_iff.1 hcs
    exact .dotSlash (ih (by rw [String.toList_ofList, h]) (String.toList_ofList))
  | case2 cs hbare =>
    rw [hcs, withoutDotSlash_of_bare hbare, ← hcs, String.toList_inj] at h
    subst h
    refine .bare fun after hpath => hbare after.toList ?_
    rw [← hcs, hpath, toList_dotSlash]

theorem isStripped_iff {path rest : String} :
    IsStripped path rest ↔ rest.toList = withoutDotSlash path.toList :=
  ⟨IsStripped.toList_eq, isStripped_of_toList_eq⟩

theorem exists_isStripped (path : String) : ∃ rest, IsStripped path rest :=
  ⟨String.ofList (withoutDotSlash path.toList), isStripped_iff.2 String.toList_ofList⟩

/-- A directory in front of a path is taken off as a whole, or a slash is left in front of the
path. -/
theorem withoutDotSlash_directory (directory path : List Char) :
    withoutDotSlash (directory ++ '/' :: path) = withoutDotSlash path ∨
      ∃ before, withoutDotSlash (directory ++ '/' :: path) = before ++ '/' :: path := by
  induction directory using withoutDotSlash.induct with
  | case1 after ih => simpa only [List.cons_append, withoutDotSlash] using ih
  | case2 directory hbare =>
    by_cases hdot : directory = ['.']
    · subst hdot
      exact .inl (by rw [List.singleton_append, withoutDotSlash])
    · refine .inr ⟨directory, withoutDotSlash_of_bare fun after hpath => ?_⟩
      rcases directory with _ | ⟨c, _ | ⟨d, directory⟩⟩
      · exact absurd (List.cons.inj hpath).1 (by decide)
      · exact hdot (congrArg (· :: []) (List.cons.inj hpath).1)
      · simp only [List.cons_append, List.cons.injEq] at hpath
        exact hbare directory (by rw [hpath.1, hpath.2.1])

theorem isStripped_directory {path rest : String} (h : IsStripped path rest) (directory : String) :
    IsStripped (directory ++ "/" ++ path) rest ∨
      ∃ before, IsStripped (directory ++ "/" ++ path) (before ++ "/" ++ path) := by
  have hpath : (directory ++ "/" ++ path).toList = directory.toList ++ '/' :: path.toList := by
    simp
  simp only [isStripped_iff, hpath] at h ⊢
  rcases withoutDotSlash_directory directory.toList path.toList with hrest | ⟨before, hbefore⟩
  · exact .inl (h.trans hrest.symm)
  · exact .inr ⟨String.ofList before, by simp [hbefore]⟩

/-! ## Prefixes -/

/-- A prefix stands in a path, with nothing or a slash right before it. -/
def StandsIn (libraryPrefix path : String) : Prop :=
  ∃ before after, path = before ++ libraryPrefix ++ after ∧
    (before = "" ∨ ∃ directory, before = directory ++ "/")

theorem standsIn_iff {libraryPrefix path : String} :
    StandsIn libraryPrefix path ↔
      libraryPrefix.toList <+: path.toList ∨ '/' :: libraryPrefix.toList <:+: path.toList := by
  constructor
  · rintro ⟨before, after, rfl, rfl | ⟨directory, rfl⟩⟩
    · exact .inl ⟨after.toList, by simp⟩
    · exact .inr ⟨directory.toList, after.toList, by simp⟩
  · rintro (⟨after, hpath⟩ | ⟨directory, after, hpath⟩)
    · refine ⟨"", String.ofList after, ?_, .inl rfl⟩
      rw [← String.toList_inj, ← hpath]
      simp
    · refine ⟨String.ofList directory ++ "/", String.ofList after, ?_, .inr ⟨_, rfl⟩⟩
      rw [← String.toList_inj, ← hpath]
      simp

theorem StandsIn.directory {libraryPrefix path : String} (h : StandsIn libraryPrefix path)
    (directory : String) : StandsIn libraryPrefix (directory ++ "/" ++ path) := by
  obtain ⟨before, after, rfl, hbefore⟩ := h
  refine ⟨directory ++ "/" ++ before, after, by simp only [String.append_assoc], .inr ?_⟩
  rcases hbefore with rfl | ⟨inner, rfl⟩
  · exact ⟨directory, by rw [String.append_empty]⟩
  · exact ⟨directory ++ "/" ++ inner, by simp only [String.append_assoc]⟩

/-- Behind a directory it does not matter that `./` is not taken off. -/
theorem IsStripped.standsIn_directory {libraryPrefix path rest : String} (h : IsStripped path rest)
    (hp : StandsIn libraryPrefix rest) (directory : String) :
    StandsIn libraryPrefix (directory ++ "/" ++ path) := by
  induction h generalizing directory with
  | bare => exact hp.directory directory
  | @dotSlash path rest _ ih =>
    have hpath : directory ++ "/" ++ ("./" ++ path) = directory ++ "/." ++ "/" ++ path := by
      rw [← String.toList_inj]
      simp
    rw [hpath]
    exact ih hp (directory ++ "/.")

variable {prefixes : List String} {path rest : String}

theorem isLibraryPath_iff (h : IsStripped path rest) :
    isLibraryPath prefixes path = true ↔ ∃ p ∈ prefixes, StandsIn p rest := by
  simp only [isLibraryPath, List.any_eq_true, Bool.or_eq_true, List.isPrefixOf_iff_prefix,
    Text.isInside_iff, standsIn_iff, h.toList_eq]

theorem isLibraryPath_dotSlash (prefixes : List String) (path : String) :
    isLibraryPath prefixes ("./" ++ path) = isLibraryPath prefixes path := by
  rw [isLibraryPath, isLibraryPath, toList_dotSlash, withoutDotSlash]

theorem isLibraryPath_directory (h : isLibraryPath prefixes path = true) (directory : String) :
    isLibraryPath prefixes (directory ++ "/" ++ path) = true := by
  obtain ⟨rest, hrest⟩ := exists_isStripped path
  obtain ⟨p, hp, hstands⟩ := (isLibraryPath_iff hrest).1 h
  rcases isStripped_directory hrest directory with hwhole | ⟨before, hslash⟩
  · exact (isLibraryPath_iff hwhole).2 ⟨p, hp, hstands⟩
  · exact (isLibraryPath_iff hslash).2 ⟨p, hp, hrest.standsIn_directory hstands before⟩

/-- A path is that of a library if a prefix stands, in what is left of the path without `./` at its
start, at the start or after a slash. So `./` in front of a path changes nothing, and a modifier that
comes from a library goes on doing so when the library moves under a directory. -/
theorem isLibraryPath_boundary (prefixes : List String) (path : String) :
    (∃! rest, IsStripped path rest) ∧
    (∀ rest, IsStripped path rest →
      (isLibraryPath prefixes path = true ↔ ∃ p ∈ prefixes, StandsIn p rest)) ∧
    isLibraryPath prefixes ("./" ++ path) = isLibraryPath prefixes path ∧
    ∀ directory, isLibraryPath prefixes path = true →
      isLibraryPath prefixes (directory ++ "/" ++ path) = true ∧
      ∀ (c : ContractDefinition) (m : ModifierDefinition),
        (modifierShape prefixes ⟨c, directory ++ "/" ++ path⟩ m).userDefined = false := by
  refine ⟨?_, fun rest hrest => isLibraryPath_iff hrest, isLibraryPath_dotSlash prefixes path,
    fun directory h => ?_⟩
  · obtain ⟨rest, hrest⟩ := exists_isStripped path
    refine ⟨rest, hrest, fun other hother => ?_⟩
    rw [← String.toList_inj, hother.toList_eq, hrest.toList_eq]
  · have hmoved := isLibraryPath_directory h directory
    exact ⟨hmoved, fun c m => by rw [modifierShape, hmoved, Bool.not_true]⟩

/-- Behind a directory the path keeps the `./` at its start, and the prefix still counts. -/
theorem isLibraryPath_moved :
    IsStripped "././lib/solmate/Owned.sol" "lib/solmate/Owned.sol" ∧
      (∃ p ∈ ["lib/solmate/"], StandsIn p "lib/solmate/Owned.sol") ∧
      isLibraryPath ["lib/solmate/"] "././lib/solmate/Owned.sol" = true ∧
      isLibraryPath ["lib/solmate/"] ("./../vault" ++ "/" ++ "././lib/solmate/Owned.sol") = true := by
  obtain ⟨-, hstands, -, hmoved⟩ :=
    isLibraryPath_boundary ["lib/solmate/"] "././lib/solmate/Owned.sol"
  have hstripped : IsStripped "././lib/solmate/Owned.sol" "lib/solmate/Owned.sol" :=
    isStripped_iff.2 (by decide)
  have hlibrary : isLibraryPath ["lib/solmate/"] "././lib/solmate/Owned.sol" = true := by decide
  exact ⟨hstripped, (hstands _ hstripped).1 hlibrary, hlibrary, (hmoved "./../vault" hlibrary).1⟩

-- A prefix does not count in the middle of a name.
example : isLibraryPath ["lib/"] "src/mylib/Owned.sol" = false := by decide

end Hierarchy

end TokenConformance
