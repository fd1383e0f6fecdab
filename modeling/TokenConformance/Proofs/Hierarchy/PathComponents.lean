import TokenConformance.Proofs.Hierarchy.LibraryBoundary
import TokenConformance.Proofs.Text.Words

/-! # Paths by their components

Two paths match if the components of the one are the last components of the other, once `./` is
taken off the start of both:

* `IsCut`: a text is cut at each of its slashes. There is one list of such pieces.
* `IsCut.suffix_iff`: the pieces of a text end in those of another one if the text is the other one
  or ends in a slash and the other one.
* `HasComponents`: the pieces of a path without `./` at its start.
* `pathsMatch_iff_components`: the test on two paths comes to this.
* `eq_of_pathsMatch`: two paths that match have the same last component.
* `pathsMatch_componentwise`: all of it together.
-/

namespace TokenConformance.Hierarchy

/-! ## Texts that are cut at their slashes -/

/-- A text is cut at each of its slashes. -/
structure IsCut (text : String) (pieces : List String) : Prop where
  ne_nil : pieces ≠ []
  unslashed : ∀ p ∈ pieces, '/' ∉ p.toList
  joined : text = "/".intercalate pieces

section IsCut

variable {text a b : String} {pieces others as bs : List String}

theorem isCut_iff : IsCut text pieces ↔ text.toList.splitOn '/' = pieces.map String.toList := by
  constructor
  · intro h
    rw [h.joined, String.toList_intercalate]
    apply List.splitOn_intercalate
    · simpa using h.unslashed
    · simpa using h.ne_nil
  · intro h
    refine ⟨?_, ?_, ?_⟩
    · rintro rfl
      exact List.splitOn_ne_nil '/' text.toList h
    · intro p hp hslash
      have hpiece : p.toList ∈ text.toList.splitOn '/' := h ▸ List.mem_map_of_mem hp
      rw [List.splitOn_eq_splitOnP] at hpiece
      simpa using Text.not_of_mem_splitOnP hpiece '/' hslash
    · rw [← String.toList_inj, String.toList_intercalate, ← h]
      exact (List.intercalate_splitOn '/').symm

theorem exists_isCut (text : String) : ∃ pieces, IsCut text pieces := by
  refine ⟨(text.toList.splitOn '/').map String.ofList, isCut_iff.2 ?_⟩
  simp [Function.comp_def]

theorem IsCut.eq (h : IsCut text pieces) (h' : IsCut text others) : pieces = others := by
  have hmap : pieces.map String.toList = others.map String.toList :=
    (isCut_iff.1 h).symm.trans (isCut_iff.1 h')
  exact List.map_injective_iff.2 (fun _ _ => String.toList_injective) hmap

theorem IsCut.append_slash (ha : IsCut a as) (hb : IsCut b bs) :
    IsCut (a ++ "/" ++ b) (as ++ bs) where
  ne_nil := List.append_ne_nil_of_left_ne_nil ha.ne_nil bs
  unslashed := List.forall_mem_append.2 ⟨ha.unslashed, hb.unslashed⟩
  joined := by
    rw [String.intercalate_append_of_ne_nil ha.ne_nil hb.ne_nil, ← ha.joined, ← hb.joined]

/-- The pieces of a text end in those of another one if the text is the other one or ends in a slash
and the other one. -/
theorem IsCut.suffix_iff (ha : IsCut a as) (hb : IsCut b bs) :
    bs <:+ as ↔ a = b ∨ ∃ directory, a = directory ++ "/" ++ b := by
  constructor
  · rintro ⟨before, rfl⟩
    by_cases hbefore : before = []
    · have heq : a = b := by rw [ha.joined, hbefore, List.nil_append, ← hb.joined]
      exact .inl heq
    · refine .inr ⟨"/".intercalate before, ?_⟩
      rw [ha.joined, String.intercalate_append_of_ne_nil hbefore hb.ne_nil, ← hb.joined]
  · rintro (rfl | ⟨directory, rfl⟩)
    · rw [ha.eq hb]
    · -- The slash ends the last piece of the directory, so no piece of the text lies across it.
      obtain ⟨before, hbefore⟩ := exists_isCut directory
      have has : as = before ++ bs := ha.eq (hbefore.append_slash hb)
      exact ⟨before, has.symm⟩

end IsCut

/-! ## Paths -/

/-- The components of a path are the pieces that it is cut into when `./` is taken off its start. -/
def HasComponents (path : String) (components : List String) : Prop :=
  ∃ rest, IsStripped path rest ∧ IsCut rest components

variable {path a b : String} {components as bs : List String}

theorem hasComponents_iff :
    HasComponents path components ↔
      (withoutDotSlash path.toList).splitOn '/' = components.map String.toList := by
  constructor
  · rintro ⟨rest, hrest, hcut⟩
    rw [← hrest.toList_eq]
    exact isCut_iff.1 hcut
  · intro h
    obtain ⟨rest, hrest⟩ := exists_isStripped path
    exact ⟨rest, hrest, isCut_iff.2 (hrest.toList_eq ▸ h)⟩

instance : Decidable (HasComponents path components) := decidable_of_iff _ hasComponents_iff.symm

theorem exists_hasComponents (path : String) : ∃ components, HasComponents path components := by
  obtain ⟨rest, hrest⟩ := exists_isStripped path
  obtain ⟨components, hcut⟩ := exists_isCut rest
  exact ⟨components, rest, hrest, hcut⟩

theorem HasComponents.eq (h : HasComponents path as) (h' : HasComponents path bs) : as = bs := by
  obtain ⟨rest, hrest, hcut⟩ := h
  obtain ⟨rest', hrest', hcut'⟩ := h'
  have heq : rest' = rest := by rw [← String.toList_inj, hrest'.toList_eq, hrest.toList_eq]
  subst heq
  exact hcut.eq hcut'

theorem HasComponents.dotSlash (h : HasComponents path components) :
    HasComponents ("./" ++ path) components := by
  obtain ⟨rest, hrest, hcut⟩ := h
  exact ⟨rest, .dotSlash hrest, hcut⟩

/-! ## Paths that match -/

theorem slash_suffix_iff :
    '/' :: b.toList <:+ a.toList ↔ ∃ directory, a = directory ++ "/" ++ b := by
  constructor
  · rintro ⟨directory, ha⟩
    refine ⟨String.ofList directory, ?_⟩
    rw [← String.toList_inj, ← ha]
    simp
  · rintro ⟨directory, rfl⟩
    exact ⟨directory.toList, by simp⟩

theorem pathsMatch_iff_of_isStripped {rest rest' : String} (ha : IsStripped a rest)
    (hb : IsStripped b rest') :
    pathsMatch a b = true ↔ rest = rest' ∨ (∃ directory, rest = directory ++ "/" ++ rest') ∨
      ∃ directory, rest' = directory ++ "/" ++ rest := by
  simp only [pathsMatch, Bool.or_eq_true, beq_iff_eq, List.isSuffixOf_iff_suffix, ← ha.toList_eq,
    ← hb.toList_eq, slash_suffix_iff, String.toList_inj, or_assoc]

theorem pathsMatch_iff_components (ha : HasComponents a as) (hb : HasComponents b bs) :
    pathsMatch a b = true ↔ as <:+ bs ∨ bs <:+ as := by
  obtain ⟨rest, hrest, hcut⟩ := ha
  obtain ⟨rest', hrest', hcut'⟩ := hb
  rw [pathsMatch_iff_of_isStripped hrest hrest', hcut'.suffix_iff hcut, hcut.suffix_iff hcut']
  constructor
  · rintro (heq | hlonger | hlonger')
    · exact .inr (.inl heq)
    · exact .inr (.inr hlonger)
    · exact .inl (.inr hlonger')
  · rintro ((heq | hlonger') | heq | hlonger)
    · exact .inl heq.symm
    · exact .inr (.inr hlonger')
    · exact .inl heq
    · exact .inr (.inl hlonger)

theorem pathsMatch_self (path : String) : pathsMatch path path = true := by
  obtain ⟨components, h⟩ := exists_hasComponents path
  exact (pathsMatch_iff_components h h).2 (.inl List.suffix_rfl)

theorem pathsMatch_comm (a b : String) : pathsMatch a b = pathsMatch b a := by
  obtain ⟨as, ha⟩ := exists_hasComponents a
  obtain ⟨bs, hb⟩ := exists_hasComponents b
  rw [Bool.eq_iff_iff, pathsMatch_iff_components ha hb, pathsMatch_iff_components hb ha]
  exact or_comm

theorem pathsMatch_dotSlash (a b : String) : pathsMatch ("./" ++ a) b = pathsMatch a b := by
  obtain ⟨as, ha⟩ := exists_hasComponents a
  obtain ⟨bs, hb⟩ := exists_hasComponents b
  rw [Bool.eq_iff_iff, pathsMatch_iff_components ha.dotSlash hb, pathsMatch_iff_components ha hb]

theorem eq_of_concat_suffix {before before' : List String} {file file' : String}
    (h : before ++ [file] <:+ before' ++ [file']) : file = file' := by
  have hlast : [file] <:+ before' ++ [file'] := (List.suffix_append before [file]).trans h
  exact List.singleton_suffix_append_singleton_iff.1 hlast

/-- Two paths that match have the same last component. -/
theorem eq_of_pathsMatch {before before' : List String} {file file' : String}
    (ha : HasComponents a (before ++ [file])) (hb : HasComponents b (before' ++ [file']))
    (h : pathsMatch a b = true) : file = file' := by
  rcases (pathsMatch_iff_components ha hb).1 h with hsuffix | hsuffix
  · exact eq_of_concat_suffix hsuffix
  · exact (eq_of_concat_suffix hsuffix).symm

/-- Two paths match if the components of one of them are the last components of the other. So every
path matches itself, it does not matter which of two paths comes first or whether `./` stands in
front, and files do not match where the name of one is only the end of the name of the other. -/
theorem pathsMatch_componentwise (a b : String) :
    (∃! components, HasComponents a components) ∧
    (∀ as bs, HasComponents a as → HasComponents b bs →
      (pathsMatch a b = true ↔ as <:+ bs ∨ bs <:+ as)) ∧
    pathsMatch a a = true ∧
    pathsMatch a b = pathsMatch b a ∧
    pathsMatch ("./" ++ a) b = pathsMatch a b ∧
    pathsMatch a ("./" ++ b) = pathsMatch a b ∧
    ∀ before before' more file, more ≠ "" → HasComponents a (before ++ [more ++ file]) →
      HasComponents b (before' ++ [file]) → pathsMatch a b = false ∧ pathsMatch b a = false := by
  refine ⟨?_, fun as bs ha hb => pathsMatch_iff_components ha hb, pathsMatch_self a,
    pathsMatch_comm a b, pathsMatch_dotSlash a b, ?_, ?_⟩
  · obtain ⟨components, h⟩ := exists_hasComponents a
    exact ⟨components, h, fun others hothers => hothers.eq h⟩
  · rw [pathsMatch_comm, pathsMatch_dotSlash, pathsMatch_comm]
  · intro before before' more file hmore ha hb
    have hunmatched : pathsMatch a b = false := by
      rw [← Bool.not_eq_true]
      intro hmatch
      have hfile : more ++ file = file := eq_of_pathsMatch ha hb hmatch
      exact hmore (by simpa using hfile)
    exact ⟨hunmatched, by rw [pathsMatch_comm, hunmatched]⟩

/-- A path in the directory of the other one matches, and a file with a longer name does not. -/
theorem pathsMatch_vault :
    HasComponents "././vault/src/Token.sol" ["vault", "src", "Token.sol"] ∧
      HasComponents "./src/Token.sol" ["src", "Token.sol"] ∧
      ["src", "Token.sol"] <:+ ["vault", "src", "Token.sol"] ∧
      pathsMatch "././vault/src/Token.sol" "./src/Token.sol" = true ∧
      "My" ≠ "" ∧ HasComponents "src/MyToken.sol" (["src"] ++ ["My" ++ "Token.sol"]) ∧
      pathsMatch "src/MyToken.sol" "./src/Token.sol" = false := by
  have hvault : HasComponents "././vault/src/Token.sol" ["vault", "src", "Token.sol"] := by decide
  have htoken : HasComponents "./src/Token.sol" ["src", "Token.sol"] := by decide
  have hlonger : HasComponents "src/MyToken.sol" (["src"] ++ ["My" ++ "Token.sol"]) := by decide
  have hsuffix : ["src", "Token.sol"] <:+ ["vault", "src", "Token.sol"] := ⟨["vault"], rfl⟩
  have hmore : "My" ≠ "" := by decide
  obtain ⟨-, hiff, -⟩ := pathsMatch_componentwise "././vault/src/Token.sol" "./src/Token.sol"
  obtain ⟨-, -, -, -, -, -, hname⟩ := pathsMatch_componentwise "src/MyToken.sol" "./src/Token.sol"
  exact ⟨hvault, htoken, hsuffix, (hiff _ _ hvault htoken).2 (.inr hsuffix), hmore, hlonger,
    (hname ["src"] ["src"] "My" "Token.sol" hmore hlonger htoken).1⟩

-- Two slashes are not one, and a slash at the end is followed by an empty component.
example : pathsMatch "src//Token.sol" "src/Token.sol" = false := by decide

example : pathsMatch "src/" "./" = true := by decide

end TokenConformance.Hierarchy
