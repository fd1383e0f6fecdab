import TokenConformance.Proofs.Text.LetterCase
import TokenConformance.Proofs.Text.Words
import TokenConformance.Standard.Name

/-! # How the name of a standard may be written

A name is read without blanks, separators and case. The texts that are accepted are said by what
may be written, and not by what is taken away:

* `Spells`: a text spells a word in capitals, in letters of either case and with separators among
  them.
* `IsSpelling`: the same with blanks around it.
* `spells_iff`, `plainName_eq_iff`: the texts whose plain name is a word.
* `parse_spelling`: which texts name a standard, and what becomes of all others.
-/

namespace TokenConformance.Standard

/-- A text spells a word in capitals. Its letters may be in either case, and hyphens and
underscores may stand anywhere. -/
inductive Spells : List Char → List Char → Prop where
  | nil : Spells [] []
  | letter {letter c : Char} {word cs : List Char} (h : c = letter ∨ c = letter.toLower)
      (hrest : Spells word cs) : Spells (letter :: word) (c :: cs)
  | separator {c : Char} {word cs : List Char} (h : c = '-' ∨ c = '_')
      (hrest : Spells word cs) : Spells word (c :: cs)

/-- A text is a spelling of a word, with blanks before and after it. -/
def IsSpelling (word s : String) : Prop :=
  ∃ before core after, s.toList = before ++ core ++ after ∧
    (∀ c ∈ before, Text.isBlank c = true) ∧ Spells word.toList core ∧
      ∀ c ∈ after, Text.isBlank c = true

/-! ## Words -/

/-- The characters of a word in capitals are capital letters and digits. -/
def IsCapitals (word : List Char) : Prop :=
  ∀ letter ∈ word, letter.isAlphanum = true ∧ letter.isLower = false

theorem isAlphanum_of_letter {c letter : Char} (hletter : letter.isAlphanum = true)
    (h : c = letter ∨ c = letter.toLower) : c.isAlphanum = true := by
  rcases h with rfl | rfl
  · exact hletter
  · exact Text.isAlphanum_toLower hletter

theorem not_separator_of_isAlphanum {c : Char} (h : c.isAlphanum = true) : c ≠ '-' ∧ c ≠ '_' := by
  constructor
  · rintro rfl
    exact absurd h (by decide)
  · rintro rfl
    exact absurd h (by decide)

theorem Spells.unblank {word cs : List Char} (hword : IsCapitals word) (h : Spells word cs) :
    ∀ c ∈ cs, Text.isBlank c = false := by
  induction h with
  | nil => exact nofun
  | letter h _ ih =>
    rw [IsCapitals, List.forall_mem_cons] at hword
    rw [List.forall_mem_cons]
    exact ⟨Text.isBlank_of_isAlphanum (isAlphanum_of_letter hword.1.1 h), ih hword.2⟩
  | separator h _ ih =>
    rw [List.forall_mem_cons]
    refine ⟨?_, ih hword⟩
    rcases h with rfl | rfl <;> decide

theorem spells_iff {word cs : List Char} (hword : IsCapitals word) :
    Spells word cs ↔ (cs.filter fun c => c ≠ '-' ∧ c ≠ '_').map Char.toUpper = word := by
  constructor
  · intro h
    induction h with
    | nil => rfl
    | letter h _ ih =>
      rw [IsCapitals, List.forall_mem_cons] at hword
      have hkept := not_separator_of_isAlphanum (isAlphanum_of_letter hword.1.1 h)
      rw [List.filter_cons_of_pos (by simpa using hkept), List.map_cons, ih hword.2,
        (Text.toUpper_eq_iff hword.1.2).2 h]
    | separator h _ ih =>
      rw [List.filter_cons_of_neg (by simpa using fun hc => h.resolve_left hc), ih hword]
  · intro h
    induction cs generalizing word with
    | nil =>
      obtain rfl : [] = word := h
      exact .nil
    | cons c cs ih =>
      by_cases hc : c = '-' ∨ c = '_'
      · rw [List.filter_cons_of_neg (by simpa using fun hne => hc.resolve_left hne)] at h
        exact .separator hc (ih hword h)
      · rw [not_or] at hc
        rw [List.filter_cons_of_pos (by simpa using hc), List.map_cons] at h
        subst h
        rw [IsCapitals, List.forall_mem_cons] at hword
        exact .letter ((Text.toUpper_eq_iff hword.1.2).1 rfl) (ih hword.2 rfl)

theorem plainName_eq_iff {word s : String} (hword : IsCapitals word.toList) :
    plainName s = word.toList ↔ IsSpelling word s := by
  constructor
  · intro h
    obtain ⟨before, after, hs, hbefore, hafter⟩ := Text.exists_blanks_around s.toList
    exact ⟨before, Text.trimmed s.toList, after, hs, hbefore, (spells_iff hword).2 h, hafter⟩
  · rintro ⟨before, core, after, hs, hbefore, hcore, hafter⟩
    rw [plainName, hs, Text.trimmed_of_blanks_around hbefore (hcore.unblank hword) hafter]
    exact (spells_iff hword).1 hcore

/-! ## Names -/

theorem isCapitals_name (standard : Standard) : IsCapitals standard.name.toList := by
  cases standard <;> simp [IsCapitals, name]

theorem ofName?_eq_some_iff {s : String} {standard : Standard} :
    ofName? s = some standard ↔ plainName s = standard.name.toList := by
  constructor
  · intro h
    exact (by simpa using List.find?_some h : standard.name.toList = plainName s).symm
  · intro h
    rw [ofName?, h]
    cases standard <;> decide

theorem parse_eq_ok_iff_isSpelling {s : String} {standard : Standard} :
    parse s = .ok standard ↔ IsSpelling standard.name s := by
  rw [parse_eq_ok_iff, ofName?_eq_some_iff, plainName_eq_iff (isCapitals_name standard)]

/-- The spellings of the two names are accepted. Any other text is refused and told back as it
is. -/
theorem parse_spelling (s : String) :
    (parse s = .ok .erc20 ↔ IsSpelling "ERC20" s) ∧
      (parse s = .ok .erc721 ↔ IsSpelling "ERC721" s) ∧
      (¬IsSpelling "ERC20" s → ¬IsSpelling "ERC721" s →
        parse s = .error (.unknownStandard s "ERC20, ERC721")) := by
  refine ⟨parse_eq_ok_iff_isSpelling, parse_eq_ok_iff_isSpelling, fun h20 h721 => ?_⟩
  cases hparse : parse s with
  | ok standard =>
    cases standard with
    | erc20 => exact absurd (parse_eq_ok_iff_isSpelling.1 hparse) h20
    | erc721 => exact absurd (parse_eq_ok_iff_isSpelling.1 hparse) h721
  | error failure =>
    obtain ⟨-, rfl⟩ := parse_eq_error_iff.1 hparse
    rfl

/-- Blanks count around a name only. A separator may stand at its end, and a blank behind that. -/
theorem parse_inner_blank :
    IsSpelling "ERC721" " _eRc-721-\n" ∧ ¬IsSpelling "ERC20" "ERC 20" ∧
      ¬IsSpelling "ERC721" "ERC 20" ∧
      parse "ERC 20" = .error (.unknownStandard "ERC 20" "ERC20, ERC721") := by
  obtain ⟨h20, h721, hother⟩ := parse_spelling "ERC 20"
  have hnot20 : ¬IsSpelling "ERC20" "ERC 20" := fun h => absurd (h20.2 h) (by decide)
  have hnot721 : ¬IsSpelling "ERC721" "ERC 20" := fun h => absurd (h721.2 h) (by decide)
  exact ⟨(parse_spelling " _eRc-721-\n").2.1.1 rfl, hnot20, hnot721, hother hnot20 hnot721⟩

end TokenConformance.Standard
