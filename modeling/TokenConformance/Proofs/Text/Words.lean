import Mathlib.Data.List.TakeWhile
import TokenConformance.Text.Blank

/-! # Words and what stands between them

* `IsWord`: the characters of a word.
* `not_of_mem_splitOnP`: no piece of a list has an element at which the list is cut.
* `isWord_of_mem_words`, `words_of_isWord`: a text is cut into words, and a word is not cut.
* `words_append_blank`: a blank ends the words before it.
* `words_spaced`: words with spaces between them are found again.
* `exists_last_word`: a text that ends in no blank ends in its last word, and grows with it.
* `exists_blanks_around`, `trimmed_of_blanks_around`: a text is what trimming leaves of it with blanks
  around, and trimming takes just these away.
-/

namespace TokenConformance.Text

/-- A word has characters, and none of them is blank. -/
structure IsWord (w : List Char) : Prop where
  ne_nil : w ≠ []
  unblank : ∀ c ∈ w, isBlank c = false

/-- Blanks are looked for in the list and not among all characters. -/
theorem all_unblank_iff {cs : List Char} :
    (cs.all fun c => !isBlank c) = true ↔ ∀ c ∈ cs, isBlank c = false := by
  simp

instance (w : List Char) : Decidable (IsWord w) :=
  decidable_of_iff (w ≠ [] ∧ (w.all fun c => !isBlank c) = true)
    ⟨fun h => ⟨h.1, all_unblank_iff.1 h.2⟩, fun h => ⟨h.ne_nil, all_unblank_iff.2 h.unblank⟩⟩

theorem IsWord.append {w cs : List Char} (hw : IsWord w) (hcs : ∀ c ∈ cs, isBlank c = false) :
    IsWord (w ++ cs) := by
  refine ⟨List.append_ne_nil_of_left_ne_nil hw.ne_nil cs, fun c hc => ?_⟩
  rcases List.mem_append.1 hc with hc | hc
  · exact hw.unblank c hc
  · exact hcs c hc

/-- No piece of a list has an element at which the list is cut. -/
theorem not_of_mem_splitOnP {α : Type} {p : α → Bool} {as piece : List α}
    (h : piece ∈ as.splitOnP p) : ∀ a ∈ piece, p a = false := by
  induction as generalizing piece with
  | nil =>
    obtain rfl := List.mem_singleton.1 h
    exact nofun
  | cons d as ih =>
    rw [List.splitOnP_cons_eq_if_modifyHead] at h
    split at h
    · rcases List.mem_cons.1 h with rfl | h
      · exact nofun
      · exact ih h
    · next hd =>
      obtain ⟨first, rest, hsplit⟩ := List.exists_cons_of_ne_nil (List.splitOnP_ne_nil p as)
      rw [hsplit, List.modifyHead_cons] at h
      rcases List.mem_cons.1 h with rfl | h
      · intro a ha
        rcases List.mem_cons.1 ha with rfl | ha
        · simpa using hd
        · exact ih (hsplit ▸ List.mem_cons_self) a ha
      · exact ih (hsplit ▸ List.mem_cons_of_mem _ h)

theorem isWord_of_mem_words {cs w : List Char} (h : w ∈ words cs) : IsWord w := by
  obtain ⟨hmem, hne⟩ := List.mem_filter.1 h
  exact ⟨by simpa using hne, not_of_mem_splitOnP hmem⟩

theorem words_of_isWord {w : List Char} (hw : IsWord w) : words w = [w] := by
  rw [words, List.splitOnP_eq_singleton hw.unblank]
  simpa using hw.ne_nil

/-- A blank ends the words before it. -/
theorem words_append_blank {b : Char} (hb : isBlank b = true) (cs ds : List Char) :
    words (cs ++ b :: ds) = words cs ++ words ds := by
  rw [words, words, words, List.splitOnP_append_cons _ _ hb, List.filter_append]

/-- Words with a space between each two are found again. -/
theorem words_spaced {ws : List (List Char)} (h : ∀ w ∈ ws, IsWord w) :
    words ([' '].intercalate ws) = ws := by
  induction ws with
  | nil => rfl
  | cons w rest ih =>
    obtain ⟨hw, hrest⟩ := List.forall_mem_cons.1 h
    cases rest with
    | nil => rw [List.intercalate_singleton, words_of_isWord hw]
    | cons v rest =>
      rw [List.intercalate_cons_cons, List.append_assoc, List.singleton_append,
        words_append_blank rfl, words_of_isWord hw, ih hrest, List.singleton_append]

/-- What is written after the last one of several words belongs to it. -/
theorem intercalate_append_last (separator : List Char) (before : List (List Char))
    (w more : List Char) : separator.intercalate (before ++ [w ++ more]) =
      separator.intercalate (before ++ [w]) ++ more := by
  induction before with
  | nil => simp
  | cons v before ih =>
    rw [List.cons_append, List.cons_append, List.intercalate_cons_of_ne_nil (by simp),
      List.intercalate_cons_of_ne_nil (by simp), ih, List.append_assoc _ _ more]

/-- Words that each follow a space come after the words of the text before them. -/
theorem words_append_spaced {ws : List (List Char)} (h : ∀ w ∈ ws, IsWord w) (cs : List Char) :
    words (cs ++ ws.flatMap (' ' :: ·)) = words cs ++ ws := by
  induction ws generalizing cs with
  | nil => simp
  | cons w rest ih =>
    obtain ⟨hw, hrest⟩ := List.forall_mem_cons.1 h
    rw [List.flatMap_cons, ← List.append_assoc, ih hrest, words_append_blank rfl,
      words_of_isWord hw, List.append_assoc, List.singleton_append]

/-- Either nothing is blank, or there is a last blank. -/
theorem unblank_or_exists_last_blank (cs : List Char) :
    (∀ c ∈ cs, isBlank c = false) ∨
      ∃ before b w, cs = before ++ b :: w ∧ isBlank b = true ∧ ∀ c ∈ w, isBlank c = false := by
  induction cs with
  | nil => exact .inl nofun
  | cons d cs ih =>
    rcases ih with h | ⟨before, b, w, rfl, hb, hw⟩
    · by_cases hd : isBlank d = true
      · exact .inr ⟨[], d, cs, rfl, hd, h⟩
      · exact .inl (List.forall_mem_cons.2 ⟨by simpa using hd, h⟩)
    · exact .inr ⟨d :: before, b, w, rfl, hb, hw⟩

/-- What is written after a text that ends in no blank belongs to its last word. -/
theorem exists_last_word {cs : List Char} (hcs : words cs ≠ [])
    (hlast : ∀ c ∈ cs.getLast?, isBlank c = false) :
    ∃ before w, IsWord w ∧ words cs = before ++ [w] ∧
      ∀ more, (∀ c ∈ more, isBlank c = false) → words (cs ++ more) = before ++ [w ++ more] := by
  rcases unblank_or_exists_last_blank cs with h | ⟨before, b, w, rfl, hb, hw⟩
  · have hword : IsWord cs := ⟨fun hnil => hcs (hnil ▸ rfl), h⟩
    exact ⟨[], cs, hword, words_of_isWord hword,
      fun more hmore => words_of_isWord (hword.append hmore)⟩
  · have hword : IsWord w := by
      refine ⟨fun hnil => ?_, hw⟩
      have := hlast b (by simp [hnil])
      simp [hb] at this
    refine ⟨words before, w, hword, ?_, fun more hmore => ?_⟩
    · rw [words_append_blank hb, words_of_isWord hword]
    · rw [List.append_assoc, List.cons_append, words_append_blank hb,
        words_of_isWord (hword.append hmore)]

/-! ## Trimming -/

theorem dropWhile_of_unblank {cs : List Char} (h : ∀ c ∈ cs, isBlank c = false) :
    cs.dropWhile isBlank = cs := by
  cases cs with
  | nil => rfl
  | cons c rest => exact List.dropWhile_cons_of_neg (by simp [h c List.mem_cons_self])

theorem exists_blanks_around (cs : List Char) :
    ∃ before after, cs = before ++ trimmed cs ++ after ∧ (∀ c ∈ before, isBlank c = true) ∧
      ∀ c ∈ after, isBlank c = true := by
  refine ⟨cs.takeWhile isBlank, ((cs.dropWhile isBlank).reverse.takeWhile isBlank).reverse,
    ?_, fun c hc => List.mem_takeWhile_imp hc,
    fun c hc => List.mem_takeWhile_imp (List.mem_reverse.1 hc)⟩
  rw [trimmed, List.append_assoc, ← List.reverse_append, List.takeWhile_append_dropWhile,
    List.reverse_reverse, List.takeWhile_append_dropWhile]

theorem trimmed_of_blanks_around {before core after : List Char}
    (hbefore : ∀ c ∈ before, isBlank c = true) (hcore : ∀ c ∈ core, isBlank c = false)
    (hafter : ∀ c ∈ after, isBlank c = true) : trimmed (before ++ core ++ after) = core := by
  rw [trimmed, List.append_assoc, List.dropWhile_append_of_pos hbefore]
  cases core with
  | nil => simp [List.dropWhile_eq_nil_iff.2 hafter]
  | cons c rest =>
    have hfirst : isBlank c = false := hcore c List.mem_cons_self
    have hlast : ∀ d ∈ after.reverse, isBlank d = true := fun d hd =>
      hafter d (List.mem_reverse.1 hd)
    rw [List.cons_append, List.dropWhile_cons_of_neg (by simp [hfirst]), ← List.cons_append,
      List.reverse_append, List.dropWhile_append_of_pos hlast,
      dropWhile_of_unblank fun d hd => hcore d (List.mem_reverse.1 hd), List.reverse_reverse]

theorem trimmed_eq_nil_iff {cs : List Char} : trimmed cs = [] ↔ ∀ c ∈ cs, isBlank c = true := by
  constructor
  · intro h
    obtain ⟨before, after, hcs, hbefore, hafter⟩ := exists_blanks_around cs
    rw [h, List.append_nil] at hcs
    rw [hcs, List.forall_mem_append]
    exact ⟨hbefore, hafter⟩
  · intro h
    have hblank : trimmed (cs ++ [] ++ []) = [] := trimmed_of_blanks_around h nofun nofun
    rwa [List.append_nil, List.append_nil] at hblank

end TokenConformance.Text
