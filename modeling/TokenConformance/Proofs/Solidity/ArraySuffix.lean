import TokenConformance.Proofs.Text.Words
import TokenConformance.Solidity.CanonicalType

/-! # Arrays of a type

What a type becomes does not depend on whether it is the element of an array, or on where a value of
it is kept:

* `IsSuffix`: what stands behind the element type of an array.
* `splitSuffix_eq`, `splitSuffix_append`: the name and the suffix of a type.
* `Unlocated`: words that do not end in a data location.
* `withoutLocations_append`, `collapsed_append`, `expanded_append`: data locations at the end go,
  and a suffix is left alone at each step.
* `ElementType`, `ArraySuffix`, `located`: the types, suffixes and locations that are meant.
* `canonicalType_arrays`: the canonical types of arrays.
-/

namespace TokenConformance.Solidity

open Text (IsWord words isBlank)

/-! ## Name and suffix -/

/-- A suffix is empty or begins with a bracket. -/
def IsSuffix (cs : List Char) : Prop := ∀ c ∈ cs.head?, c = '['

instance (cs : List Char) : Decidable (IsSuffix cs) :=
  @Option.decidableForallMem Char (· = '[') _ cs.head?

theorem IsSuffix.append {s t : List Char} (hs : IsSuffix s) (ht : IsSuffix t) :
    IsSuffix (s ++ t) := by
  cases s with
  | nil => exact ht
  | cons c s => exact hs

theorem splitSuffix_join (type : List Char) :
    (splitSuffix type).1 ++ (splitSuffix type).2 = type :=
  List.takeWhile_append_dropWhile

theorem bracket_not_mem_name (type : List Char) : '[' ∉ (splitSuffix type).1 := by
  intro h
  have hall := List.all_eq_true.1 (List.all_takeWhile (p := (· ≠ '[')) (l := type)) _ h
  simp at hall

theorem isSuffix_snd (type : List Char) : IsSuffix (splitSuffix type).2 := by
  intro c hc
  have hhead := List.head?_dropWhile_not (· ≠ '[') type
  rw [splitSuffix] at hc
  rw [Option.mem_def.1 hc] at hhead
  simpa using hhead

theorem splitSuffix_eq {name suffix : List Char} (hname : '[' ∉ name) (hsuffix : IsSuffix suffix) :
    splitSuffix (name ++ suffix) = (name, suffix) := by
  have hne : ∀ c ∈ name, decide (c ≠ '[') = true := by
    intro c hc
    rw [decide_eq_true_eq]
    exact fun h => hname (h ▸ hc)
  rw [splitSuffix, List.takeWhile_append_of_pos hne, List.dropWhile_append_of_pos hne]
  cases suffix with
  | nil => simp
  | cons c suffix =>
    obtain rfl := hsuffix c rfl
    simp

/-- A further suffix comes after the one that a type has. -/
theorem splitSuffix_append (type : List Char) {suffix : List Char} (hsuffix : IsSuffix suffix) :
    splitSuffix (type ++ suffix) = ((splitSuffix type).1, (splitSuffix type).2 ++ suffix) := by
  have h := splitSuffix_eq (bracket_not_mem_name type) ((isSuffix_snd type).append hsuffix)
  rwa [← List.append_assoc, splitSuffix_join] at h

/-! ## Data locations -/

/-- Words do not end in a data location, but for a single word. -/
def Unlocated (ws : List (List Char)) : Prop := ∀ w ∈ ws.tail.getLast?, w ∉ dataLocations

theorem unlocated_append_last_iff {before : List (List Char)} {w : List Char} :
    Unlocated (before ++ [w]) ↔ before = [] ∨ w ∉ dataLocations := by
  cases before with
  | nil => simp [Unlocated]
  | cons v before => simp [Unlocated]

theorem isWord_of_mem_dataLocations {w : List Char} (h : w ∈ dataLocations) : IsWord w := by
  have hall : ∀ w ∈ dataLocations, IsWord w := by decide
  exact hall w h

theorem bracket_not_mem_of_mem_dataLocations {w : List Char} (h : w ∈ dataLocations) :
    '[' ∉ w := by
  have hall : ∀ w ∈ dataLocations, '[' ∉ w := by decide
  exact hall w h

theorem withoutLocations_of_unlocated {ws : List (List Char)} (h : Unlocated ws) :
    withoutLocations ws = ws := by
  cases ws with
  | nil => rfl
  | cons w rest =>
    rw [withoutLocations]
    congr 1
    rcases rest.eq_nil_or_concat with rfl | ⟨init, last, rfl⟩
    · rfl
    · have hlast : last ∉ dataLocations := h last (by simp)
      simp [hlast]

/-- Data locations at the end go, whatever stands before them. -/
theorem withoutLocations_append {ws ls : List (List Char)} (hws : ws ≠ [])
    (hls : ∀ l ∈ ls, l ∈ dataLocations) : withoutLocations (ws ++ ls) = withoutLocations ws := by
  cases ws with
  | nil => exact absurd rfl hws
  | cons w rest =>
    have hpos : ∀ l ∈ ls.reverse, decide (l ∈ dataLocations) = true := by simpa using hls
    rw [List.cons_append, withoutLocations, withoutLocations, List.reverse_append,
      List.dropWhile_append_of_pos hpos]

theorem unlocated_withoutLocations (ws : List (List Char)) : Unlocated (withoutLocations ws) := by
  cases ws with
  | nil => exact nofun
  | cons w rest =>
    intro last hlast
    have hhead := List.head?_dropWhile_not (fun w => decide (w ∈ dataLocations)) rest.reverse
    rw [withoutLocations, List.tail_cons, List.getLast?_reverse] at hlast
    rw [Option.mem_def.1 hlast] at hhead
    simpa using hhead

/-! ## Each step with a suffix -/

/-- Only two words can become something else. -/
theorem collapsed_of_length_ne {ws : List (List Char)} (h : ws.length ≠ 2) :
    collapsed ws = [' '].intercalate ws := by
  unfold collapsed
  split
  · exact absurd rfl h
  · rfl

/-- What is made of the words does not depend on a suffix behind the last one. -/
theorem collapsed_append (before : List (List Char)) (w : List Char) {suffix : List Char}
    (hsuffix : IsSuffix suffix) :
    collapsed (before ++ [w ++ suffix]) = collapsed (before ++ [w]) ++ suffix := by
  match before with
  | [] => simp [collapsed]
  | [kind] =>
    simp only [List.singleton_append, collapsed, splitSuffix_append w hsuffix]
    split
    · rw [List.append_assoc]
    split
    · rw [List.append_assoc]
    split
    · rfl
    · rw [List.append_assoc, List.cons_append]
  | kind :: second :: rest =>
    rw [collapsed_of_length_ne (by simp), collapsed_of_length_ne (by simp),
      Text.intercalate_append_last]

theorem expanded_eq (type : List Char) :
    expanded type = fullName (splitSuffix type).1 ++ (splitSuffix type).2 := rfl

theorem expanded_append (type : List Char) {suffix : List Char} (hsuffix : IsSuffix suffix) :
    expanded (type ++ suffix) = expanded type ++ suffix := by
  rw [expanded_eq, expanded_eq, splitSuffix_append type hsuffix, List.append_assoc]

/-! ## Arrays -/

/-- A type that arrays can be made of: it has words, it ends with the last one of them, and that is
no data location unless it is the only word. -/
structure ElementType (type : String) : Prop where
  hasWords : words type.toList ≠ []
  unblank : ∀ c ∈ type.toList.getLast?, isBlank c = false
  unlocated : (words type.toList).length = 1 ∨
    ∀ w ∈ (words type.toList).getLast?, w ∉ dataLocations

/-- What is written behind the element type of an array. It is empty where there is no array. -/
structure ArraySuffix (suffix : String) : Prop where
  isSuffix : IsSuffix suffix.toList
  unblank : ∀ c ∈ suffix.toList, isBlank c = false

instance (suffix : String) : Decidable (ArraySuffix suffix) :=
  decidable_of_iff (IsSuffix suffix.toList ∧ (suffix.toList.all fun c => !isBlank c) = true)
    ⟨fun h => ⟨h.1, Text.all_unblank_iff.1 h.2⟩,
      fun h => ⟨h.isSuffix, Text.all_unblank_iff.2 h.unblank⟩⟩

/-- A type with data locations after it. -/
def located (type : String) (locations : List String) : String :=
  type ++ String.join (locations.map (" " ++ ·))

theorem toList_located (type : String) (locations : List String) :
    (located type locations).toList =
      type.toList ++ (locations.map String.toList).flatMap (' ' :: ·) := by
  simp [located, List.flatMap_map]

/-- A suffix makes no data location of a word. -/
theorem not_mem_dataLocations_append {w suffix : List Char} (hw : w ∉ dataLocations)
    (hsuffix : IsSuffix suffix) : w ++ suffix ∉ dataLocations := by
  intro h
  cases suffix with
  | nil => exact hw (by simpa using h)
  | cons c suffix =>
    obtain rfl := hsuffix c rfl
    exact bracket_not_mem_of_mem_dataLocations h (by simp)

theorem canonicalType_located {raw suffix : String} {locations : List String}
    (hraw : ElementType raw) (hsuffix : ArraySuffix suffix)
    (hlocations : ∀ l ∈ locations, l.toList ∈ dataLocations) :
    canonicalType (located (raw ++ suffix) locations) = canonicalType raw ++ suffix := by
  obtain ⟨before, w, -, hwords, hmore⟩ := Text.exists_last_word hraw.hasWords hraw.unblank
  have hls : ∀ l ∈ locations.map String.toList, l ∈ dataLocations := by simpa using hlocations
  have hlocated : words (located (raw ++ suffix) locations).toList =
      before ++ [w ++ suffix.toList] ++ locations.map String.toList := by
    rw [toList_located, Text.words_append_spaced fun l hl => isWord_of_mem_dataLocations (hls l hl),
      String.toList_append, hmore _ hsuffix.unblank]
  have hlast : before = [] ∨ w ∉ dataLocations := by
    refine hraw.unlocated.imp (fun hone => ?_) fun hnot => hnot w (by simp [hwords])
    simpa [hwords] using hone
  have hlast' : before = [] ∨ w ++ suffix.toList ∉ dataLocations :=
    hlast.imp_right fun hw => not_mem_dataLocations_append hw hsuffix.isSuffix
  calc canonicalType (located (raw ++ suffix) locations)
      = String.ofList (expanded (collapsed (before ++ [w ++ suffix.toList]))) := by
        rw [canonicalType, hlocated, withoutLocations_append (by simp) hls,
          withoutLocations_of_unlocated (unlocated_append_last_iff.2 hlast')]
    _ = String.ofList (expanded (collapsed (before ++ [w])) ++ suffix.toList) := by
        rw [collapsed_append before w hsuffix.isSuffix, expanded_append _ hsuffix.isSuffix]
    _ = canonicalType raw ++ suffix := by
        rw [canonicalType, hwords,
          withoutLocations_of_unlocated (unlocated_append_last_iff.2 hlast), String.ofList_append,
          String.ofList_toList]

/-- An array has the canonical type of its element type with the suffix behind it, wherever it is
kept. So two arrays of one type are the same exactly if their suffixes are, and no array is the same
as its element type, be that a contract, an interface, an enumeration, a structure, a payable
address, a short name or anything else. -/
theorem canonicalType_arrays {raw suffix : String} {locations : List String}
    (hraw : ElementType raw) (hsuffix : ArraySuffix suffix)
    (hlocations : ∀ l ∈ locations, l.toList ∈ dataLocations) :
    canonicalType (located (raw ++ suffix) locations) = canonicalType raw ++ suffix ∧
      ∀ suffix' locations', ArraySuffix suffix' → (∀ l ∈ locations', l.toList ∈ dataLocations) →
        (canonicalType (located (raw ++ suffix) locations) =
          canonicalType (located (raw ++ suffix') locations') ↔ suffix = suffix') := by
  refine ⟨canonicalType_located hraw hsuffix hlocations, fun suffix' locations' hsuffix' h' => ?_⟩
  rw [canonicalType_located hraw hsuffix hlocations, canonicalType_located hraw hsuffix' h',
    String.append_right_inj]

/-- Arrays of arrays of contracts are no contracts. -/
theorem canonicalType_arrays_of_contracts :
    ElementType "contract IERC20" ∧ ArraySuffix "[2][]" ∧
      canonicalType "contract IERC20[2][] storage ref" = "address[2][]" ∧
      canonicalType "contract IERC20[2][] storage ref" ≠ canonicalType "contract IERC20 memory" := by
  have hraw : ElementType "contract IERC20" := by
    refine ⟨by decide, fun c hc => ?_, by decide⟩
    obtain rfl : '0' = c := Option.some.inj hc
    decide
  have hsuffix : ArraySuffix "[2][]" := by decide
  obtain ⟨harray, hsame⟩ := canonicalType_arrays hraw hsuffix
    (show ∀ l ∈ ["storage", "ref"], l.toList ∈ dataLocations by decide)
  refine ⟨hraw, hsuffix, harray.trans (by decide), fun heq => ?_⟩
  exact absurd ((hsame "" ["memory"] (by decide) (by decide)).1 heq) (by decide)

end TokenConformance.Solidity
