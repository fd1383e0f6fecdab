import Mathlib.Data.List.Basic
import TokenConformance.Proofs.Solidity.ArraySuffix

/-! # The canonical form of types

Every description of a type is brought to one form, and what has this form is left as it is.

* `shortNames`, `Collapses`: the names and the pairs of words that a canonical type does not have.
* `Settled`, `IsCanonical`: the form, said by the words of a type.
* `canonicalType_of_isCanonical`: a type of this form is left alone.
* `exists_settled_collapsed`, `exists_settled_expanded`: the words that the steps leave.
* `isCanonical_canonicalType`: what comes out has the form.
* `canonicalType_normalForm`: the canonical types are those of this form.
-/

namespace TokenConformance.Solidity

open Text (IsWord words isBlank)

/-! ## The form -/

/-- The names of elementary types that are not written in full. -/
def shortNames : List (List Char) := ["uint", "int", "byte"].map String.toList

/-- The words before the name of a type that is not elementary. -/
def namedKinds : List (List Char) :=
  ["contract", "interface", "enum", "struct"].map String.toList

/-- Two words that become one. -/
inductive Collapses : List Char → List Char → Prop where
  | named {kind} (h : kind ∈ namedKinds) (name) : Collapses kind name
  | payable {suffix} (h : IsSuffix suffix) :
      Collapses "address".toList ("payable".toList ++ suffix)

/-- Words of which none goes. -/
structure Settled (ws : List (List Char)) : Prop where
  /-- Of several words the last one is no data location. -/
  unlocated : Unlocated ws
  /-- Two words are not a pair that becomes one. -/
  uncollapsed : ∀ kind name, ws = [kind, name] → ¬Collapses kind name

/-- A type is in canonical form. -/
structure IsCanonical (type : String) : Prop extends Settled (words type.toList) where
  /-- Between the words stands one space each, and there is no other blank. -/
  spaced : [' '].intercalate (words type.toList) = type.toList
  /-- What stands before the first bracket is no short name. -/
  fullName : (splitSuffix type.toList).1 ∉ shortNames

/-! ## Short names -/

theorem fullName_of_not_mem {name : List Char} (h : name ∉ shortNames) : fullName name = name := by
  simp only [shortNames, List.map_cons, List.map_nil, List.mem_cons, List.not_mem_nil, or_false,
    not_or] at h
  rw [Solidity.fullName, if_neg h.1, if_neg h.2.1, if_neg h.2.2]

/-- What holds of the full names, and of a name that is not short, holds of every name in full. -/
theorem fullName_induction {P : List Char → Prop}
    (hfull : ∀ name ∈ ["uint256", "int256", "bytes1"].map String.toList, P name)
    {name : List Char} (hname : name ∉ shortNames → P name) : P (fullName name) := by
  by_cases h : name ∈ shortNames
  · have hall : ∀ name ∈ shortNames,
        Solidity.fullName name ∈ ["uint256", "int256", "bytes1"].map String.toList := by decide
    exact hfull _ (hall name h)
  · rw [fullName_of_not_mem h]
    exact hname h

theorem fullName_not_mem (name : List Char) : fullName name ∉ shortNames :=
  fullName_induction (P := (· ∉ shortNames)) (by decide) id

theorem bracket_not_mem_fullName {name : List Char} (h : '[' ∉ name) : '[' ∉ fullName name :=
  fullName_induction (P := ('[' ∉ ·)) (by decide) fun _ => h

theorem splitSuffix_expanded (type : List Char) :
    splitSuffix (expanded type) = (fullName (splitSuffix type).1, (splitSuffix type).2) :=
  splitSuffix_eq (bracket_not_mem_fullName (bracket_not_mem_name type)) (isSuffix_snd type)

theorem expanded_of_not_mem {type : List Char} (h : (splitSuffix type).1 ∉ shortNames) :
    expanded type = type := by
  rw [expanded_eq, fullName_of_not_mem h, splitSuffix_join]

theorem bracket_mem_expanded {type : List Char} (h : '[' ∈ type) : '[' ∈ expanded type := by
  have hmem : '[' ∈ (splitSuffix type).1 ++ (splitSuffix type).2 := by rwa [splitSuffix_join]
  rcases List.mem_append.1 hmem with hname | hsuffix
  · exact absurd hname (bracket_not_mem_name type)
  · exact List.mem_append_right _ hsuffix

/-- Before a space, only a word that has its suffix with it can be a short name. -/
theorem expanded_append_space (u rest : List Char) :
    expanded (u ++ ' ' :: rest) = (if '[' ∈ u then expanded u else u) ++ ' ' :: rest := by
  split
  · next hbracket =>
    -- the suffix begins inside the word, so it goes on behind the space
    have hsuffix : (splitSuffix u).2 ≠ [] := by
      intro hnil
      have hname : (splitSuffix u).1 = u := by
        rw [← List.append_nil (splitSuffix u).1, ← hnil, splitSuffix_join]
      exact bracket_not_mem_name u (hname.symm ▸ hbracket)
    have hlong : IsSuffix ((splitSuffix u).2 ++ ' ' :: rest) := by
      intro c hc
      rw [List.head?_append_of_ne_nil _ hsuffix] at hc
      exact isSuffix_snd u c hc
    have hsplit := splitSuffix_eq (bracket_not_mem_name u) hlong
    rw [← List.append_assoc, splitSuffix_join] at hsplit
    rw [expanded_eq, expanded_eq, hsplit, List.append_assoc]
  · next hbracket =>
    -- the space is in what stands before the suffix, and no short name has one
    have hspace : ' ' ∈ (splitSuffix (u ++ ' ' :: rest)).1 := by
      have hne : ∀ c ∈ u, decide (c ≠ '[') = true := by
        intro c hc
        rw [decide_eq_true_eq]
        exact fun h => hbracket (h ▸ hc)
      rw [splitSuffix, List.takeWhile_append_of_pos hne]
      simp
    have hshort : ∀ name ∈ shortNames, ' ' ∉ name := by decide
    exact expanded_of_not_mem fun h => hshort _ h hspace

theorem unblank_suffix {w : List Char} (hw : IsWord w) :
    ∀ c ∈ (splitSuffix w).2, isBlank c = false :=
  fun c hc => hw.unblank c ((List.dropWhile_suffix _).subset hc)

theorem isWord_expanded {u : List Char} (hu : IsWord u) : IsWord (expanded u) := by
  have hsuffix := unblank_suffix hu
  have hall : ∀ name ∈ ["uint256", "int256", "bytes1"].map String.toList, IsWord name := by decide
  rw [expanded_eq]
  refine fullName_induction (P := fun name => IsWord (name ++ (splitSuffix u).2))
    (fun name hname => (hall name hname).append hsuffix) fun _ => ?_
  rwa [splitSuffix_join]

/-! ## Pairs of words -/

theorem bracket_not_mem_of_collapses {kind name : List Char} (h : Collapses kind name) :
    '[' ∉ kind := by
  cases h with
  | named h =>
    have hall : ∀ kind ∈ namedKinds, '[' ∉ kind := by decide
    exact hall kind h
  | payable => decide

theorem collapses_iff {kind name : List Char} : Collapses kind name ↔
    (kind = "address".toList ∧ (splitSuffix name).1 = "payable".toList ∨
      kind = "contract".toList ∨ kind = "interface".toList) ∨
    kind = "enum".toList ∨ kind = "struct".toList := by
  have hnamed : kind ∈ namedKinds ↔ kind = "contract".toList ∨ kind = "interface".toList ∨
      kind = "enum".toList ∨ kind = "struct".toList := by
    simp only [namedKinds, List.map_cons, List.map_nil, List.mem_cons, List.not_mem_nil, or_false]
  have hpayable : kind = "address".toList ∧ (splitSuffix name).1 = "payable".toList →
      Collapses kind name := by
    rintro ⟨rfl, hname⟩
    rw [← splitSuffix_join name, hname]
    exact .payable (isSuffix_snd name)
  constructor
  · intro h
    cases h with
    | named h => rcases hnamed.1 h with h | h | h | h <;> simp only [h, true_or, or_true]
    | payable h => rw [splitSuffix_eq (by decide) h]; exact .inl (.inl ⟨rfl, rfl⟩)
  · rintro ((h | h | h) | h | h)
    · exact hpayable h
    all_goals exact .named (hnamed.2 (by simp only [h, true_or, or_true])) name

theorem collapsed_pair (kind name : List Char) : collapsed [kind, name] =
    if kind = "address".toList ∧ (splitSuffix name).1 = "payable".toList ∨
        kind = "contract".toList ∨ kind = "interface".toList then
      "address".toList ++ (splitSuffix name).2
    else if kind = "enum".toList then "uint8".toList ++ (splitSuffix name).2
    else if kind = "struct".toList then name
    else kind ++ ' ' :: name := rfl

theorem collapsed_of_not_collapses {kind name : List Char} (h : ¬Collapses kind name) :
    collapsed [kind, name] = [' '].intercalate [kind, name] := by
  obtain ⟨haddress, hnamed⟩ := not_or.1 (mt collapses_iff.2 h)
  obtain ⟨henum, hstruct⟩ := not_or.1 hnamed
  rw [collapsed_pair, if_neg haddress, if_neg henum, if_neg hstruct, List.intercalate_cons_cons,
    List.intercalate_singleton, List.append_assoc, List.singleton_append]

theorem isWord_collapsed {kind name : List Char} (h : Collapses kind name) (hname : IsWord name) :
    IsWord (collapsed [kind, name]) := by
  have hsuffix := unblank_suffix hname
  rw [collapsed_pair]
  split
  · exact (show IsWord "address".toList by decide).append hsuffix
  split
  · exact (show IsWord "uint8".toList by decide).append hsuffix
  split
  · exact hname
  · next haddress henum hstruct =>
    rcases collapses_iff.1 h with h | h | h
    · exact absurd h haddress
    · exact absurd h henum
    · exact absurd h hstruct

/-! ## Words -/

theorem Settled.collapsed_eq {ws : List (List Char)} (h : Settled ws) :
    collapsed ws = [' '].intercalate ws := by
  by_cases hlength : ws.length = 2
  · obtain ⟨kind, name, rfl⟩ := List.length_eq_two.1 hlength
    exact collapsed_of_not_collapses (h.uncollapsed kind name rfl)
  · exact collapsed_of_length_ne hlength

/-- A type in canonical form is left as it is. -/
theorem canonicalType_of_isCanonical {type : String} (h : IsCanonical type) :
    canonicalType type = type := by
  rw [canonicalType, withoutLocations_of_unlocated h.unlocated, h.toSettled.collapsed_eq, h.spaced,
    expanded_of_not_mem h.fullName, String.ofList_toList]

/-- Of words that do not end in a data location, such words are left that none of them goes. -/
theorem exists_settled_collapsed {ws : List (List Char)} (hws : ∀ w ∈ ws, IsWord w)
    (hunlocated : Unlocated ws) :
    ∃ us, collapsed ws = [' '].intercalate us ∧ (∀ u ∈ us, IsWord u) ∧ Settled us := by
  by_cases hpair : ∃ kind name, ws = [kind, name] ∧ Collapses kind name
  · obtain ⟨kind, name, rfl, hcollapses⟩ := hpair
    have hword := isWord_collapsed hcollapses (hws name (by simp))
    exact ⟨[collapsed [kind, name]], by simp, by simpa using hword, by simp [Unlocated], by simp⟩
  · have hsettled : Settled ws :=
      ⟨hunlocated, fun kind name hws hcollapses => hpair ⟨kind, name, hws, hcollapses⟩⟩
    exact ⟨ws, hsettled.collapsed_eq, hws, hsettled⟩

/-- A name in full belongs to the same word as the short one. -/
theorem exists_settled_expanded {us : List (List Char)} (hus : ∀ u ∈ us, IsWord u)
    (h : Settled us) :
    ∃ vs, expanded ([' '].intercalate us) = [' '].intercalate vs ∧ (∀ v ∈ vs, IsWord v) ∧
      Settled vs := by
  match us with
  | [] => exact ⟨[], rfl, hus, h⟩
  | [u] =>
    refine ⟨[expanded u], by simp, ?_, by simp [Unlocated], by simp⟩
    simpa using isWord_expanded (hus u (by simp))
  | u :: v :: rest =>
    obtain ⟨hu, hrest⟩ := List.forall_mem_cons.1 hus
    refine ⟨(if '[' ∈ u then expanded u else u) :: v :: rest, ?_, ?_, h.unlocated, ?_⟩
    · simp only [List.intercalate_cons_cons, List.append_assoc, List.singleton_append,
        expanded_append_space]
    · refine List.forall_mem_cons.2 ⟨?_, hrest⟩
      split
      · exact isWord_expanded hu
      · exact hu
    · rintro kind name heq hcollapses
      obtain ⟨rfl, hname⟩ := List.cons.inj heq
      split at hcollapses
      · next hbracket =>
        exact bracket_not_mem_of_collapses hcollapses (bracket_mem_expanded hbracket)
      · exact h.uncollapsed u name (by rw [hname]) hcollapses

theorem mem_of_mem_withoutLocations {ws : List (List Char)} {w : List Char}
    (h : w ∈ withoutLocations ws) : w ∈ ws := by
  cases ws with
  | nil => exact h
  | cons first rest =>
    refine List.mem_cons.2 ((List.mem_cons.1 h).imp_right fun hw => ?_)
    exact List.mem_reverse.1 ((List.dropWhile_suffix _).subset (List.mem_reverse.1 hw))

/-- Whatever is written, its canonical type is in canonical form. -/
theorem isCanonical_canonicalType (raw : String) : IsCanonical (canonicalType raw) := by
  have hwords : ∀ w ∈ withoutLocations (words raw.toList), IsWord w :=
    fun w hw => Text.isWord_of_mem_words (mem_of_mem_withoutLocations hw)
  obtain ⟨us, hcollapsed, hus, hsettled⟩ :=
    exists_settled_collapsed hwords (unlocated_withoutLocations _)
  obtain ⟨vs, hexpanded, hvs, hsettled'⟩ := exists_settled_expanded hus hsettled
  have htype : (canonicalType raw).toList = [' '].intercalate vs := by
    rw [canonicalType, String.toList_ofList, hcollapsed, hexpanded]
  have hvswords : words (canonicalType raw).toList = vs := by
    rw [htype, Text.words_spaced hvs]
  refine ⟨hvswords ▸ hsettled', by rw [hvswords, htype], ?_⟩
  rw [canonicalType, String.toList_ofList, splitSuffix_expanded]
  exact fullName_not_mem _

/-- The canonical types are exactly the types in canonical form, and these are their own canonical
types. Nothing of a description matters but its words. -/
theorem canonicalType_normalForm (raw : String) :
    canonicalType (canonicalType raw) = canonicalType raw ∧
      (∀ other : String, words other.toList = words raw.toList →
        canonicalType other = canonicalType raw) ∧
      IsCanonical (canonicalType raw) ∧
      ∀ type, IsCanonical type ↔ ∃ raw, canonicalType raw = type := by
  have hform := isCanonical_canonicalType raw
  refine ⟨canonicalType_of_isCanonical hform, fun other hother => ?_, hform, fun type => ?_⟩
  · rw [canonicalType, canonicalType, hother]
  · refine ⟨fun h => ⟨type, canonicalType_of_isCanonical h⟩, ?_⟩
    rintro ⟨raw, rfl⟩
    exact isCanonical_canonicalType raw

/-- A struct is known by its name, and a name that is short is written in full. -/
example : canonicalType "\tstruct  uint[3] memory" = "uint256[3]" := by decide

end TokenConformance.Solidity
