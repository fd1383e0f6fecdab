import Mathlib
import TokenConformance.Text.Blank

/-! # Letters and digits

Only ASCII letters have a case here.

* `toLower_eq_iff`, `toUpper_eq_iff`: the characters that become a letter.
* `isAlphanum_toLower`: a letter stays one.
* `isBlank_of_isAlphanum`: letters and digits are not blank.
-/

namespace TokenConformance.Text

/-- A character becomes a small letter if it is that letter or the capital one. -/
theorem toLower_eq_iff {c letter : Char} (h : letter.isLower = true) :
    c.toLower = letter ↔ c = letter ∨ c = letter.toUpper := by
  have hletter : letter.toLower = letter :=
    Char.toLower_eq_of_not_isUpper (Char.not_isUpper_of_isLower h)
  constructor
  · rintro rfl
    by_cases hc : c.isUpper = true
    · rw [Char.toUpper_toLower_eq_toUpper,
        Char.toUpper_eq_of_not_isLower (Char.not_isLower_of_isUpper hc)]
      exact .inr rfl
    · exact .inl (Char.toLower_eq_of_not_isUpper hc).symm
  · rintro (rfl | rfl)
    · exact hletter
    · rw [Char.toLower_toUpper_eq_toLower, hletter]

/-- A character becomes a capital letter or something without case if it is that, in either case. -/
theorem toUpper_eq_iff {c letter : Char} (h : letter.isLower = false) :
    c.toUpper = letter ↔ c = letter ∨ c = letter.toLower := by
  have hletter : letter.toUpper = letter := Char.toUpper_eq_of_not_isLower (by simp [h])
  constructor
  · rintro rfl
    by_cases hc : c.isLower = true
    · rw [Char.toLower_toUpper_eq_toLower,
        Char.toLower_eq_of_not_isUpper (Char.not_isUpper_of_isLower hc)]
      exact .inr rfl
    · exact .inl (Char.toUpper_eq_of_not_isLower hc).symm
  · rintro (rfl | rfl)
    · exact hletter
    · rw [Char.toUpper_toLower_eq_toUpper, hletter]

theorem isAlphanum_toLower {c : Char} (h : c.isAlphanum = true) : c.toLower.isAlphanum = true := by
  by_cases hupper : c.isUpper = true
  · rw [Char.isAlphanum, Char.isAlpha_toLower_eq_isAlpha, Char.isAlpha, hupper, Bool.true_or,
      Bool.true_or]
  · rwa [Char.toLower_eq_of_not_isUpper hupper]

theorem toNat_of_isAlphanum {c : Char} (h : c.isAlphanum = true) :
    48 ≤ c.toNat ∧ c.toNat ≤ 122 := by
  simp only [Char.isAlphanum, Char.isAlpha, Char.isUpper, Char.isLower, Char.isDigit,
    Bool.or_eq_true, Bool.and_eq_true, decide_eq_true_eq, ge_iff_le, UInt32.le_iff_toNat_le] at h
  change ((65 ≤ c.toNat ∧ c.toNat ≤ 90) ∨ 97 ≤ c.toNat ∧ c.toNat ≤ 122) ∨
    48 ≤ c.toNat ∧ c.toNat ≤ 57 at h
  omega

theorem isBlank_of_isAlphanum {c : Char} (h : c.isAlphanum = true) : isBlank c = false := by
  have hc := toNat_of_isAlphanum h
  have hranges : ∀ r ∈ blankRanges, r.2 < 48 ∨ 122 < r.1 := by decide
  rw [isBlank, List.any_eq_false]
  intro r hr
  have hapart := hranges r hr
  rw [Bool.and_eq_true, decide_eq_true_eq, decide_eq_true_eq]
  omega

end TokenConformance.Text
