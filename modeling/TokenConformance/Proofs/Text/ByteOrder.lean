import TokenConformance.Text.Utf8

/-! # The order of texts is the order of their bytes

Texts are compared character by character, and UTF-8 keeps that order.

* `utf8EncodeChar_append_lt`: the bytes of a smaller character are smaller, whatever follows.
* `encode_lt_iff`: so the bytes of a smaller text are smaller, and only those.
* `compare_eq_lt_iff`: sets and keys stand in the order of their bytes.
-/

namespace TokenConformance.Text.Utf8

variable {s t : List UInt8}

theorem ofNat_cons_lt_iff {m n : Nat} (hm : m < 256) (hn : n < 256) :
    UInt8.ofNat m :: s < UInt8.ofNat n :: t ↔ m < n ∨ m = n ∧ s < t := by
  rw [List.cons_lt_cons_iff, UInt8.lt_iff_toNat_lt, ← UInt8.toNat_inj, UInt8.toNat_ofNat',
    UInt8.toNat_ofNat', Nat.mod_eq_of_lt hm, Nat.mod_eq_of_lt hn]

/-- Of two numbers the first digit in base 64 that differs decides. -/
theorem digits_of_lt {v w : Nat} (h : v < w) :
    v / 262144 < w / 262144 ∨ v / 262144 = w / 262144 ∧
      (v / 4096 % 64 < w / 4096 % 64 ∨ v / 4096 % 64 = w / 4096 % 64 ∧
        (v / 64 % 64 < w / 64 % 64 ∨ v / 64 % 64 = w / 64 % 64 ∧ v % 64 < w % 64)) := by
  omega

/-- Of two characters the smaller one has the smaller bytes, whatever follows. -/
theorem utf8EncodeChar_append_lt {a b : Char} (h : a < b) :
    String.utf8EncodeChar a ++ s < String.utf8EncodeChar b ++ t := by
  have hb : b.val.toNat < 0xD800 ∨ 0xDFFF < b.val.toNat ∧ b.val.toNat < 0x110000 := b.valid
  have hab : a.val.toNat < b.val.toNat := h
  unfold String.utf8EncodeChar
  generalize a.val.toNat = v at hab
  generalize b.val.toNat = w at hab hb
  have hdigits := digits_of_lt hab
  dsimp only
  repeat' split
  all_goals simp (disch := omega) only [List.cons_append, List.nil_append, ofNat_cons_lt_iff]
  -- with more bytes the first one is larger, and with as many the digits decide
  any_goals omega
  refine hdigits.imp (by omega) (And.imp (by omega) (Or.imp (by omega) (And.imp (by omega) ?_)))
  exact Or.imp (by omega) (And.imp (by omega) fun hlast => .inl (by omega))

theorem flatMap_utf8EncodeChar_lt {as bs : List Char} (h : as < bs) :
    as.flatMap String.utf8EncodeChar < bs.flatMap String.utf8EncodeChar := by
  induction h with
  | @nil b bs =>
    obtain ⟨byte, bytes, hbytes⟩ :=
      List.exists_cons_of_ne_nil (String.utf8EncodeChar_ne_nil (c := b))
    rw [List.flatMap_cons, hbytes]
    exact .nil
  | rel hab =>
    rw [List.flatMap_cons, List.flatMap_cons]
    exact utf8EncodeChar_append_lt hab
  | cons _ ih =>
    rw [List.flatMap_cons, List.flatMap_cons]
    exact List.append_left_lt ih

/-- A text is before another one exactly if its bytes are before the bytes of the other one. -/
theorem encode_lt_iff {s t : String} : encode s < encode t ↔ s < t := by
  refine ⟨fun h => Decidable.byContradiction fun hst => ?_, flatMap_utf8EncodeChar_lt⟩
  by_cases hts : t < s
  · exact List.lt_asymm h (flatMap_utf8EncodeChar_lt hts)
  · obtain rfl : s = t := String.le_antisymm (String.not_lt.1 hts) (String.not_lt.1 hst)
    exact List.lt_irrefl _ h

/-- In sets and among keys, texts stand in the order of their bytes. -/
theorem compare_eq_lt_iff {s t : String} : compare s t = .lt ↔ encode s < encode t :=
  compareOfLessAndEq_eq_lt.trans encode_lt_iff.symm

end TokenConformance.Text.Utf8
