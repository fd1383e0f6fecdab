import TokenConformance.Proofs.Json.Pretty
import TokenConformance.Text.Utf8

/-! # A text is read back from its bytes

* `start_of_lead2`, `start_of_lead3`, `start_of_lead4`: what the first byte of a longer character
  says.
* `advance_more`, `advance_last`: what the further ones say.
* `decode_encode`: the bytes of a text are read as its characters.
* `Json.ofBytes?_pretty`: so the bytes of a written value are read as the value.
-/

namespace TokenConformance

namespace Text.Utf8

/-! ## Single bytes -/

variable {n : Nat}

theorem toNat_ofNat (h : n < 256) : (UInt8.ofNat n).toNat = n := by
  rw [UInt8.toNat_ofNat', Nat.mod_eq_of_lt h]

theorem start_of_ascii (h : n < 0x80) : start (.ofNat n) = ([some (Char.ofNat n)], none) := by
  rw [start, toNat_ofNat (by omega), if_pos h]

theorem start_of_lead2 (h : 0xC2 ≤ n) (h' : n < 0xE0) :
    start (.ofNat n) = ([], some ⟨n - 0xC0, 0, 0x80, 0xBF⟩) := by
  rw [start, toNat_ofNat (by omega), if_neg (by omega), if_neg (by omega), if_pos h']

theorem start_of_lead3 (h : 0xE0 ≤ n) (h' : n < 0xF0) :
    start (.ofNat n) = ([], some ⟨n - 0xE0, 1, if n = 0xE0 then 0xA0 else 0x80,
      if n = 0xED then 0x9F else 0xBF⟩) := by
  rw [start, toNat_ofNat (by omega), if_neg (by omega), if_neg (by omega), if_neg (by omega),
    if_pos h']

theorem start_of_lead4 (h : 0xF0 ≤ n) (h' : n < 0xF5) :
    start (.ofNat n) = ([], some ⟨n - 0xF0, 2, if n = 0xF0 then 0x90 else 0x80,
      if n = 0xF4 then 0x8F else 0xBF⟩) := by
  rw [start, toNat_ofNat (by omega), if_neg (by omega), if_neg (by omega), if_neg (by omega),
    if_neg (by omega), if_pos h']

/-- A byte with six further bits of a character. -/
theorem continues {low high : UInt8} (hn : n < 0x40) (hlow : low.toNat ≤ n + 0x80)
    (hhigh : n + 0x80 ≤ high.toNat) :
    low ≤ .ofNat (n + 0x80) ∧ .ofNat (n + 0x80) ≤ high := by
  rw [UInt8.le_iff_toNat_le, UInt8.le_iff_toNat_le, toNat_ofNat (by omega)]
  exact ⟨hlow, hhigh⟩

theorem advance_more {value more : Nat} {low high : UInt8} (hn : n < 0x40)
    (hlow : low.toNat ≤ n + 0x80) (hhigh : n + 0x80 ≤ high.toNat) :
    advance (some ⟨value, more + 1, low, high⟩) (.ofNat (n + 0x80)) =
      ([], some ⟨value * 64 + n, more, 0x80, 0xBF⟩) := by
  rw [advance, if_pos (continues hn hlow hhigh)]
  simp only [toNat_ofNat (show n + 0x80 < 256 by omega), Nat.add_sub_cancel]

theorem advance_last {value : Nat} {low high : UInt8} (hn : n < 0x40)
    (hlow : low.toNat ≤ n + 0x80) (hhigh : n + 0x80 ≤ high.toNat) :
    advance (some ⟨value, 0, low, high⟩) (.ofNat (n + 0x80)) =
      ([some (Char.ofNat (value * 64 + n))], none) := by
  rw [advance, if_pos (continues hn hlow hhigh)]
  simp only [toNat_ofNat (show n + 0x80 < 256 by omega), Nat.add_sub_cancel]

/-! ## Characters -/

theorem decodeAfter_cons (read : List (Option Char)) (pending : Option Pending) (b : UInt8)
    (rest : List UInt8) : decodeAfter read pending (b :: rest) =
      decodeAfter ((advance pending b).1.reverse ++ read) (advance pending b).2 rest := by
  rw [decodeAfter]

/-- The bytes of a character are read as the character. -/
theorem decodeAfter_char (read : List (Option Char)) (c : Char) (rest : List UInt8) :
    decodeAfter read none (String.utf8EncodeChar c ++ rest) =
      decodeAfter (some c :: read) none rest := by
  have hvalid : c.val.toNat < 0xD800 ∨ 0xDFFF < c.val.toNat ∧ c.val.toNat < 0x110000 := c.valid
  have hc : Char.ofNat c.val.toNat = c := Char.ofNat_toNat c
  unfold String.utf8EncodeChar
  generalize c.val.toNat = v at hvalid hc
  dsimp only
  split
  · rw [List.singleton_append, decodeAfter_cons, advance, start_of_ascii (by omega), hc]
    rfl
  split
  · have hv : (v / 64 % 32 + 192 - 192) * 64 + v % 64 = v := by omega
    rw [List.cons_append, List.singleton_append, decodeAfter_cons, advance,
      start_of_lead2 (by omega) (by omega), decodeAfter_cons,
      advance_last (by omega) (by simp) (by simp; omega), hv, hc]
    rfl
  split
  · have hv : ((v / 4096 % 16 + 224 - 224) * 64 + v / 64 % 64) * 64 + v % 64 = v := by omega
    -- neither an overlong form nor a surrogate
    have hlow : (if v / 4096 % 16 + 224 = 0xE0 then (0xA0 : UInt8) else 0x80).toNat ≤
        v / 64 % 64 + 0x80 := by
      split
      · exact (by omega : 160 ≤ v / 64 % 64 + 128)
      · exact (by omega : 128 ≤ v / 64 % 64 + 128)
    have hhigh : v / 64 % 64 + 0x80 ≤
        (if v / 4096 % 16 + 224 = 0xED then (0x9F : UInt8) else 0xBF).toNat := by
      split
      · exact (by omega : v / 64 % 64 + 128 ≤ 159)
      · exact (by omega : v / 64 % 64 + 128 ≤ 191)
    rw [List.cons_append, List.cons_append, List.singleton_append, decodeAfter_cons, advance,
      start_of_lead3 (by omega) (by omega), decodeAfter_cons,
      advance_more (by omega) hlow hhigh, decodeAfter_cons,
      advance_last (by omega) (by simp) (by simp; omega), hv, hc]
    rfl
  · have hv : (((v / 262144 % 8 + 240 - 240) * 64 + v / 4096 % 64) * 64 + v / 64 % 64) * 64 +
        v % 64 = v := by omega
    -- neither an overlong form nor a value that is too large
    have hlow : (if v / 262144 % 8 + 240 = 0xF0 then (0x90 : UInt8) else 0x80).toNat ≤
        v / 4096 % 64 + 0x80 := by
      split
      · exact (by omega : 144 ≤ v / 4096 % 64 + 128)
      · exact (by omega : 128 ≤ v / 4096 % 64 + 128)
    have hhigh : v / 4096 % 64 + 0x80 ≤
        (if v / 262144 % 8 + 240 = 0xF4 then (0x8F : UInt8) else 0xBF).toNat := by
      split
      · exact (by omega : v / 4096 % 64 + 128 ≤ 143)
      · exact (by omega : v / 4096 % 64 + 128 ≤ 191)
    rw [List.cons_append, List.cons_append, List.cons_append, List.singleton_append,
      decodeAfter_cons, advance, start_of_lead4 (by omega) (by omega), decodeAfter_cons,
      advance_more (by omega) hlow hhigh, decodeAfter_cons,
      advance_more (by omega) (by simp) (by simp; omega), decodeAfter_cons,
      advance_last (by omega) (by simp) (by simp; omega), hv, hc]
    rfl

theorem decodeAfter_chars (read : List (Option Char)) (cs : List Char) :
    decodeAfter read none (cs.flatMap String.utf8EncodeChar) = read.reverse ++ cs.map some := by
  induction cs generalizing read with
  | nil => rw [List.flatMap_nil, decodeAfter, List.map_nil, List.append_nil]
  | cons c cs ih =>
    rw [List.flatMap_cons, decodeAfter_char, ih, List.reverse_cons, List.append_assoc,
      List.singleton_append, List.map_cons]

/-- The bytes of a text are read as its characters. -/
theorem decode_encode (s : String) : decode (encode s) = s.toList.map some :=
  decodeAfter_chars [] s.toList

end Text.Utf8

/-- The bytes of a written value are read as the value. -/
theorem Json.ofBytes?_pretty {j : Json} (h : Writable j) :
    ofBytes? (Text.Utf8.encode j.pretty) = some j := by
  rw [ofBytes?, Text.Utf8.decode_encode]
  exact ofText?_pretty h

end TokenConformance
