/-
ArgTaint.Proofs.Text.Utf8 — bytes, and the characters read in them.

Reading looks for a character whose bytes come first. A character that is found
is written with the very bytes that it was read from, and a character is found
wherever its bytes come first. So a text stands for the bytes that it was read
from, and reading the bytes of a string gives its characters and no stray byte.

  §1 Ranges     — which bytes may follow which.
  §2 Characters — the four lengths, in both directions.
  §3 Texts      — `toBytes_ofBytes` and `ofBytes_bytesOf`.
-/
import ArgTaint.Proofs.Text.ByteOrder

namespace ArgTaint.Text

variable {a b d e : UInt8} {bs rest : List UInt8} {c : Char} {n : Nat}

/-! ## §1 Ranges -/

theorem isContinuation_iff : isContinuation b = true ↔ 0x80 ≤ b.toNat ∧ b.toNat ≤ 0xBF := by
  simp [isContinuation, UInt8.le_iff_toNat_le]

theorem within_iff {bounds : UInt8 × UInt8} :
    within bounds b = true ↔ bounds.1.toNat ≤ b.toNat ∧ b.toNat ≤ bounds.2.toNat := by
  simp [within, UInt8.le_iff_toNat_le]

/-- The code point is neither overlong nor a surrogate. -/
theorem within_secondOfThree_iff :
    within (secondOfThree a) b = true ↔
      (0x80 ≤ b.toNat ∧ b.toNat ≤ 0xBF) ∧ (a.toNat = 0xE0 → 0xA0 ≤ b.toNat) ∧
        (a.toNat = 0xED → b.toNat ≤ 0x9F) := by
  rw [within_iff, secondOfThree]
  simp only [← UInt8.toNat_inj]
  split_ifs <;> simp_all <;> omega

/-- The code point is neither overlong nor above U+10FFFF. -/
theorem within_secondOfFour_iff :
    within (secondOfFour a) b = true ↔
      (0x80 ≤ b.toNat ∧ b.toNat ≤ 0xBF) ∧ (a.toNat = 0xF0 → 0x90 ≤ b.toNat) ∧
        (a.toNat = 0xF4 → b.toNat ≤ 0x8F) := by
  rw [within_iff, secondOfFour]
  simp only [← UInt8.toNat_inj]
  split_ifs <;> simp_all <;> omega

/-! ## §2 Characters -/

theorem isScalar (c : Char) : c.toNat < 0xD800 ∨ (0xDFFF < c.toNat ∧ c.toNat < 0x110000) :=
  c.valid

theorem toNat_ofNat_scalar (h : n < 0xD800 ∨ (0xDFFF < n ∧ n < 0x110000)) :
    (Char.ofNat n).toNat = n := by
  rw [Char.toNat_ofNat, if_pos h]

theorem ofNat_eq_of_toNat (h : n = b.toNat) : UInt8.ofNat n = b := by
  rw [h, UInt8.ofNat_toNat]

theorem utf8EncodeChar_one (ha : a.toNat < 0x80) :
    String.utf8EncodeChar (Char.ofNat a.toNat) = [a] := by
  rw [String.utf8EncodeChar, Char.toNat_val, toNat_ofNat_scalar (by omega)]
  rw [if_pos (by omega), UInt8.ofNat_toNat]

theorem utf8EncodeChar_two (ha : 0xC2 ≤ a.toNat ∧ a.toNat < 0xE0)
    (hb : isContinuation b = true) :
    String.utf8EncodeChar (Char.ofNat (a.toNat % 32 * 64 + payload b)) = [a, b] := by
  rw [isContinuation_iff] at hb
  unfold payload
  rw [String.utf8EncodeChar, Char.toNat_val, toNat_ofNat_scalar (by omega)]
  rw [if_neg (by omega), if_pos (by omega), ofNat_eq_of_toNat (b := a) (by omega),
    ofNat_eq_of_toNat (b := b) (by omega)]

theorem utf8EncodeChar_three (ha : 0xE0 ≤ a.toNat ∧ a.toNat < 0xF0)
    (hb : within (secondOfThree a) b = true) (hd : isContinuation d = true) :
    String.utf8EncodeChar (Char.ofNat ((a.toNat % 16 * 64 + payload b) * 64 + payload d)) =
      [a, b, d] := by
  rw [within_secondOfThree_iff] at hb
  rw [isContinuation_iff] at hd
  unfold payload
  rw [String.utf8EncodeChar, Char.toNat_val, toNat_ofNat_scalar (by omega)]
  rw [if_neg (by omega), if_neg (by omega), if_pos (by omega),
    ofNat_eq_of_toNat (b := a) (by omega), ofNat_eq_of_toNat (b := b) (by omega),
    ofNat_eq_of_toNat (b := d) (by omega)]

theorem utf8EncodeChar_four (ha : 0xF0 ≤ a.toNat ∧ a.toNat < 0xF5)
    (hb : within (secondOfFour a) b = true) (hd : isContinuation d = true)
    (he : isContinuation e = true) :
    String.utf8EncodeChar (Char.ofNat
      (((a.toNat % 8 * 64 + payload b) * 64 + payload d) * 64 + payload e)) = [a, b, d, e] := by
  rw [within_secondOfFour_iff] at hb
  rw [isContinuation_iff] at hd he
  unfold payload
  rw [String.utf8EncodeChar, Char.toNat_val, toNat_ofNat_scalar (by omega)]
  rw [if_neg (by omega), if_neg (by omega), if_neg (by omega),
    ofNat_eq_of_toNat (b := a) (by omega), ofNat_eq_of_toNat (b := b) (by omega),
    ofNat_eq_of_toNat (b := d) (by omega), ofNat_eq_of_toNat (b := e) (by omega)]

/-- A character is written with the bytes that it is read from. -/
theorem utf8EncodeChar_of_leadingChar? (h : leadingChar? a rest = some (c, n)) :
    String.utf8EncodeChar c = a :: rest.take n := by
  simp only [leadingChar?, UInt8.lt_iff_toNat_lt] at h
  split_ifs at h with hone hlow htwo hthree hfour
  · cases h
    exact utf8EncodeChar_one hone
  · split at h
    · split_ifs at h with hb
      cases h
      exact utf8EncodeChar_two ⟨not_lt.mp hlow, htwo⟩ hb
    · cases h
  · split at h
    · split_ifs at h with hb
      cases h
      obtain ⟨hb, hd⟩ := Bool.and_eq_true_iff.mp hb
      exact utf8EncodeChar_three ⟨not_lt.mp htwo, hthree⟩ hb hd
    · cases h
  · split at h
    · split_ifs at h with hb
      cases h
      obtain ⟨hb, he⟩ := Bool.and_eq_true_iff.mp hb
      obtain ⟨hb, hd⟩ := Bool.and_eq_true_iff.mp hb
      exact utf8EncodeChar_four ⟨not_lt.mp hthree, hfour⟩ hb hd he
    · cases h

/-- A character is read from its bytes, whatever follows them. -/
theorem leadingChar?_of_utf8EncodeChar {tail : List UInt8}
    (h : String.utf8EncodeChar c = a :: tail) (rest : List UInt8) :
    leadingChar? a (tail ++ rest) = some (c, tail.length) := by
  have hc := isScalar c
  have hself := Char.ofNat_toNat c
  simp only [String.utf8EncodeChar, Char.toNat_val] at h
  generalize c.toNat = v at h hc hself
  subst hself
  split_ifs at h with hone htwo hthree <;> cases h <;>
    simp only [leadingChar?, UInt8.lt_iff_toNat_lt, List.cons_append, List.nil_append,
      Bool.and_eq_true, within_secondOfThree_iff, within_secondOfFour_iff, isContinuation_iff,
      payload, UInt8.toNat_ofNat', UInt8.reduceToNat]
  · rw [if_pos (by omega), Nat.mod_eq_of_lt (by omega)]
    rfl
  · rw [if_neg (by omega), if_neg (by omega), if_pos (by omega), if_pos (by omega)]
    congr 3
    omega
  · rw [if_neg (by omega), if_neg (by omega), if_neg (by omega), if_pos (by omega),
      if_pos (by omega)]
    congr 3
    omega
  · rw [if_neg (by omega), if_neg (by omega), if_neg (by omega), if_neg (by omega),
      if_pos (by omega), if_pos (by omega)]
    congr 3
    omega

/-! ## §3 Texts -/

theorem toBytes_cons (s : Symbol) (t : Text) : toBytes (s :: t) = s.bytes ++ toBytes t := rfl

/-- A text stands for the bytes that it is read from. -/
theorem toBytes_ofBytes (bs : List UInt8) : toBytes (ofBytes bs) = bs := by
  induction bs using ofBytes.induct with
  | case1 => rw [ofBytes]; rfl
  | case2 a rest c n h ih =>
    rw [ofBytes, h]
    simp only [toBytes_cons, ih, Symbol.bytes, utf8EncodeChar_of_leadingChar? h,
      List.cons_append, List.take_append_drop]
  | case3 a rest h ih =>
    rw [ofBytes, h]
    simp only [toBytes_cons, ih, Symbol.bytes, List.cons_append, List.nil_append]

/-- The bytes of a character in front of others are read as the character. -/
theorem ofBytes_utf8EncodeChar_append (c : Char) (bs : List UInt8) :
    ofBytes (String.utf8EncodeChar c ++ bs) = .char c :: ofBytes bs := by
  obtain ⟨a, tail, h⟩ := List.exists_cons_of_ne_nil (String.utf8EncodeChar_ne_nil (c := c))
  rw [h, List.cons_append, ofBytes, leadingChar?_of_utf8EncodeChar h bs]
  simp only [List.drop_left]

/-- The bytes of a string are read as its characters. -/
theorem ofBytes_bytesOf (s : String) : ofBytes (bytesOf s) = ofString s := by
  rw [bytesOf_eq, ofString]
  induction s.toList with
  | nil => rw [List.flatMap_nil, ofBytes]; rfl
  | cons c cs ih => rw [List.flatMap_cons, ofBytes_utf8EncodeChar_append, ih, List.map_cons]

end ArgTaint.Text
