/-
ArgTaint.Proofs.Text.ByteOrder — the order of strings is that of their bytes.

Strings compare by code points. In UTF-8 a greater code point has the greater
bytes, at the first byte where the two differ, and no encoding is the start of
another one; so the bytes of strings compare in the same way.

  §1 Characters — the bytes of two characters.
  §2 Strings    — `lt_iff_bytesOf_lt`.
-/
import ArgTaint.Text.Symbol
import Mathlib

namespace ArgTaint.Text

/-! ## §1 Characters -/

theorem ofNat_lt_ofNat {m n : Nat} (hn : n < 256) (h : m < n) :
    UInt8.ofNat m < UInt8.ofNat n := by
  rw [UInt8.lt_iff_toNat_lt, UInt8.toNat_ofNat', UInt8.toNat_ofNat',
    Nat.mod_eq_of_lt (Nat.lt_trans h hn), Nat.mod_eq_of_lt hn]
  exact h

/-- A greater first byte decides. -/
theorem ofNat_cons_lt {m n : Nat} (hn : n < 256) (h : m < n) (x y : List UInt8) :
    UInt8.ofNat m :: x < UInt8.ofNat n :: y :=
  List.cons_lt_cons_iff.mpr (Or.inl (ofNat_lt_ofNat hn h))

/-- Of two numbers, the greater last six bits or the greater bits before them
decide. -/
theorem ofNat_cons_lt_or {m n : Nat} (hn : n < 256) (h : m ≤ n) {x y : List UInt8}
    (hxy : m = n → x < y) : UInt8.ofNat m :: x < UInt8.ofNat n :: y := by
  rcases Nat.lt_or_eq_of_le h with hlt | rfl
  · exact ofNat_cons_lt hn hlt x y
  · exact List.cons_lt_cons_iff.mpr (Or.inr ⟨rfl, hxy rfl⟩)

theorem val_le (c : Char) : c.val.toNat ≤ 0x10ffff := by
  have := c.valid
  simp only [UInt32.isValidChar, Nat.isValidChar] at this
  omega

/-- The bytes of a smaller character come first, whatever follows. -/
theorem utf8EncodeChar_append_lt {c d : Char} (h : c < d) (x y : List UInt8) :
    String.utf8EncodeChar c ++ x < String.utf8EncodeChar d ++ y := by
  have hlt : c.val.toNat < d.val.toNat := UInt32.lt_iff_toNat_lt.mp h
  have hd := val_le d
  simp only [String.utf8EncodeChar]
  generalize c.val.toNat = m at hlt
  generalize d.val.toNat = n at hlt hd
  -- with bytes of different numbers the first byte decides; with the same number, the first
  -- six bits that differ
  split_ifs with h₁ h₂ h₃ h₄ h₅ h₆ h₇ h₈ h₉ <;> simp only [List.cons_append, List.nil_append]
  · exact ofNat_cons_lt (by omega) hlt _ _
  · exact ofNat_cons_lt (by omega) (by omega) _ _
  · exact ofNat_cons_lt (by omega) (by omega) _ _
  · exact ofNat_cons_lt (by omega) (by omega) _ _
  · omega
  · refine ofNat_cons_lt_or (by omega) (by omega) fun _ => ?_
    exact ofNat_cons_lt (by omega) (by omega) _ _
  · exact ofNat_cons_lt (by omega) (by omega) _ _
  · exact ofNat_cons_lt (by omega) (by omega) _ _
  · omega
  · omega
  · refine ofNat_cons_lt_or (by omega) (by omega) fun _ => ?_
    refine ofNat_cons_lt_or (by omega) (by omega) fun _ => ?_
    exact ofNat_cons_lt (by omega) (by omega) _ _
  · exact ofNat_cons_lt (by omega) (by omega) _ _
  · omega
  · omega
  · omega
  · refine ofNat_cons_lt_or (by omega) (by omega) fun _ => ?_
    refine ofNat_cons_lt_or (by omega) (by omega) fun _ => ?_
    refine ofNat_cons_lt_or (by omega) (by omega) fun _ => ?_
    exact ofNat_cons_lt (by omega) (by omega) _ _

/-! ## §2 Strings -/

def bytesOf (s : String) : List UInt8 := toBytes (ofString s)

theorem bytesOf_eq (s : String) : bytesOf s = s.toList.flatMap String.utf8EncodeChar := by
  rw [bytesOf, toBytes, ofString, List.flatMap_map]
  rfl

/-- The order of characters is that of their bytes. -/
theorem flatMap_lt_of_lt :
    ∀ {cs ds : List Char}, cs < ds →
      cs.flatMap String.utf8EncodeChar < ds.flatMap String.utf8EncodeChar := by
  intro cs
  induction cs with
  | nil =>
    intro ds h
    cases ds with
    | nil => exact absurd h (lt_irrefl _)
    | cons d ds =>
      obtain ⟨b, bs, hb⟩ := List.exists_cons_of_ne_nil (String.utf8EncodeChar_ne_nil (c := d))
      rw [List.flatMap_cons, hb]
      exact List.nil_lt_cons _ _
  | cons c cs ih =>
    intro ds h
    cases ds with
    | nil => exact absurd h (List.not_lt_nil _)
    | cons d ds =>
      rw [List.flatMap_cons, List.flatMap_cons]
      rcases List.cons_lt_cons_iff.mp h with hcd | ⟨rfl, hrest⟩
      · exact utf8EncodeChar_append_lt hcd _ _
      · exact List.append_left_lt (ih hrest)

/-- Strings are in the order of their bytes. -/
theorem lt_iff_bytesOf_lt {s t : String} : s < t ↔ bytesOf s < bytesOf t := by
  rw [bytesOf_eq, bytesOf_eq, String.lt_iff]
  refine ⟨flatMap_lt_of_lt, fun h => ?_⟩
  rcases lt_trichotomy s.toList t.toList with hlt | heq | hgt
  · exact hlt
  · rw [heq] at h
    exact absurd h (List.lt_irrefl _)
  · exact absurd h (List.lt_asymm (flatMap_lt_of_lt hgt))

end ArgTaint.Text
