/-
ArgTaint.Proofs.Yaml.Number — whole numbers are read back.

A whole number is written in decimal digits, the first of which is a zero for
zero alone, and after a minus sign when it is negative. Such a text is no
word of the format and no date; it stands for the number.

  §1 Digits  — the digits of a number give the number.
  §2 Numbers — numbers with a sign, as plain scalars.
-/
import ArgTaint.Proofs.Yaml.Write

namespace ArgTaint.Yaml

/-! ## §1 Digits -/

theorem digits?_eq {cs : List Char} (h : ∀ c ∈ cs, c.isDigit = true) (n : Nat) :
    digits? 10 n cs = some (Nat.ofDigitChars 10 cs n) := by
  induction cs generalizing n with
  | nil => rfl
  | cons c cs ih =>
    have hc := h c List.mem_cons_self
    have hlt : c.toNat - 48 < 10 := by
      have : 48 ≤ c.toNat ∧ c.toNat ≤ 57 := Char.isDigit_iff_toNat.mp hc
      omega
    simp only [digits?, digitValue?, hc, if_true, hlt, Nat.ofDigitChars_cons, Nat.mul_comm 10 n]
    exact ih (fun d hd => h d (List.mem_cons_of_mem _ hd)) _

theorem isDigit_toDigits (n : Nat) : ∀ c ∈ Nat.toDigits 10 n, c.isDigit = true := fun _ hc =>
  Nat.isDigit_of_mem_toDigits (by decide) (Nat.le_refl 10) hc

/-- Only the digits of zero start with a zero. -/
theorem head?_toDigits {n : Nat} (hn : 0 < n) : (Nat.toDigits 10 n).head? ≠ some '0' := by
  induction n using Nat.strongRecOn with
  | ind n ih =>
    rw [Nat.toDigits_eq_if (by decide)]
    split
    · next hlt =>
      have : ∀ d : Fin 10, 0 < d.val → [d.val.digitChar].head? ≠ some '0' := by decide
      exact this ⟨n, hlt⟩ hn
    · rw [List.head?_append_of_ne_nil _ Nat.toDigits_ne_nil]
      exact ih (n / 10) (by omega) (by omega)

/-- The digits of a number read as the number. -/
theorem magnitude?_toDigits (n : Nat) : magnitude? (Nat.toDigits 10 n) = some n := by
  rcases Nat.eq_zero_or_pos n with rfl | hn
  · rfl
  · have hdigits := digits?_eq (isDigit_toDigits n) 0
    rw [Nat.ofDigitChars_toDigits (by decide) (Nat.le_refl 10)] at hdigits
    obtain ⟨c, cs, hcons⟩ := List.exists_cons_of_ne_nil (Nat.toDigits_ne_nil (n := n) (b := 10))
    have hhead : c ≠ '0' := by
      have := head?_toDigits hn
      rw [hcons] at this
      exact fun hc => this (by rw [hc]; rfl)
    rw [hcons] at hdigits ⊢
    unfold magnitude?
    split
    · next heq => exact absurd (List.cons.inj heq).1 hhead
    · next heq => exact absurd (List.cons.inj heq).1 hhead
    · exact hdigits

/-! ## §2 Numbers -/

theorem hasIndicator_eq_false {afterBlank : Bool} {cs : List Char}
    (h : ∀ c ∈ cs, c ≠ ':' ∧ c ≠ '#') : hasIndicator afterBlank cs = false := by
  induction cs generalizing afterBlank with
  | nil => rfl
  | cons c cs ih =>
    have hc := h c List.mem_cons_self
    simp [hasIndicator, hc, ih fun d hd => h d (List.mem_cons_of_mem _ hd)]

def numeralChars : List Char := ['-', '0', '1', '2', '3', '4', '5', '6', '7', '8', '9']

theorem mem_numeralChars_of_isDigit {c : Char} (h : c.isDigit = true) : c ∈ numeralChars := by
  obtain ⟨hleast, hmost⟩ : 48 ≤ c.toNat ∧ c.toNat ≤ 57 := Char.isDigit_iff_toNat.mp h
  rw [← Char.ofNat_toNat c]
  interval_cases c.toNat <;> decide

/-- The digits of a number, after a minus sign or not. -/
inductive IsNumeral : Int → List Char → Prop
  | natural (n : Nat) : IsNumeral n (Nat.toDigits 10 n)
  | negative (n : Nat) : IsNumeral (-(n : Int)) ('-' :: Nat.toDigits 10 n)

theorem isNumeral_repr (n : Int) : IsNumeral n n.repr.toList := by
  rw [Int.repr_eq_if]
  split
  · next hn =>
    have := IsNumeral.natural n.toNat
    rw [Int.toNat_of_nonneg hn] at this
    simpa [Nat.repr_eq_ofList_toDigits] using this
  · next hn =>
    have := IsNumeral.negative (-n).toNat
    rw [Int.toNat_of_nonneg (by omega), Int.neg_neg] at this
    simpa [Nat.repr_eq_ofList_toDigits] using this

namespace IsNumeral

variable {n : Int} {cs : List Char}

/-- A numeral is a digit, or a minus sign and a digit, and further digits. -/
theorem exists_cons (h : IsNumeral n cs) :
    ∃ c rest, cs = c :: rest ∧ (∀ d ∈ rest, d.isDigit = true) ∧
      (c.isDigit = true ∨ c = '-' ∧ rest ≠ []) := by
  cases h with
  | natural n =>
    obtain ⟨c, rest, hcons⟩ :=
      List.exists_cons_of_ne_nil (Nat.toDigits_ne_nil (n := n) (b := 10))
    have := isDigit_toDigits n
    rw [hcons] at this ⊢
    exact ⟨c, rest, rfl, fun d hd => this d (List.mem_cons_of_mem _ hd),
      .inl (this c List.mem_cons_self)⟩
  | negative n => exact ⟨'-', _, rfl, isDigit_toDigits n, .inr ⟨rfl, Nat.toDigits_ne_nil⟩⟩

theorem mem_numeralChars (h : IsNumeral n cs) : ∀ c ∈ cs, c ∈ numeralChars := by
  obtain ⟨c, rest, rfl, hrest, hc⟩ := h.exists_cons
  intro d hd
  rcases List.mem_cons.mp hd with rfl | hd
  · rcases hc with hc | ⟨rfl, -⟩
    · exact mem_numeralChars_of_isDigit hc
    · exact List.mem_cons_self
  · exact mem_numeralChars_of_isDigit (hrest d hd)

/-- The digits of a number of 64 bits read as the number. -/
theorem integer? (h : IsNumeral n cs) (hleast : -Int.pow 2 63 ≤ n) (hmost : n < Int.pow 2 63) :
    integer? cs = some n := by
  cases h with
  | natural n =>
    have hlt : n < Nat.pow 2 64 := by
      have : (n : Int) < Nat.pow 2 64 := lt_trans hmost (by decide)
      exact_mod_cast this
    obtain ⟨c, rest, hcons⟩ :=
      List.exists_cons_of_ne_nil (Nat.toDigits_ne_nil (n := n) (b := 10))
    have hread := magnitude?_toDigits n
    rw [hcons] at hread ⊢
    have hdigit : c.isDigit = true :=
      isDigit_toDigits n c (by rw [hcons]; exact List.mem_cons_self)
    unfold Yaml.integer? signed?
    split
    · next heq => exact absurd ((List.cons.inj heq).1 ▸ hdigit) (by decide)
    · next heq => exact absurd ((List.cons.inj heq).1 ▸ hdigit) (by decide)
    · simp [hread, hlt]
  | negative n =>
    have hle : n ≤ Nat.pow 2 63 := by
      have : (n : Int) ≤ Nat.pow 2 63 := Int.neg_le_neg_iff.mp hleast
      exact_mod_cast this
    simp [Yaml.integer?, signed?, magnitude?_toDigits, hle]

theorem ofWord?_eq_none {text : String} (h : IsNumeral n text.toList) :
    Scalar.ofWord? text = none := by
  obtain ⟨c, rest, hcons, hrest, hc⟩ := h.exists_cons
  unfold Scalar.ofWord?
  split
  case h_25 => rfl
  all_goals simp at hcons
  all_goals
    obtain ⟨rfl, rfl⟩ := hcons
    exact absurd (And.intro hc hrest) (by simp [Char.isDigit])

/-- No number is a time. -/
theorem not_isTimestamp (h : IsNumeral n cs) : isTimestamp cs = false := by
  obtain ⟨c, rest, rfl, hrest, hc⟩ := h.exists_cons
  suffices hdate : afterDate? (c :: rest) = none by simp [isTimestamp, hdate]
  rcases hc with hc | ⟨rfl, -⟩
  · -- a year is all there is
    have hall : (c :: rest).takeWhile Char.isDigit = c :: rest := by
      rw [List.takeWhile_eq_self_iff]
      simpa [hc] using hrest
    by_cases hlength : (c :: rest).length = 4
    · have hdrop : (c :: rest).drop 4 = [] := List.drop_eq_nil_of_le (Nat.le_of_eq hlength)
      simp only [afterDate?, hall, hlength, hdrop, after?]
      simp
    · simp only [afterDate?, hall, ne_eq, hlength, not_false_eq_true, if_true]
  · rfl

theorem filter_underscore (h : IsNumeral n cs) : cs.filter (· != '_') = cs := by
  have hchars : ∀ c ∈ numeralChars, (c != '_') = true := by simp [numeralChars]
  exact List.filter_eq_self.mpr fun c hc => hchars c (h.mem_numeralChars c hc)

/-- A number of 64 bits is read back. -/
theorem ofText {text : String} (h : IsNumeral n text.toList) (hleast : -Int.pow 2 63 ≤ n)
    (hmost : n < Int.pow 2 63) (times : Bool) : Scalar.ofText times text = .int n := by
  obtain ⟨c, rest, hcons, hrest, hc⟩ := h.exists_cons
  have hstart : (c.isDigit || c == '+' || c == '-') = true := by
    rcases hc with hc | ⟨rfl, -⟩
    · simp [hc]
    · rfl
  have hnumeral : Scalar.ofNumeral times text.toList = .int n := by
    simp [Scalar.ofNumeral, h.not_isTimestamp, h.filter_underscore, h.integer? hleast hmost]
  rw [hcons] at hnumeral
  simp only [Scalar.ofText, h.ofWord?_eq_none, hcons, hstart, if_true, hnumeral]

theorem startsWithIndicator_eq_false (h : IsNumeral n cs) : startsWithIndicator cs = false := by
  obtain ⟨c, rest, rfl, hrest, hc⟩ := h.exists_cons
  have hchars : ∀ c ∈ numeralChars,
      isIndicator c = false ∧ c ≠ '?' ∧ c ≠ ':' ∧ c ≠ '.' ∧ isBlank c = false := by
    simp [numeralChars, isIndicator, isBlank]
  rcases hc with hc | ⟨rfl, hne⟩
  · have hfirst := hchars c (mem_numeralChars_of_isDigit hc)
    have hdash : c ≠ '-' := fun e => absurd (e ▸ hc) (by decide)
    simp [startsWithIndicator, List.isPrefixOf, hfirst, hdash, hdash.symm, hfirst.2.2.2.1.symm]
  · -- a digit follows the minus sign
    obtain ⟨d, more, rfl⟩ := List.exists_cons_of_ne_nil hne
    have hd := hrest d List.mem_cons_self
    have hdash : d ≠ '-' := fun e => absurd (e ▸ hd) (by decide)
    have hblank := (hchars d (mem_numeralChars_of_isDigit hd)).2.2.2.2
    simp [startsWithIndicator, List.isPrefixOf, spaceAhead, isIndicator, hblank, hdash.symm]

/-- A number can be written plain. -/
theorem allowsPlain (h : IsNumeral n cs) : allowsPlain cs = true := by
  have hchars : ∀ c ∈ numeralChars,
      isWritable c = true ∧ isBreak c = false ∧ c ≠ ' ' ∧ c ≠ ':' ∧ c ≠ '#' := by
    simp [numeralChars, isWritable, isBreak]
  have hall := fun c hc => hchars c (h.mem_numeralChars c hc)
  have hindicator : hasIndicator true cs = false :=
    hasIndicator_eq_false fun c hc => (hall c hc).2.2.2
  have hhead : cs.head? ≠ some ' ' := fun e => (hall _ (List.mem_of_mem_head? e)).2.2.1 rfl
  have hlast : cs.getLast? ≠ some ' ' :=
    fun e => (hall _ (List.mem_of_mem_getLast? e)).2.2.1 rfl
  simp only [Yaml.allowsPlain, Bool.and_eq_true, List.all_eq_true, Bool.not_eq_true',
    bne_iff_ne]
  exact ⟨⟨⟨⟨fun c hc => ⟨(hall c hc).1, (hall c hc).2.1⟩, hhead⟩, hlast⟩,
    h.startsWithIndicator_eq_false⟩, hindicator⟩

end IsNumeral

/-- A counter as it is written. -/
def Word.ofInt64 (n : Int64) : Word := ⟨(toString n).toList, .plain⟩

/-- A counter is written plain. -/
theorem written_toString_int64 (n : Int64) :
    Written (toString n).toList (Word.ofInt64 n).text (Word.ofInt64 n).style := by
  have h := isNumeral_repr n.toInt
  obtain ⟨c, rest, hcons, -⟩ := h.exists_cons
  exact written_plain (hcons ▸ List.cons_ne_nil c rest) h.allowsPlain

/-- A written counter is read back. -/
theorem ofText_toString_int64 (n : Int64) (times : Bool) :
    Scalar.ofText times (toString n) = .int n.toInt :=
  (isNumeral_repr n.toInt).ofText n.le_toInt n.toInt_lt times

end ArgTaint.Yaml
