/-
ArgTaint.Proofs.Yaml.Quoted — a scalar between quotes reads back.

Between quotes a text is read word by word, and the blanks between two words
are kept until the next one shows that they count. On one line nothing is
folded, so what has been read is always the text so far (`Holds`). A character
is either a bare blank or something that the reader of a word takes as one
character (`ReadsAs`); a whole text of such characters reads back.

  §1 Digits    — hexadecimal numbers read back.
  §2 Texts     — `Folding.Holds`: what has been read of one line.
  §3 Words     — words and gaps up to the closing quote.
  §4 Escapes   — what single and double quotes write for a character.
-/
import ArgTaint.Proofs.Text.Quoted
import ArgTaint.Proofs.Yaml.Cursor
import ArgTaint.Yaml.Token.Scalar
import ArgTaint.Yaml.Write

namespace ArgTaint.Yaml

/-! ## §1 Digits -/

theorem hexValue?_upper_hexDigit :
    ∀ d < 16, Text.hexValue? (Text.hexDigit d).toUpper = some d := by decide

/-- The digits of a number, in upper case, read back as its last digits. -/
theorem readHex?_upperHex (width acc n : Nat) (rest : List Char) :
    Text.readHex? width acc ((Text.hexDigits width n).map Char.toUpper ++ rest) =
      some (acc * 16 ^ width + n % 16 ^ width, rest) :=
  Text.readHex?_map_hexDigits hexValue?_upper_hexDigit width acc n rest

/-! ## §2 Texts -/

namespace Folding

variable {f : Folding} {cs : List Char}

/-- The text has been read, and no line break after it. -/
structure Holds (f : Folding) (cs : List Char) : Prop where
  first : f.first = none
  text : f.blanks ++ f.text = cs.reverse

theorem holds_nil : ({} : Folding).Holds [] := ⟨rfl, rfl⟩

/-- Settling keeps the text that has been read. -/
theorem Holds.settle (h : f.Holds cs) : f.settle.Holds cs := by
  simp only [Folding.settle, h.first]
  exact ⟨rfl, h.text⟩

theorem Holds.settle_text (h : f.Holds cs) : f.settle.text = cs.reverse := by
  simp only [Folding.settle, h.first, h.text]

theorem Holds.push (h : f.Holds cs) (c : Char) : (f.push c).Holds (cs ++ [c]) :=
  ⟨rfl, by simp [Folding.push, h.settle_text]⟩

theorem Holds.pushAll (h : f.Holds cs) (word : List Char) :
    (f.pushAll word).Holds (cs ++ word) := by
  cases word with
  | nil => simpa [Folding.pushAll] using h
  | cons c word => exact ⟨rfl, by simp [Folding.pushAll, h.settle_text]⟩

theorem Holds.blank (h : f.Holds cs) (c : Char) : (f.blank c).Holds (cs ++ [c]) := by
  have hfirst : f.first.isSome = false := by rw [h.first]; rfl
  simp only [Folding.blank, hfirst, Bool.false_eq_true, if_false]
  exact ⟨h.first, by simp [h.text]⟩

theorem Holds.settle_result (h : f.Holds cs) : f.settle.result = cs := by
  simp only [Folding.result, h.settle_text, List.reverse_reverse]

end Folding

/-! ## §3 Words -/

/-- The reader of words between quotes. -/
def quotedWord? (single : Bool) : Nat → Cursor → Folding → Option (Cursor × Folding) :=
  if single then singleWord? else doubleWord?

/-- The quote that ends a scalar. -/
def closing (single : Bool) : Char := if single then '\'' else '"'

/-- The written characters are read as one character of a word. -/
structure ReadsAs (single : Bool) (written : List Char) (c : Char) : Prop where
  /-- They do not look like a gap. -/
  head : ∃ d rest, written = d :: rest ∧ isBlank d = false ∧ isBreak d = false
  step : ∀ (bound : Nat) {k : Cursor} {f : Folding} {done rest : List Char} {i l col : Nat},
    k.IsAt ⟨written ++ rest, i, l, col⟩ → f.Holds done →
      ∃ m g, quotedWord? single (bound + 1) k f = quotedWord? single bound m g ∧
        m.IsAt ⟨rest, i + written.length, l, col + written.length⟩ ∧ g.Holds (done ++ [c])

/-- What `write` puts for the character is a bare blank, or reads as the
character. -/
def IsQuotable (single : Bool) (write : Char → List Char) (c : Char) : Prop :=
  (isBlank c = true ∧ write c = [c]) ∨ ReadsAs single (write c) c

section Words

variable {single : Bool} {write : Char → List Char} {after : List Char} {l : Nat}

theorem closing_ne_gap (single : Bool) :
    isBlank (closing single) = false ∧ isBreak (closing single) = false := by
  cases single <;> decide

/-- A word ends in front of a blank. -/
theorem quotedWord?_blank {c : Char} {rest : List Char} {k : Cursor} {i col : Nat} (f : Folding)
    (bound : Nat) (h : k.IsAt ⟨c :: rest, i, l, col⟩) (hc : isBlank c = true) :
    quotedWord? single (bound + 1) k f = some (k, f) := by
  have hc' : c = ' ' ∨ c = '\t' := by simpa [isBlank] using hc
  cases single with
  | true =>
    simp only [quotedWord?, if_true, singleWord?, h.rest]
    rcases hc' with rfl | rfl <;> rfl
  | false =>
    simp only [quotedWord?, Bool.false_eq_true, if_false, doubleWord?, h.rest]
    rcases hc' with rfl | rfl <;> rfl

/-- A word ends in front of the closing quote; a single quote with another one
after it is no closing quote. -/
theorem quotedWord?_closing {k : Cursor} {i col : Nat} (f : Folding) (bound : Nat)
    (h : k.IsAt ⟨closing single :: after, i, l, col⟩) (hafter : after.head? ≠ some '\'') :
    quotedWord? single (bound + 1) k f = some (k, f) := by
  cases single with
  | true =>
    have hrest : k.rest = '\'' :: after := h.rest
    simp only [quotedWord?, if_true, singleWord?, hrest]
    cases after with
    | nil => rfl
    | cons d after =>
      have hd : d ≠ '\'' := fun e => hafter (by rw [e]; rfl)
      split
      · next h => exact absurd (List.cons.inj (List.cons.inj h).2).1 hd
      · rfl
      · next hne h => exact absurd (List.cons.inj h).1.symm hne
      · next h => exact absurd h (List.cons_ne_nil _ _)
  | false =>
    have hrest : k.rest = '"' :: after := h.rest
    simp only [quotedWord?, Bool.false_eq_true, if_false, doubleWord?, hrest]

/-- The first word of a text is read up to a blank or the closing quote. -/
theorem exists_quotedWord (hafter : after.head? ≠ some '\'') {cs : List Char} :
    ∀ {bound : Nat} {k : Cursor} {f : Folding} {done : List Char} {i col : Nat},
      (∀ c ∈ cs, IsQuotable single write c) → cs.length < bound → f.Holds done →
      k.IsAt ⟨cs.flatMap write ++ closing single :: after, i, l, col⟩ →
      ∃ word rest m g, cs = word ++ rest ∧
        (∀ c ∈ rest.head?, isBlank c = true ∧ write c = [c]) ∧
        quotedWord? single bound k f = some (m, g) ∧ g.Holds (done ++ word) ∧
        m.IsAt ⟨rest.flatMap write ++ closing single :: after,
          i + (word.flatMap write).length, l, col + (word.flatMap write).length⟩ := by
  induction cs with
  | nil =>
    intro bound k f done i col _ hbound hf h
    obtain ⟨bound, rfl⟩ := Nat.exists_eq_succ_of_ne_zero (Nat.ne_zero_of_lt hbound)
    exact ⟨[], [], k, f, rfl, by simp, quotedWord?_closing f bound h hafter,
      by simpa using hf, h⟩
  | cons c cs ih =>
    intro bound k f done i col hcs hbound hf h
    obtain ⟨bound, rfl⟩ := Nat.exists_eq_succ_of_ne_zero (Nat.ne_zero_of_lt hbound)
    rcases hcs c List.mem_cons_self with hblank | hreads
    · refine ⟨[], c :: cs, k, f, rfl, by simpa using hblank, ?_, by simpa using hf, h⟩
      have hhere : k.IsAt ⟨c :: (cs.flatMap write ++ closing single :: after), i, l, col⟩ :=
        h.cast (by simp [hblank.2]) rfl rfl
      exact quotedWord?_blank f bound hhere hblank.1
    · have hhere : k.IsAt ⟨write c ++ (cs.flatMap write ++ closing single :: after), i,
          l, col⟩ :=
        h.cast (by simp) rfl rfl
      obtain ⟨m, g, hstep, hm, hg⟩ := hreads.step bound hhere hf
      obtain ⟨word, rest, m', g', rfl, hrest, hrun, hg', hm'⟩ :=
        ih (fun d hd => hcs d (List.mem_cons_of_mem _ hd)) (Nat.lt_of_succ_lt_succ hbound) hg hm
      refine ⟨c :: word, rest, m', g', rfl, hrest, hstep.trans hrun, by simpa using hg', ?_⟩
      exact hm'.cast rfl (by simp [Nat.add_assoc]) (by simp [Nat.add_assoc])

/-- The blanks up to the next word or the closing quote are passed over. -/
theorem exists_quotedGap {cs : List Char} :
    ∀ {bound : Nat} {k : Cursor} {f : Folding} {done : List Char} {i col : Nat},
      (∀ c ∈ cs, IsQuotable single write c) → cs.length < bound → f.Holds done →
      k.IsAt ⟨cs.flatMap write ++ closing single :: after, i, l, col⟩ →
      ∃ blanks rest m g, cs = blanks ++ rest ∧
        (∀ c ∈ rest.head?, ¬ (isBlank c = true ∧ write c = [c])) ∧
        quotedGap? bound k f = some (m, g) ∧ g.Holds (done ++ blanks) ∧
        m.IsAt ⟨rest.flatMap write ++ closing single :: after,
          i + (blanks.flatMap write).length, l, col + (blanks.flatMap write).length⟩ := by
  induction cs with
  | nil =>
    intro bound k f done i col _ hbound hf h
    obtain ⟨bound, rfl⟩ := Nat.exists_eq_succ_of_ne_zero (Nat.ne_zero_of_lt hbound)
    refine ⟨[], [], k, f, rfl, by simp, ?_, by simpa using hf, h⟩
    have hrest : k.rest = closing single :: after := h.rest
    obtain ⟨hblank, hbreak⟩ := closing_ne_gap single
    simp only [quotedGap?, hrest, hblank, hbreak, Bool.false_eq_true, if_false]
  | cons c cs ih =>
    intro bound k f done i col hcs hbound hf h
    obtain ⟨bound, rfl⟩ := Nat.exists_eq_succ_of_ne_zero (Nat.ne_zero_of_lt hbound)
    by_cases hc : isBlank c = true ∧ write c = [c]
    · have hhere : k.IsAt ⟨c :: (cs.flatMap write ++ closing single :: after), i, l, col⟩ :=
        h.cast (by simp [hc.2]) rfl rfl
      obtain ⟨m, hneed, hm⟩ := hhere.advance.need? 1
      obtain ⟨blanks, rest, m', g', rfl, hrest, hrun, hg', hm'⟩ :=
        ih (fun d hd => hcs d (List.mem_cons_of_mem _ hd)) (Nat.lt_of_succ_lt_succ hbound)
          (hf.blank c) hm
      refine ⟨c :: blanks, rest, m', g', rfl, hrest, ?_, by simpa using hg', ?_⟩
      · simp only [quotedGap?, hhere.rest, hc.1, if_true, hneed, Option.bind_eq_bind,
          Option.bind_some, hrun]
      · have hlength : ((c :: blanks).flatMap write).length =
            1 + (blanks.flatMap write).length := by
          simp [hc.2, Nat.add_comm]
        exact hm'.cast rfl (by omega) (by omega)
    · obtain ⟨d, written, hwrite, hblank, hbreak⟩ :=
        ((hcs c List.mem_cons_self).resolve_left hc).head
      refine ⟨[], c :: cs, k, f, rfl, by simpa using hc, ?_, by simpa using hf, h⟩
      have hrest :
          k.rest = d :: (written ++ (cs.flatMap write ++ closing single :: after)) := by
        rw [h.rest]
        simp [hwrite]
      simp only [quotedGap?, hrest, hblank, hbreak, Bool.false_eq_true, if_false]

/-- Words and gaps in turn, up to the closing quote. -/
theorem quotedWords?_succ (bound : Nat) (k : Cursor) (f : Folding) :
    quotedWords? single (bound + 1) k f =
      (k.need? 4).bind fun k =>
        if k.atDocumentMark || k.rest.isEmpty then none
        else
          (quotedWord? single (bound + 1) k f).bind fun (k, f) =>
            (k.need? 1).bind fun k =>
              if k.rest.head? == some (closing single) then some (k.advance, f)
              else
                (quotedGap? (bound + 1) k f).bind fun (k, f) =>
                  quotedWords? single bound k f.settle := by
  cases single <;> rfl

/-- The text up to the closing quote, word by word. -/
theorem exists_quotedWords (hafter : after.head? ≠ some '\'') (bound : Nat) :
    ∀ {cs : List Char} {k : Cursor} {f : Folding} {done : List Char} {i col : Nat},
      (∀ c ∈ cs, IsQuotable single write c) → cs.length < bound → f.Holds done → 0 < col →
      k.IsAt ⟨cs.flatMap write ++ closing single :: after, i, l, col⟩ →
      ∃ m g, quotedWords? single bound k f = some (m, g) ∧ g.Holds (done ++ cs) ∧
        m.IsAt ⟨after, i + (cs.flatMap write).length + 1, l,
          col + (cs.flatMap write).length + 1⟩ := by
  induction bound with
  | zero => exact fun _ hbound => absurd hbound (Nat.not_lt_zero _)
  | succ bound ih =>
    intro cs k f done i col hcs hbound hf hcol h
    obtain ⟨k₁, hneed₁, hk₁⟩ := h.need? 4
    obtain ⟨word, gap, k₂, f₂, rfl, hgap, hword, hf₂, hk₂⟩ :=
      exists_quotedWord hafter hcs hbound hf hk₁
    obtain ⟨k₃, hneed₃, hk₃⟩ := hk₂.need? 1
    have hmark : k₁.atDocumentMark = false := by
      simp [Cursor.atDocumentMark, hk₁.column, Nat.ne_of_gt hcol]
    have hnonempty : k₁.rest.isEmpty = false := by simp [hk₁.rest]
    simp only [quotedWords?_succ, hneed₁, Option.bind_some, hmark, hnonempty, Bool.or_self,
      Bool.false_eq_true, if_false, hword, hneed₃]
    cases gap with
    | nil =>
      have hhead : k₃.rest.head? = some (closing single) := by rw [hk₃.rest]; rfl
      simp only [hhead, beq_self_eq_true, if_true]
      exact ⟨k₃.advance, f₂, rfl, by simpa using hf₂, hk₃.advance.cast rfl (by simp) (by simp)⟩
    | cons c gap =>
      obtain ⟨hblank, hbare⟩ := hgap c rfl
      have hhead : k₃.rest.head? = some c := by simp [hk₃.rest, hbare]
      have hne : c ≠ closing single := by
        rintro rfl
        rw [(closing_ne_gap single).1] at hblank
        exact Bool.false_ne_true hblank
      have hlength : (c :: gap).length < bound + 1 := by
        simp only [List.length_append] at hbound
        omega
      obtain ⟨blanks, rest, k₄, f₄, hsplit, hrest, hrun, hf₄, hk₄⟩ :=
        exists_quotedGap (fun d hd => hcs d (List.mem_append_right _ hd)) hlength hf₂ hk₃
      simp only [hhead, Option.some.injEq, beq_iff_eq, hne, if_false, hrun, Option.bind_some]
      -- the gap is not empty, so less of the text is left
      have hshorter : rest.length < bound := by
        cases blanks with
        | nil =>
          exact absurd ⟨hblank, hbare⟩ (hrest c (by rw [← List.nil_append rest, ← hsplit]; rfl))
        | cons b blanks =>
          have := congrArg List.length hsplit
          simp only [List.length_append, List.length_cons] at this hlength
          omega
      rw [hsplit] at hcs
      obtain ⟨m, g, hwords, hg, hm⟩ :=
        ih (fun d hd => hcs d (by simp [hd])) hshorter hf₄.settle (by omega) hk₄
      refine ⟨m, g, hwords, ?_, hm.cast rfl ?_ ?_⟩
      · simpa [hsplit] using hg
      · simp [hsplit, Nat.add_assoc]
      · simp [hsplit, Nat.add_assoc]

/-- What is written is at least as long as the text. -/
theorem length_le_flatMap {cs : List Char} (hcs : ∀ c ∈ cs, IsQuotable single write c) :
    cs.length ≤ (cs.flatMap write).length := by
  induction cs with
  | nil => exact Nat.le_refl 0
  | cons c cs ih =>
    have hrest := ih fun d hd => hcs d (List.mem_cons_of_mem _ hd)
    have hc : 0 < (write c).length := by
      rcases hcs c List.mem_cons_self with ⟨-, hbare⟩ | ⟨⟨d, rest, hwrite, -⟩, -⟩
      · simp [hbare]
      · simp [hwrite]
    simp only [List.flatMap_cons, List.length_append, List.length_cons]
    omega

/-- A text between quotes reads back. -/
theorem IsAt.readQuoted? {cs : List Char} {k : Cursor} {i col : Nat}
    (hcs : ∀ c ∈ cs, IsQuotable single write c) (hafter : after.head? ≠ some '\'')
    (h : k.IsAt
      ⟨(closing single :: cs.flatMap write ++ [closing single]) ++ after, i, l, col⟩) :
    ∃ m, readQuoted? single k = some (cs, m) ∧
      m.IsAt ⟨after, i + (closing single :: cs.flatMap write ++ [closing single]).length, l,
        col + (closing single :: cs.flatMap write ++ [closing single]).length⟩ := by
  have h' : k.IsAt ⟨closing single :: (cs.flatMap write ++ closing single :: after), i,
      l, col⟩ :=
    h.cast (by simp) rfl rfl
  have hbound : cs.length < k.rest.length + 1 := by
    have hlength := length_le_flatMap hcs
    simp only [h'.rest, List.length_cons, List.length_append]
    omega
  obtain ⟨m, g, hwords, hg, hm⟩ :=
    exists_quotedWords hafter _ hcs hbound Folding.holds_nil (Nat.succ_pos col) h'.advance
  have hlength : (closing single :: cs.flatMap write ++ [closing single]).length =
      (cs.flatMap write).length + 2 := by
    simp only [List.cons_append, List.length_cons, List.length_append, List.length_nil]
  refine ⟨m, ?_, hm.cast rfl (by omega) (by omega)⟩
  simp only [Yaml.readQuoted?, hwords, Option.map_some, hg.settle_result, List.nil_append]

end Words

/-! ## §4 Escapes -/

/-- A character that is no blank, break, quote or backslash stands for itself. -/
theorem readsAs_self {single : Bool} {c : Char} (hblank : isBlank c = false)
    (hbreak : isBreak c = false) (hquote : c ≠ closing single)
    (hslash : single = false → c ≠ '\\') : ReadsAs single [c] c := by
  refine ⟨⟨c, [], rfl, hblank, hbreak⟩, fun bound k f done rest i l col h hf => ?_⟩
  have hrest : k.rest = c :: rest := h.rest
  obtain ⟨m, hneed, hm⟩ := (h.cast rfl rfl rfl : k.IsAt ⟨c :: rest, i, l, col⟩).advance.need? 2
  refine ⟨m, f.push c, ?_, hm, hf.push c⟩
  cases single with
  | true =>
    simp only [quotedWord?, if_true, singleWord?, hrest]
    split <;> simp_all [closing]
  | false =>
    simp only [quotedWord?, Bool.false_eq_true, if_false, doubleWord?, hrest]
    split <;> simp_all [closing]

/-- Between single quotes, two of them stand for one. -/
theorem readsAs_doubled : ReadsAs true ['\'', '\''] '\'' := by
  refine ⟨⟨'\'', ['\''], rfl, rfl, rfl⟩, fun bound k f done rest i l col h hf => ?_⟩
  have hrest : k.rest = '\'' :: '\'' :: rest := h.rest
  obtain ⟨m, hneed, hm⟩ := h.advanceBy.need? 2
  refine ⟨m, f.push '\'', ?_, hm, hf.push '\''⟩
  simp only [quotedWord?, if_true, singleWord?, hrest]
  simp only [List.length_cons, List.length_nil] at hneed
  simp only [hneed, Option.bind_eq_bind, Option.bind_some]

/-- An escape of one letter. -/
theorem readsAs_letter {letter c : Char} (h : escapedChar? letter = some c)
    (hbreak : isBreak letter = false) : ReadsAs false ['\\', letter] c := by
  refine ⟨⟨'\\', [letter], rfl, rfl, rfl⟩, fun bound k f done rest i l col hk hf => ?_⟩
  have hrest : k.rest = '\\' :: letter :: rest := hk.rest
  obtain ⟨m, hneed, hm⟩ := hk.advanceBy.need? 2
  refine ⟨m, f.push c, ?_, hm, hf.push c⟩
  simp only [List.length_cons, List.length_nil] at hneed
  simp only [quotedWord?, Bool.false_eq_true, if_false, doubleWord?, hrest, hbreak,
    readEscaped?, h, hneed, Option.bind_eq_bind, Option.bind_some]

theorem not_surrogate (c : Char) :
    ¬ ((0xd800 ≤ c.toNat ∧ c.toNat ≤ 0xdfff) ∨ 0x10ffff < c.toNat) := by
  have := Text.isScalar c
  omega

/-- An escape of hexadecimal digits. -/
theorem readsAs_digits {letter c : Char} {width : Nat} (h : escapedChar? letter = none)
    (hwidth : escapeWidth? letter = some width) (hbreak : isBreak letter = false)
    (hc : c.toNat < 16 ^ width) :
    ReadsAs false ('\\' :: letter :: (Text.hexDigits width c.toNat).map Char.toUpper) c := by
  refine ⟨⟨'\\', _, rfl, rfl, rfl⟩, fun bound k f done rest i l col hk hf => ?_⟩
  let digits := (Text.hexDigits width c.toNat).map Char.toUpper
  have hlength : digits.length = width := by simp [digits, Text.length_hexDigits]
  have hrest : k.rest = '\\' :: letter :: (digits ++ rest) := hk.rest
  have hk₁ : (k.advanceBy 2).IsAt ⟨digits ++ rest, i + 2, l, col + 2⟩ :=
    (hk.cast rfl rfl rfl :
      k.IsAt ⟨['\\', letter] ++ (digits ++ rest), i, l, col⟩).advanceBy
  obtain ⟨k₂, hneed₂, hk₂⟩ := hk₁.need? width
  obtain ⟨m, hneed, hm⟩ := hk₂.advanceBy.need? 2
  have hread : Text.readHex? width 0 k₂.rest = some (c.toNat, rest) := by
    rw [hk₂.rest, readHex?_upperHex, Nat.zero_mul, Nat.zero_add, Nat.mod_eq_of_lt hc]
  refine ⟨m, f.push c, ?_, hm.cast rfl ?_ ?_, hf.push c⟩
  · have hvalid : ((decide (0xd800 ≤ c.toNat) && decide (c.toNat ≤ 0xdfff)) ||
        decide (0x10ffff < c.toNat)) = false := by
      simpa using not_surrogate c
    rw [hlength] at hneed
    simp only [quotedWord?, Bool.false_eq_true, if_false, doubleWord?, hrest, hbreak,
      readEscaped?, h, hwidth, hneed₂, hread, Option.bind_eq_bind, Option.bind_some,
      Option.pure_def, hvalid, Char.ofNat_toNat, hneed]
  · simp only [digits, List.length_cons]
    omega
  · simp only [digits, List.length_cons]
    omega

/-- Every character reads back from its escape. -/
theorem readsAs_escaped (c : Char) : ReadsAs false (escaped c).toList c := by
  have hself : ∀ {n : Nat}, c.toNat = n → c = Char.ofNat n := by
    rintro _ rfl
    exact (Char.ofNat_toNat c).symm
  unfold escaped
  split
  case h_16 =>
    have hwritten :
        ∀ letter width, (String.ofList ['\\', letter] ++ upperHex width c.toNat).toList =
        '\\' :: letter :: (Text.hexDigits width c.toNat).map Char.toUpper := by
      simp [upperHex]
    have hsmall := not_surrogate c
    split
    · exact (hwritten 'x' 2).symm ▸ readsAs_digits rfl rfl rfl (by omega)
    · split
      · exact (hwritten 'u' 4).symm ▸ readsAs_digits rfl rfl rfl (by omega)
      · exact (hwritten 'U' 8).symm ▸ readsAs_digits rfl rfl rfl (by omega)
  all_goals
    next h =>
    rw [hself h]
    exact readsAs_letter rfl rfl

/-- A writable character other than the space is no blank. -/
theorem not_isBlank_of_isWritable {c : Char} (h : isWritable c = true) (hc : c ≠ ' ') :
    isBlank c = false := by
  have htab : c ≠ '\t' := by
    rintro rfl
    exact absurd h (by decide)
  simp [isBlank, hc, htab]

/-- What single quotes write for a character of a line. -/
theorem isQuotable_quoteSingle {c : Char} (hwritable : isWritable c = true)
    (hbreak : isBreak c = false) : IsQuotable true (fun c => (quoteSingle c).toList) c := by
  by_cases hquote : c = '\''
  · subst hquote
    exact Or.inr readsAs_doubled
  have hself : (quoteSingle c).toList = [c] := by simp [quoteSingle, hquote]
  by_cases hspace : c = ' '
  · subst hspace
    exact Or.inl ⟨rfl, rfl⟩
  · refine Or.inr ?_
    simp only [hself]
    exact readsAs_self (not_isBlank_of_isWritable hwritable hspace) hbreak hquote (by simp)

/-- A character between double quotes; `all` is whether every one is escaped. -/
def quoteDouble (all : Bool) (c : Char) : String :=
  if all || needsEscape c then escaped c else String.singleton c

/-- What double quotes write for a character. -/
theorem isQuotable_quoteDouble (all : Bool) (c : Char) :
    IsQuotable false (fun c => (quoteDouble all c).toList) c := by
  by_cases hescape : (all || needsEscape c) = true
  · refine Or.inr ?_
    simp only [quoteDouble, hescape, if_true]
    exact readsAs_escaped c
  have hself : (quoteDouble all c).toList = [c] := by simp [quoteDouble, hescape]
  have hplain : needsEscape c = false := by simp_all
  simp only [needsEscape, Bool.or_eq_false_iff, Bool.not_eq_false',
    beq_eq_false_iff_ne] at hplain
  obtain ⟨⟨⟨hwritable, hbreak⟩, hquote⟩, hslash⟩ := hplain
  by_cases hspace : c = ' '
  · exact Or.inl ⟨by rw [hspace]; rfl, hself⟩
  · refine Or.inr ?_
    simp only [hself]
    exact readsAs_self (not_isBlank_of_isWritable hwritable hspace) hbreak hquote fun _ =>
      hslash

end ArgTaint.Yaml
