/-
ArgTaint.Proofs.Yaml.Cursor — moving through a text that can be taken in whole.

Looking ahead fails only at a block with a character that may not stand in a
text. In a text without one, and without byte order marks, looking ahead
changes nothing but the window, so a cursor is as good as the place that it is
at: what is left of the text, and the number, line and column of it.

  §1 Windows  — blocks of allowed characters can be taken in.
  §2 Places   — `IsAt`; looking ahead and moving on.
  §3 Runs     — passing over several characters.
  §4 Comments — where there is no comment, none is passed over.
-/
import ArgTaint.Yaml.Token.Comment
import Mathlib

namespace ArgTaint.Yaml

/-! ## §1 Windows -/

namespace Window

/-- A text of allowed characters can be taken in to its end. -/
theorem measure_intact {text : List Char} (hall : ∀ c ∈ text, isAllowed c = true) :
    ∀ room count, (measure room count text).2 = false := by
  induction text with
  | nil => intro room count; rfl
  | cons c rest ih =>
    intro room count
    have hrest := ih fun d hd => hall d (List.mem_cons_of_mem _ hd)
    simp only [measure, hall c List.mem_cons_self, if_true]
    split
    · exact hrest _ _
    · exact hrest _ _

/-- Blocks that can all be taken in are taken in as far as is asked for. -/
theorem fill?_isSome (n : Nat) (blocks : List Nat) :
    ∀ ahead, ∃ r, fill? n false ahead blocks = some r := by
  induction blocks with
  | nil => exact fun ahead => ⟨(ahead + 1, []), rfl⟩
  | cons block rest ih =>
    intro ahead
    by_cases h : n ≤ ahead + block
    · exact ⟨(ahead + block, rest), by simp only [fill?, h, if_true]⟩
    · simpa only [fill?, h, if_false] using ih (ahead + block)

end Window

/-! ## §2 Places -/

/-- A place in a text: what is left there, the number of characters in front
of it, and its line and column. -/
structure Place where
  rest : List Char
  index : Nat
  line : Nat
  column : Nat

namespace Cursor

variable {k : Cursor} {p : Place} {rest : List Char} {i l col : Nat}

/-- The cursor is at the place, in a text that can be taken in to its end. -/
structure IsAt (k : Cursor) (p : Place) : Prop where
  intact : k.window.broken = false
  unmarked : k.window.marked = false
  noMark : ∀ c ∈ k.rest, isOrderMark c = false
  rest : k.rest = p.rest
  index : k.index = p.index
  line : k.line = p.line
  column : k.column = p.column

/-- The same place in other words. -/
theorem IsAt.cast {rest' : List Char} {i' col' : Nat} (h : k.IsAt ⟨rest, i, l, col⟩)
    (hrest : rest = rest') (hi : i = i') (hcol : col = col') : k.IsAt ⟨rest', i', l, col'⟩ := by
  subst hrest hi hcol
  exact h

/-- In such a text any number of characters can be taken in. -/
theorem IsAt.need? (h : k.IsAt p) (n : Nat) : ∃ m, k.need? n = some m ∧ m.IsAt p := by
  obtain ⟨hintact, hunmarked, hnoMark, hrest, hindex, hline, hcolumn⟩ := h
  have hhere : (k.rest.head?.map isOrderMark).getD false = false := by
    cases hk : k.rest with
    | nil => rfl
    | cons c rest => exact hnoMark c (hk ▸ List.mem_cons_self)
  simp only [Cursor.need?, Window.reach?]
  split
  · exact ⟨k, rfl, hintact, hunmarked, hnoMark, hrest, hindex, hline, hcolumn⟩
  · obtain ⟨⟨ahead, blocks⟩, hfill⟩ := Window.fill?_isSome n k.window.blocks k.window.ahead
    rw [← hintact] at hfill
    rw [hfill]
    exact ⟨_, rfl, hintact, hhere, hnoMark, hrest, hindex, hline, hcolumn⟩

theorem IsAt.advance {c : Char} (h : k.IsAt ⟨c :: rest, i, l, col⟩) :
    k.advance.IsAt ⟨rest, i + 1, l, col + 1⟩ := by
  obtain ⟨hintact, hunmarked, hnoMark, hrest, hindex, hline, hcolumn⟩ := h
  dsimp only at hrest hindex hline hcolumn
  refine ⟨hintact, hunmarked, fun d hd => hnoMark d (List.mem_of_mem_drop hd), ?_, ?_,
    hline, ?_⟩
  · simp only [Cursor.advance, hrest, List.drop_succ_cons, List.drop_zero]
  · simp only [Cursor.advance, hindex]
  · simp only [Cursor.advance, hcolumn]

/-- A line feed is one line break. -/
theorem IsAt.takeBreak? (h : k.IsAt ⟨'\n' :: rest, i, l, col⟩) :
    ∃ m, k.takeBreak? = some ('\n', m) ∧ m.IsAt ⟨rest, i + 1, l + 1, 0⟩ := by
  obtain ⟨hintact, hunmarked, hnoMark, hrest, hindex, hline, hcolumn⟩ := h
  dsimp only at hrest hindex hline hcolumn
  refine ⟨k.toNextLine 1, ?_, hintact, hunmarked,
    fun d hd => hnoMark d (List.mem_of_mem_drop hd), ?_, ?_, ?_, rfl⟩
  · simp only [Cursor.takeBreak?, hrest]
    rfl
  · simp only [Cursor.toNextLine, hrest, List.drop_succ_cons, List.drop_zero]
  · simp only [Cursor.toNextLine, hindex]
  · simp only [Cursor.toNextLine, hline]

theorem IsAt.nextLine? (h : k.IsAt ⟨'\n' :: rest, i, l, col⟩) :
    ∃ m, k.nextLine? = some m ∧ m.IsAt ⟨rest, i + 1, l + 1, 0⟩ := by
  obtain ⟨k', hneed, hk'⟩ := h.need? 2
  obtain ⟨m, hbreak, hm⟩ := hk'.takeBreak?
  refine ⟨m, ?_, hm⟩
  have hisBreak : isBreak '\n' = true := rfl
  simp only [Cursor.nextLine?, h.rest, hisBreak, if_true, hneed, Option.map_some,
    Cursor.skipBreak, hbreak]

/-! ## §3 Runs -/

/-- Characters of one line are passed over one by one. -/
theorem IsAt.pass? (look : Nat) {cs : List Char} :
    ∀ {k : Cursor} {i col : Nat}, k.IsAt ⟨cs ++ rest, i, l, col⟩ →
      ∃ m, Cursor.pass? look cs.length k = some m ∧
        m.IsAt ⟨rest, i + cs.length, l, col + cs.length⟩ := by
  induction cs with
  | nil => exact fun h => ⟨_, rfl, h⟩
  | cons c cs ih =>
    intro k i col h
    obtain ⟨k', hneed, hk'⟩ := h.advance.need? look
    obtain ⟨m, hpass, hm⟩ := ih hk'
    refine ⟨m, ?_, ?_⟩
    · simp only [List.length_cons, Cursor.pass?, hneed, hpass]
    · simpa only [List.length_cons, Nat.add_assoc, Nat.add_comm 1] using hm

theorem IsAt.advanceBy {cs : List Char} :
    ∀ {k : Cursor} {i col : Nat}, k.IsAt ⟨cs ++ rest, i, l, col⟩ →
      (Cursor.advanceBy cs.length k).IsAt ⟨rest, i + cs.length, l, col + cs.length⟩ := by
  induction cs with
  | nil => exact fun h => h
  | cons c cs ih =>
    intro k i col h
    simpa only [List.length_cons, Cursor.advanceBy, Nat.add_assoc, Nat.add_comm 1] using
      ih h.advance

theorem takeWhile_append_stop {q : Char → Bool} {cs rest : List Char}
    (hcs : ∀ c ∈ cs, q c = true)
    (hstop : ∀ c ∈ rest.head?, q c = false) : (cs ++ rest).takeWhile q = cs := by
  rw [List.takeWhile_append_of_pos hcs]
  cases rest with
  | nil => simp
  | cons c rest =>
    rw [List.takeWhile_cons_of_neg, List.append_nil]
    simpa using hstop c rfl

/-- The characters that satisfy the test are passed over, and no others. -/
theorem IsAt.skipWhile? {q : Char → Bool} {cs : List Char} (h : k.IsAt ⟨cs ++ rest, i, l, col⟩)
    (hcs : ∀ c ∈ cs, q c = true) (hstop : ∀ c ∈ rest.head?, q c = false) :
    ∃ m, k.skipWhile? q = some m ∧ m.IsAt ⟨rest, i + cs.length, l, col + cs.length⟩ := by
  simp only [Cursor.skipWhile?, h.rest, takeWhile_append_stop hcs hstop]
  exact h.pass? 1

/-! ## §4 Comments -/

/-- What follows blanks and is no number sign starts no comment. -/
theorem IsAt.commentAhead? {blanks : List Char} (hblanks : ∀ c ∈ blanks, isBlank c = true)
    (hstop : ∀ c ∈ rest.head?, isBlank c = false ∧ c ≠ '#') (bound : Nat) :
    ∀ {k : Cursor} {j : Nat}, k.IsAt ⟨blanks ++ rest, i, l, col⟩ → j ≤ blanks.length →
      ∃ m, Yaml.commentAhead? false bound j k = some (m, none) ∧
        m.IsAt ⟨blanks ++ rest, i, l, col⟩ := by
  induction bound with
  | zero => exact fun h _ => ⟨_, rfl, h⟩
  | succ bound ih =>
    intro k j h hj
    obtain ⟨k', hneed, hk'⟩ := h.need? (j + 1)
    simp only [Yaml.commentAhead?, hneed, Option.bind_eq_bind, Option.bind_some, hk'.rest]
    rcases Nat.lt_or_eq_of_le hj with hlt | rfl
    · have hmem : isBlank blanks[j] = true := hblanks _ (List.getElem_mem hlt)
      obtain ⟨m, hrun, hm⟩ := ih hk' hlt
      refine ⟨m, ?_, hm⟩
      simpa only [List.getElem?_append_left hlt, List.getElem?_eq_getElem hlt, hmem,
        Bool.true_or, if_true] using hrun
    · simp only [List.getElem?_append_right (Nat.le_refl _), Nat.sub_self,
        ← List.head?_eq_getElem?]
      cases hrest : rest.head? with
      | none => exact ⟨k', rfl, hk'⟩
      | some c =>
        obtain ⟨hblank, hne⟩ := hstop c hrest
        refine ⟨k', ?_, hk'⟩
        simp [hblank, hne]

/-- At the end of a token, where no comment follows, the cursor stays. -/
theorem IsAt.skipLineComment? (blanks : List Char) (h : k.IsAt ⟨blanks ++ rest, i, l, col⟩)
    (hblanks : ∀ c ∈ blanks, isBlank c = true)
    (hstop : ∀ c ∈ rest.head?, isBlank c = false ∧ c ≠ '#') :
    ∃ m, Yaml.skipLineComment? k = some m ∧ m.IsAt ⟨blanks ++ rest, i, l, col⟩ := by
  obtain ⟨m, hrun, hm⟩ := h.commentAhead? hblanks hstop commentReach (Nat.zero_le _)
  simp only [Yaml.skipLineComment?]
  split
  · exact ⟨k, rfl, h⟩
  · exact ⟨m, by simp [hrun], hm⟩

end Cursor

end ArgTaint.Yaml
