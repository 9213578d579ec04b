/-
ArgTaint.Proofs.Yaml.Plain — a plain scalar of one line reads back.

A plain scalar is read word by word. Nothing inside a text that can be written
plain ends it: no colon in front of a blank, no number sign after one, and no
blank at either end. What comes after the text does: a colon with a blank, or
a line that is indented less.

  §1 Words — the words of a text that can be written plain.
  §2 Text  — all of it, up to what follows.
  §3 Ends  — the two ways in which it ends.
-/
import ArgTaint.Proofs.Yaml.Quoted

namespace ArgTaint.Yaml

/-! ## §1 Words -/

/-- What follows an indicator-free text up to a character is free of
indicators too. -/
theorem hasIndicator_append {u v : List Char} {c : Char} :
    ∀ {b : Bool}, hasIndicator b (u ++ c :: v) = false →
      hasIndicator (isBlank c || isBreak c) v = false := by
  induction u with
  | nil =>
    intro b h
    simp only [List.nil_append, hasIndicator, Bool.or_eq_false_iff] at h
    exact h.2
  | cons d u ih =>
    intro b h
    simp only [List.cons_append, hasIndicator, Bool.or_eq_false_iff] at h
    exact ih h.2

/-- The first word of a text ends at its first blank, or at the end. -/
theorem plainWord_append {cs after : List Char} (hafter : plainWord false after = [])
    (hbreaks : ∀ c ∈ cs, isBreak c = false) :
    ∀ {b : Bool}, hasIndicator b cs = false →
      plainWord false (cs ++ after) = cs.takeWhile fun c => !isBlank c := by
  induction cs with
  | nil => exact fun _ => hafter
  | cons c cs ih =>
    intro b h
    have hbreak := hbreaks c List.mem_cons_self
    simp only [hasIndicator, Bool.or_eq_false_iff] at h
    -- a colon has a character of the text after it that is no blank
    have hcolon : (c == ':' && blankAhead (cs ++ after)) = false := by
      cases cs with
      | nil =>
        have hne : ¬ c = ':' := by simpa [spaceAhead] using h.1.1
        simp [hne]
      | cons d cs =>
        have hd := hbreaks d (List.mem_cons_of_mem _ List.mem_cons_self)
        simpa [spaceAhead, blankAhead, hd] using h.1.1
    have hrest := ih (fun d hd => hbreaks d (List.mem_cons_of_mem _ hd)) h.2
    cases hblank : isBlank c with
    | true => simp [plainWord, hblank]
    | false => simp [plainWord, hblank, hbreak, hcolon, hrest]

/-- Blanks of one line are kept until the next word, those at the start of a
line are not. -/
theorem exists_plainGap (indent : Nat) {l : Nat} {blanks rest : List Char}
    (hblanks : ∀ c ∈ blanks, c = ' ')
    (hstop : ∀ c ∈ rest.head?, isBlank c = false ∧ isBreak c = false) :
    ∀ (bound : Nat) {k : Cursor} (f : Folding) {i col : Nat},
      k.IsAt ⟨blanks ++ rest, i, l, col⟩ → blanks.length < bound →
      ∃ m, plainGap? indent bound k f = some (m, blanks.foldl Folding.blank f) ∧
        m.IsAt ⟨rest, i + blanks.length, l, col + blanks.length⟩ := by
  induction blanks with
  | nil =>
    intro bound k f i col h hbound
    obtain ⟨bound, rfl⟩ := Nat.exists_eq_succ_of_ne_zero (Nat.ne_zero_of_lt hbound)
    refine ⟨k, ?_, h⟩
    have hrest : k.rest = rest := h.rest
    cases rest with
    | nil => simp only [plainGap?, hrest, List.foldl_nil]
    | cons c rest =>
      obtain ⟨hblank, hbreak⟩ := hstop c rfl
      simp only [plainGap?, hrest, hblank, hbreak, Bool.false_eq_true, if_false, List.foldl_nil]
  | cons c blanks ih =>
    intro bound k f i col h hbound
    obtain ⟨bound, rfl⟩ := Nat.exists_eq_succ_of_ne_zero (Nat.ne_zero_of_lt hbound)
    obtain rfl : c = ' ' := hblanks c List.mem_cons_self
    obtain ⟨k', hneed, hk'⟩ := h.advance.need? 1
    obtain ⟨m, hrun, hm⟩ :=
      ih (fun d hd => hblanks d (List.mem_cons_of_mem _ hd)) bound (f.blank ' ') hk'
        (Nat.lt_of_succ_lt_succ hbound)
    refine ⟨m, ?_, ?_⟩
    · have hrest : k.rest = ' ' :: (blanks ++ rest) := h.rest
      have hspace : isBlank ' ' = true := rfl
      have htab : (' ' == '\t') = false := rfl
      simp only [plainGap?, hrest, hspace, htab, if_true, Bool.and_false, Bool.false_eq_true,
        if_false, hneed, Option.bind_eq_bind, Option.bind_some, hrun, List.foldl_cons]
    · exact hm.cast rfl (by simp only [List.length_cons]; omega)
        (by simp only [List.length_cons]; omega)

/-- Blanks after a text are held with it. -/
theorem Folding.Holds.foldl_blank {f : Folding} {done : List Char} (blanks : List Char)
    (h : f.Holds done) : (blanks.foldl Folding.blank f).Holds (done ++ blanks) := by
  induction blanks generalizing f done with
  | nil => simpa using h
  | cons c blanks ih => simpa using ih (h.blank c)

theorem Folding.foldl_blank_of_first {f : Folding} (blanks : List Char)
    (h : f.first.isSome = true) : blanks.foldl Folding.blank f = f := by
  induction blanks with
  | nil => rfl
  | cons c blanks ih =>
    have hblank : f.blank c = f := by simp [Folding.blank, h]
    rw [List.foldl_cons, hblank, ih]

/-! ## §2 Text -/

/-- What is read after a word. -/
def plainTail? (indent bound : Nat) (k : Cursor) (f : Folding) : Option (Cursor × Folding) :=
  if !k.rest.isEmpty && blankAhead k.rest then
    (plainGap? indent (bound + 1) k f).bind fun (k, f) =>
      if k.column < indent then some (k, f) else plainWords? false indent bound k f
  else some (k, f)

/-- One word of a plain scalar, and what is read after it. -/
theorem plainWords?_succ (indent bound : Nat) (k : Cursor) (f : Folding) :
    plainWords? false indent (bound + 1) k f =
      (k.need? 4).bind fun k =>
        if k.atDocumentMark || k.rest.head? == some '#' then some (k, f)
        else
          (k.pass? 2 (plainWord false k.rest).length).bind fun m =>
            plainTail? indent bound m (f.pushAll (plainWord false k.rest)) := by
  simp only [plainWords?, plainTail?, Option.bind_eq_bind, Option.pure_def, Bool.not_false,
    Bool.true_and, decide_eq_true_eq]

/-- A text as it can be written plain, from the start of a word on. -/
structure IsPlainText (cs : List Char) : Prop where
  head : ∃ c rest, cs = c :: rest ∧ isBlank c = false
  last : cs.getLast? ≠ some ' '
  writable : ∀ c ∈ cs, isWritable c = true ∧ isBreak c = false
  indicator : hasIndicator true cs = false

theorem IsPlainText.isBlank_iff {cs : List Char} (h : IsPlainText cs) {c : Char} (hc : c ∈ cs) :
    isBlank c = true ↔ c = ' ' := by
  constructor
  · intro hblank
    by_contra hne
    rw [not_isBlank_of_isWritable (h.writable c hc).1 hne] at hblank
    exact Bool.false_ne_true hblank
  · rintro rfl
    rfl

theorem exists_span (q : Char → Bool) (cs : List Char) :
    ∃ u v, cs = u ++ v ∧ (∀ c ∈ u, q c = true) ∧ ∀ c ∈ v.head?, q c = false := by
  refine ⟨cs.takeWhile q, cs.dropWhile q, List.takeWhile_append_dropWhile.symm,
    fun c hc => List.mem_takeWhile_imp hc, fun c hc => ?_⟩
  have hhead := List.head?_dropWhile_not q cs
  rw [Option.mem_def.mp hc] at hhead
  simpa using hhead

/-- A text is one word, or a word, a gap and a text. -/
theorem IsPlainText.split {cs : List Char} (h : IsPlainText cs) :
    (∀ c ∈ cs, isBlank c = false) ∨
      ∃ word gap rest, cs = word ++ (gap ++ rest) ∧ word ≠ [] ∧
        (∀ c ∈ word, isBlank c = false) ∧
        gap ≠ [] ∧ (∀ c ∈ gap, c = ' ') ∧ IsPlainText rest := by
  obtain ⟨word, tail, rfl, hword, htail⟩ := exists_span (fun c => !isBlank c) cs
  replace hword : ∀ c ∈ word, isBlank c = false := fun c hc => by simpa using hword c hc
  obtain ⟨gap, rest, rfl, hgap, hrest⟩ := exists_span isBlank tail
  replace hgap : ∀ c ∈ gap, c = ' ' := fun c hc =>
    (h.isBlank_iff (by simp [hc])).mp (hgap c hc)
  obtain ⟨c₀, cs₀, hcs, hc₀⟩ := h.head
  cases gap.eq_nil_or_concat' with
  | inl hnil =>
    -- without a gap, nothing follows the first word
    left
    subst hnil
    cases rest with
    | nil => simpa using hword
    | cons c rest =>
      have hblank := htail c rfl
      have hplain := hrest c rfl
      simp [hplain] at hblank
  | inr hconcat =>
    right
    obtain ⟨init, last, rfl⟩ := hconcat
    obtain rfl : last = ' ' := hgap last (by simp)
    refine ⟨word, init ++ [' '], rest, rfl, ?_, hword, by simp, hgap, ?_⟩
    · rintro rfl
      have hblank := htail c₀ (by rw [List.nil_append] at hcs; rw [hcs]; rfl)
      simp [hc₀] at hblank
    have hlast := h.last
    refine ⟨?_, ?_, fun c hc => h.writable c (by simp [hc]), ?_⟩
    · cases rest with
      | nil => simp at hlast
      | cons c rest => exact ⟨c, rest, rfl, hrest c rfl⟩
    · cases rest with
      | nil => simp
      | cons c rest =>
        rw [← List.append_assoc,
          List.getLast?_append_of_ne_nil _ (List.cons_ne_nil c rest)] at hlast
        exact hlast
    · have hind := h.indicator
      have hassoc : word ++ (init ++ [' '] ++ rest) = (word ++ init) ++ ' ' :: rest := by simp
      rw [hassoc] at hind
      exact hasIndicator_append hind

/-- A word and what follows it. -/
theorem plainWords?_word {indent bound l : Nat} {cs after : List Char} {k : Cursor}
    {f : Folding} {done : List Char} {i col : Nat} (hcs : IsPlainText cs) (hf : f.Holds done)
    (hmark : col = 0 → ∀ c ∈ cs.head?, c ≠ '-' ∧ c ≠ '.') {word rest : List Char}
    (hsplit : cs = word ++ rest) (hne : word ≠ [])
    (hword : plainWord false (cs ++ after) = word)
    (h : k.IsAt ⟨cs ++ after, i, l, col⟩) :
    ∃ m g, plainWords? false indent (bound + 1) k f = plainTail? indent bound m g ∧
      g.Holds (done ++ word) ∧ g.blanks = [] ∧
      m.IsAt ⟨rest ++ after, i + word.length, l, col + word.length⟩ := by
  obtain ⟨k₁, hneed, hk₁⟩ := h.need? 4
  have hk₁' : k₁.IsAt ⟨word ++ (rest ++ after), i, l, col⟩ :=
    hk₁.cast (by rw [hsplit, List.append_assoc]) rfl rfl
  obtain ⟨m, hpass, hm⟩ := hk₁'.pass? 2
  refine ⟨m, f.pushAll word, ?_, hf.pushAll word, ?_, hm⟩
  · obtain ⟨c, tail, rfl, -⟩ := hcs.head
    have hdocument : k₁.atDocumentMark = false := by
      simp only [Cursor.atDocumentMark, Cursor.atMark, hk₁.rest, hk₁.column]
      by_cases hcol : col = 0
      · obtain ⟨hdash, hdot⟩ := hmark hcol c rfl
        simp [List.isPrefixOf, Ne.symm hdash, Ne.symm hdot]
      · simp [hcol]
    have hsharp : (k₁.rest.head? == some '#') = false := by
      have hindicator := hcs.indicator
      simp only [hasIndicator, Bool.and_true, Bool.or_eq_false_iff] at hindicator
      simpa [hk₁.rest] using hindicator.1.2
    have htaken : plainWord false k₁.rest = word := by rw [hk₁.rest]; exact hword
    simp only [plainWords?_succ, hneed, Option.bind_some, hdocument, hsharp, Bool.or_self,
      Bool.false_eq_true, if_false, htaken, hpass]
  · cases word with
    | nil => exact absurd rfl hne
    | cons c word => rfl

/-- The words of a text are read up to what follows it. -/
theorem exists_plainWords {indent l : Nat} {after : List Char}
    (hafter : plainWord false after = []) (bound : Nat) :
    ∀ {cs : List Char} {k : Cursor} {f : Folding} {done : List Char} {i col : Nat},
      IsPlainText cs → f.Holds done → (col = 0 → ∀ c ∈ cs.head?, c ≠ '-' ∧ c ≠ '.') →
      indent ≤ col + 2 → (cs ++ after).length ≤ bound → k.IsAt ⟨cs ++ after, i, l, col⟩ →
      ∃ m g left, plainWords? false indent bound k f = plainTail? indent left m g ∧
        after.length ≤ left ∧ g.Holds (done ++ cs) ∧ g.blanks = [] ∧
        m.IsAt ⟨after, i + cs.length, l, col + cs.length⟩ := by
  induction bound with
  | zero =>
    intro cs k f done i col hcs _ _ _ hbound
    obtain ⟨c, tail, rfl, -⟩ := hcs.head
    simp at hbound
  | succ bound ih =>
    intro cs k f done i col hcs hf hmark hindent hbound h
    have hbreaks : ∀ c ∈ cs, isBreak c = false := fun c hc => (hcs.writable c hc).2
    have htake := plainWord_append hafter hbreaks hcs.indicator
    rcases hcs.split with hone | ⟨word, gap, rest, rfl, hword, hwordChars, hgap,
      hgapChars, hrest⟩
    · have hall : plainWord false (cs ++ after) = cs := by
        rw [htake, List.takeWhile_eq_self_iff]
        exact fun c hc => by simp [hone c hc]
      obtain ⟨c, tail, hcons, -⟩ := hcs.head
      have hne : cs ≠ [] := by simp [hcons]
      obtain ⟨m, g, hrun, hg, hblanks, hm⟩ :=
        plainWords?_word hcs hf hmark (List.append_nil cs).symm hne hall h
      refine ⟨m, g, bound, hrun, ?_, hg, hblanks, hm⟩
      simp only [hcons, List.cons_append, List.length_cons, List.length_append] at hbound
      omega
    · have hfirst : plainWord false (word ++ (gap ++ rest) ++ after) = word := by
        rw [htake, List.takeWhile_append_of_pos (fun c hc => by simp [hwordChars c hc])]
        obtain ⟨c, blanks, rfl⟩ := List.exists_cons_of_ne_nil hgap
        obtain rfl : c = ' ' := hgapChars c List.mem_cons_self
        exact List.append_nil word
      obtain ⟨m, g, hrun, hg, hblanks, hm⟩ := plainWords?_word hcs hf hmark rfl hword hfirst h
      obtain ⟨c, tail, hcons, hc⟩ := hrest.head
      have hstop : ∀ d ∈ (rest ++ after).head?, isBlank d = false ∧ isBreak d = false := by
        simpa [hcons, hc] using hbreaks c (by simp [hcons])
      have hm' : m.IsAt ⟨gap ++ (rest ++ after), i + word.length, l, col + word.length⟩ :=
        hm.cast (List.append_assoc _ _ _) rfl rfl
      have hwordLength := List.length_pos_iff.mpr hword
      have hgapLength := List.length_pos_iff.mpr hgap
      simp only [List.length_append] at hbound
      obtain ⟨m₂, hskip, hm₂⟩ :=
        exists_plainGap indent hgapChars hstop (bound + 1) g hm' (by omega)
      -- the gap leads to a column inside the block, so the scalar goes on
      have htail : plainTail? indent bound m g =
          plainWords? false indent bound m₂ (gap.foldl Folding.blank g) := by
        have hcolumn : ¬ m₂.column < indent := by
          simp only [hm₂.column]
          omega
        have hblank : (!m.rest.isEmpty && blankAhead m.rest) = true := by
          obtain ⟨d, blanks, rfl⟩ := List.exists_cons_of_ne_nil hgap
          obtain rfl : d = ' ' := hgapChars d List.mem_cons_self
          rw [hm'.rest]
          rfl
        simp only [plainTail?, hblank, if_true, hskip, Option.bind_some, hcolumn, if_false]
      obtain ⟨m₃, g₃, left, hrun₃, hleft, hg₃, hblanks₃, hm₃⟩ :=
        ih hrest (hg.foldl_blank gap) (fun hzero => by omega) (by omega)
          (by simp only [List.length_append]; omega) hm₂
      refine ⟨m₃, g₃, left, hrun.trans (htail.trans hrun₃), hleft, by simpa using hg₃,
        hblanks₃, ?_⟩
      exact hm₃.cast rfl (by simp only [List.length_append]; omega)
        (by simp only [List.length_append]; omega)

/-! ## §3 Ends -/

/-- In front of a colon with a blank, a plain scalar ends. -/
theorem IsAt.readPlain?_colon {indent l : Nat} {cs after : List Char} {k : Cursor} {i col : Nat}
    (hcs : IsPlainText cs) (hmark : col = 0 → ∀ c ∈ cs.head?, c ≠ '-' ∧ c ≠ '.')
    (hindent : indent ≤ col + 2) (hafter : blankAhead after = true)
    (h : k.IsAt ⟨cs ++ ':' :: after, i, l, col⟩) :
    ∃ m, readPlain? false indent k = some (cs, m, false) ∧
      m.IsAt ⟨':' :: after, i + cs.length, l, col + cs.length⟩ := by
  have hstop : plainWord false (':' :: after) = [] := by
    simp [plainWord, hafter, isBlank, isBreak]
  obtain ⟨m, g, left, hrun, -, hg, hblanks, hm⟩ :=
    exists_plainWords hstop (k.rest.length + 2) hcs Folding.holds_nil hmark hindent
      (by rw [h.rest]; exact Nat.le_add_right _ 2) h
  have htail : plainTail? indent left m g = some (m, g) := by
    have hcolon : blankAhead m.rest = false := by rw [hm.rest]; rfl
    simp only [plainTail?, hcolon, Bool.and_false, Bool.false_eq_true, if_false]
  refine ⟨m, ?_, hm⟩
  have hresult : g.result = cs := by
    have := hg.text
    rw [hblanks, List.nil_append, List.nil_append] at this
    rw [Folding.result, this, List.reverse_reverse]
  simp only [readPlain?, hrun, htail, Option.map_some, hresult, hg.first, Option.isSome_none]

/-- In front of a line that is indented less, a plain scalar ends; the place
after it is on that line. -/
theorem IsAt.readPlain?_line {indent l margin : Nat} {cs rest : List Char} {k : Cursor}
    {i col : Nat} (hcs : IsPlainText cs)
    (hmark : col = 0 → ∀ c ∈ cs.head?, c ≠ '-' ∧ c ≠ '.') (hindent : indent ≤ col + 2)
    (hmargin : margin < indent)
    (hrest : ∀ c ∈ rest.head?, isBlank c = false ∧ isBreak c = false)
    (h : k.IsAt ⟨cs ++ '\n' :: (List.replicate margin ' ' ++ rest), i, l, col⟩) :
    ∃ m, readPlain? false indent k = some (cs, m, true) ∧
      m.IsAt ⟨rest, i + cs.length + 1 + margin, l + 1, margin⟩ := by
  have hstop : plainWord false ('\n' :: (List.replicate margin ' ' ++ rest)) = [] := rfl
  obtain ⟨m, g, left, hrun, hleft, hg, hblanks, hm⟩ :=
    exists_plainWords hstop (k.rest.length + 2) hcs Folding.holds_nil hmark hindent
      (by rw [h.rest]; exact Nat.le_add_right _ 2) h
  obtain ⟨m₁, hneed₁, hm₁⟩ := hm.need? 2
  obtain ⟨m₂, hbreak, hm₂⟩ := hm₁.takeBreak?
  obtain ⟨m₃, hneed₃, hm₃⟩ := hm₂.need? 1
  simp only [List.length_cons, List.length_append, List.length_replicate] at hleft
  obtain ⟨m₄, hgap, hm₄⟩ :=
    exists_plainGap indent (fun c hc => List.eq_of_mem_replicate hc) hrest left
      (g.lineBreak '\n') hm₃ (by simp only [List.length_replicate]; omega)
  have hfirst : (g.lineBreak '\n').first = some ['\n'] := by
    simp [Folding.lineBreak, hg.first]
  rw [Folding.foldl_blank_of_first _ (by rw [hfirst]; rfl)] at hgap
  have htail : plainTail? indent left m g = some (m₄, g.lineBreak '\n') := by
    have hhead : (!m.rest.isEmpty && blankAhead m.rest) = true := by rw [hm.rest]; rfl
    have hline : plainGap? indent (left + 1) m g = some (m₄, g.lineBreak '\n') := by
      have hrest : m.rest = '\n' :: (List.replicate margin ' ' ++ rest) := hm.rest
      have hblank : isBlank '\n' = false := rfl
      have hbreaks : isBreak '\n' = true := rfl
      simp only [plainGap?, hrest, hblank, hbreaks, Bool.false_eq_true, if_false,
        if_true, hneed₁, hbreak, hneed₃, hgap, Option.bind_eq_bind, Option.bind_some]
    have hcolumn : m₄.column < indent := by
      simp only [hm₄.column, List.length_replicate]
      omega
    simp only [plainTail?, hhead, if_true, hline, Option.bind_some, hcolumn]
  refine ⟨m₄, ?_, hm₄.cast rfl (by simp) (by simp)⟩
  have hresult : (g.lineBreak '\n').result = cs := by
    have htext := hg.text
    rw [hblanks, List.nil_append, List.nil_append] at htext
    simp [Folding.result, Folding.lineBreak, hg.first, htext]
  simp only [readPlain?, hrun, htail, Option.map_some, hresult, hfirst, Option.isSome_some]

end ArgTaint.Yaml
