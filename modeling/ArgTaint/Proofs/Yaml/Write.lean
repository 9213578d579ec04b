/-
ArgTaint.Proofs.Yaml.Write — how a text of one line is written.

A text without line breaks is written plain or between quotes (`Written`), and
plain only when it does not mean something else. What is written can be taken
in by a reader, and is at most four times as long as the text has bytes.

  §1 Quotes — what stands between quotes for a character (`Quotes`).
  §2 Forms  — `Written`; the forms that `writeText` chooses from.
  §3 Words  — texts with their styles.
  §4 Starts — a written text starts a token that is no mark.
-/
import ArgTaint.Proofs.Yaml.Plain
import ArgTaint.Yaml.Token

namespace ArgTaint.Yaml

/-! ## §1 Quotes -/

/-- Whatever can be written can be taken in. -/
theorem isAllowed_of_isWritable {c : Char} (h : isWritable c = true) :
    isAllowed c = true ∧ isOrderMark c = false := by
  simp only [isWritable, isAllowed, isOrderMark, Bool.or_eq_true, Bool.and_eq_true, beq_iff_eq,
    decide_eq_true_eq, bne_iff_ne, beq_eq_false_iff_ne] at h ⊢
  omega

/-- What `write` puts between quotes for a character reads back, can be taken
in and is short. -/
structure Quotes (single : Bool) (write : Char → List Char) (c : Char) : Prop where
  reads : IsQuotable single write c
  writable : ∀ d ∈ write c, isWritable d = true
  length : (write c).length ≤ 4 * c.utf8Size

/-- A character between single quotes reads back. -/
theorem quotes_quoteSingle {c : Char} (hwritable : isWritable c = true)
    (hbreak : isBreak c = false) : Quotes true (fun c => (quoteSingle c).toList) c := by
  refine ⟨isQuotable_quoteSingle hwritable hbreak, ?_, ?_⟩
  · by_cases hquote : c = '\''
    · subst hquote
      simp [quoteSingle, hwritable]
    · simp [quoteSingle, hquote, hwritable]
  · have hsize := c.utf8Size_pos
    by_cases hquote : c = '\''
    · simp only [quoteSingle, hquote, beq_self_eq_true, if_true, String.reduceToList,
        List.length_cons, List.length_nil]
      decide
    · simp only [quoteSingle, beq_eq_false_iff_ne.mpr hquote, Bool.false_eq_true, if_false,
        String.toList_singleton, List.length_cons, List.length_nil]
      omega

theorem isWritable_upper_hexDigit :
    ∀ d < 16, isWritable (Text.hexDigit d).toUpper = true := by decide

theorem isWritable_of_mem_upperHex {width n : Nat} {c : Char}
    (hc : c ∈ (upperHex width n).toList) : isWritable c = true := by
  simp only [upperHex, String.toList_ofList] at hc
  induction width generalizing n with
  | zero => exact absurd hc List.not_mem_nil
  | succ width ih =>
    simp only [Text.hexDigits, List.map_append, List.mem_append, List.map_cons, List.map_nil,
      List.mem_singleton] at hc
    rcases hc with hc | rfl
    · exact ih hc
    · exact isWritable_upper_hexDigit _ (Nat.mod_lt _ (by decide))

theorem isWritable_of_mem_escaped {c d : Char} (hd : d ∈ (escaped c).toList) :
    isWritable d = true := by
  unfold escaped at hd
  split at hd
  case h_16 =>
    have hdigits : ∀ {letter : Char} {width : Nat}, isWritable letter = true →
        d ∈ (String.ofList ['\\', letter] ++ upperHex width c.toNat).toList →
          isWritable d = true := by
      intro letter width hletter hmem
      simp only [String.toList_append, String.toList_ofList, List.cons_append, List.nil_append,
        List.mem_cons] at hmem
      rcases hmem with rfl | rfl | hmem
      · rfl
      · exact hletter
      · exact isWritable_of_mem_upperHex hmem
    split at hd
    · exact @hdigits 'x' 2 rfl hd
    · split at hd
      · exact @hdigits 'u' 4 rfl hd
      · exact @hdigits 'U' 8 rfl hd
  all_goals
    simp only [String.reduceToList, List.mem_cons, List.not_mem_nil, or_false] at hd
    rcases hd with rfl | rfl <;> rfl

/-- An escape has four characters for one byte, six for two or three and ten
for four. -/
theorem length_escaped_le (c : Char) : (escaped c).toList.length ≤ 4 * c.utf8Size := by
  have hpos := c.utf8Size_pos
  unfold escaped
  split
  case h_16 =>
    have hlength : ∀ letter width,
        (String.ofList ['\\', letter] ++ upperHex width c.toNat).toList.length = width + 2 := by
      simp [upperHex, Text.length_hexDigits]
    have hsize : (0x7f < c.toNat → 2 ≤ c.utf8Size) ∧ (0xffff < c.toNat → c.utf8Size = 4) := by
      simp only [Char.utf8Size, UInt32.le_iff_toNat_le, Char.toNat_val, UInt32.toNat_ofNatLT]
      split_ifs <;> omega
    split
    · rw [hlength 'x' 2]
      omega
    · split
      · rw [hlength 'u' 4]
        omega
      · rw [hlength 'U' 8]
        omega
  all_goals
    simp only [String.reduceToList, List.length_cons, List.length_nil]
    omega

/-- A character between double quotes reads back. -/
theorem quotes_quoteDouble (all : Bool) (c : Char) :
    Quotes false (fun c => (quoteDouble all c).toList) c := by
  refine ⟨isQuotable_quoteDouble all c, ?_, ?_⟩
  · by_cases hescape : (all || needsEscape c) = true
    · simp only [quoteDouble, hescape, if_true]
      exact fun d hd => isWritable_of_mem_escaped hd
    · have hwritable : isWritable c = true := by
        simp only [needsEscape] at hescape
        simp_all
      simp [quoteDouble, hescape, hwritable]
  · by_cases hescape : (all || needsEscape c) = true
    · simp only [quoteDouble, hescape, if_true]
      exact length_escaped_le c
    · have hsize := c.utf8Size_pos
      simp only [quoteDouble, hescape, Bool.false_eq_true, if_false, String.toList_singleton,
        List.length_cons, List.length_nil]
      omega

/-! ## §2 Forms -/

/-- The written characters stand for a text, in a style. -/
inductive Written : List Char → List Char → Style → Prop
  | plain {cs : List Char} (text : IsPlainText cs) (start : startsWithIndicator cs = false) :
      Written cs cs .plain
  | quoted {single : Bool} {write : Char → List Char} {cs : List Char}
      (chars : ∀ c ∈ cs, Quotes single write c) :
      Written (closing single :: cs.flatMap write ++ [closing single]) cs .explicit

namespace Written

variable {written cs : List Char} {style : Style}

/-- Nothing is written that a reader could not take in. -/
theorem isWritable (h : Written written cs style) {c : Char} (hc : c ∈ written) :
    isWritable c = true := by
  cases h with
  | plain text start => exact (text.writable c hc).1
  | @quoted single write cs chars =>
    have hquote : Yaml.isWritable (closing single) = true := by cases single <;> decide
    simp only [List.cons_append, List.mem_cons, List.mem_append, List.mem_flatMap,
      List.not_mem_nil, or_false] at hc
    rcases hc with rfl | ⟨d, hd, hmem⟩ | rfl
    · exact hquote
    · exact (chars d hd).writable c hmem
    · exact hquote

theorem length_le_utf8Len (cs : List Char) : cs.length ≤ String.utf8Len cs := by
  induction cs with
  | nil => exact Nat.le_refl 0
  | cons c cs ih =>
    have hsize := c.utf8Size_pos
    simp only [List.length_cons, String.utf8Len_cons]
    omega

/-- A written text takes at most four characters for each byte, and its
quotes. -/
theorem length_le (h : Written written cs style) :
    written.length ≤ 4 * String.utf8Len cs + 2 := by
  cases h with
  | plain text start =>
    have hlength := length_le_utf8Len written
    omega
  | @quoted single write cs chars =>
    have hlength : (cs.flatMap write).length ≤ 4 * String.utf8Len cs := by
      induction cs with
      | nil => simp
      | cons c cs ih =>
        have hc := (chars c List.mem_cons_self).length
        have hrest := ih fun d hd => chars d (List.mem_cons_of_mem _ hd)
        simp only [List.flatMap_cons, List.length_append, String.utf8Len_cons]
        omega
    simp only [List.cons_append, List.length_cons, List.length_append, List.length_nil]
    omega

end Written

/-- A text that may be plain is written as itself. -/
theorem written_plain {cs : List Char} (hne : cs ≠ []) (h : allowsPlain cs = true) :
    Written cs cs .plain := by
  obtain ⟨c, rest, rfl⟩ := List.exists_cons_of_ne_nil hne
  simp only [allowsPlain, Bool.and_eq_true, List.all_eq_true, Bool.not_eq_true',
    bne_iff_ne] at h
  obtain ⟨⟨⟨⟨hchars, hhead⟩, hlast⟩, hstart⟩, hindicator⟩ := h
  refine .plain ⟨⟨c, rest, rfl, ?_⟩, hlast, hchars, hindicator⟩ hstart
  exact not_isBlank_of_isWritable (hchars c List.mem_cons_self).1 fun e =>
    hhead (by rw [e]; rfl)

/-- Without line breaks, every character is put on the line as it is written. -/
theorem toList_indentLines {indent : Nat} {write : Char → String} {cs : List Char}
    (h : ∀ c ∈ cs, isBreak c = false) :
    (indentLines indent write .inside cs).toList = cs.flatMap fun c => (write c).toList := by
  induction cs with
  | nil => rfl
  | cons c cs ih =>
    have hc := h c List.mem_cons_self
    simp [indentLines, hc, LinePlace.margin, ih fun d hd => h d (List.mem_cons_of_mem _ hd)]

/-- A text between single quotes stands for itself. -/
theorem written_writeSingle {indent : Nat} {text : String}
    (hwritable : ∀ c ∈ text.toList, isWritable c = true)
    (hbreak : ∀ c ∈ text.toList, isBreak c = false) :
    Written (writeSingle indent text).toList text.toList .explicit := by
  have hlist : (writeSingle indent text).toList =
      closing true :: text.toList.flatMap (fun c => (quoteSingle c).toList) ++
      [closing true] := by
    simp [writeSingle, toList_indentLines hbreak, closing]
  rw [hlist]
  exact .quoted fun c hc => quotes_quoteSingle (hwritable c hc) (hbreak c hc)

/-- A text between double quotes stands for itself. -/
theorem written_writeDouble (text : String) :
    Written (writeDouble text).toList text.toList .explicit := by
  let all := (text.toList.head?.map isOrderMark).getD false
  have hlist : (writeDouble text).toList =
      closing false :: text.toList.flatMap (fun c => (quoteDouble all c).toList) ++
        [closing false] := by
    simp [writeDouble, quoteDouble, String.toList_join, List.flatMap_map, closing, all]
  rw [hlist]
  exact .quoted fun c _ => quotes_quoteDouble all c

def styleOf (text : String) : Style :=
  if readsAsText text && allowsPlain text.toList then .plain else .explicit

/-- A text is written plain only when it then reads as a text. -/
theorem readsAsText_of_plain {text : String} (h : styleOf text = .plain) :
    readsAsText text = true := by
  unfold styleOf at h
  split at h
  · next hplain => exact (Bool.and_eq_true_iff.mp hplain).1
  · cases h

/-- A text of one line is written in one of the forms. -/
theorem written_writeText (indent : Nat) {text : String}
    (h : ∀ c ∈ text.toList, isBreak c = false) :
    Written (writeText indent text).toList text.toList (styleOf text) := by
  have hline : text.toList.contains '\n' = false := by
    simp only [List.contains_eq_mem, decide_eq_false_iff_not]
    exact fun hmem => absurd (h _ hmem) (by decide)
  simp only [writeText, hline, Bool.false_eq_true, if_false, styleOf]
  cases hreads : readsAsText text with
  | false => simpa using written_writeDouble text
  | true =>
    simp only [Bool.not_true, Bool.false_eq_true, if_false, Bool.true_and]
    split
    · next hplain =>
      refine written_plain ?_ hplain
      -- the empty text reads as null
      intro hnil
      rw [String.toList_eq_nil_iff.mp hnil] at hreads
      exact absurd hreads (by decide)
    · split
      · next hsingle =>
        simp only [allowsSingle, Bool.and_eq_true, List.all_eq_true] at hsingle
        exact written_writeSingle hsingle.1 h
      · exact written_writeDouble text

/-! ## §3 Words -/

/-- A text and the style in which it is written. -/
structure Word where
  text : List Char
  style : Style

namespace Word

def kind (w : Word) : TokenKind := .scalar w.text w.style

/-- A text as it is written on a line. -/
def ofText (text : String) : Word := ⟨text.toList, styleOf text⟩

end Word

/-! ## §4 Starts -/

/-- The text there starts with a token, or has ended. -/
def StartsToken (rest : List Char) : Prop :=
  ∀ c ∈ rest.head?, isBlank c = false ∧ isBreak c = false ∧ c ≠ '#'

/-- A question mark, colon or dash at the start of a plain text has another
character of the text after it. -/
theorem blankAhead_of_mark {c : Char} {cs : List Char} (htext : IsPlainText (c :: cs))
    (hstart : startsWithIndicator (c :: cs) = false) (hc : c = '?' ∨ c = ':' ∨ c = '-')
    (after : List Char) :
    blankAhead (cs ++ after) = false ∧
      ((cs ++ after).head?.map isBlank).getD false = false := by
  simp only [startsWithIndicator, Bool.or_eq_false_iff] at hstart
  have hspaceAhead : spaceAhead cs = false := by
    rcases hc with rfl | rfl | rfl <;> simpa using hstart.1.1.2
  cases cs with
  | nil => exact absurd hspaceAhead (by decide)
  | cons d cs =>
    have hd := (htext.writable d (by simp)).2
    have hblankAhead : isBlank d = false := hspaceAhead
    simp [blankAhead, hblankAhead, hd]

/-- A written text starts a token. -/
theorem Written.startsToken {written cs : List Char} {style : Style}
    (h : Written written cs style) (after : List Char) :
    StartsToken (written ++ after) := by
  cases h with
  | plain text start =>
    obtain ⟨c, rest, rfl, hblank⟩ := text.head
    intro d hd
    obtain rfl : c = d := Option.some.inj hd
    refine ⟨hblank, (text.writable c List.mem_cons_self).2, ?_⟩
    rintro rfl
    exact absurd start (by simp [startsWithIndicator, isIndicator])
  | @quoted single write cs chars =>
    intro d hd
    obtain rfl : closing single = d := Option.some.inj hd
    cases single <;> decide

theorem Written.ne_nil {written cs : List Char} {style : Style} (h : Written written cs style) :
    written ≠ [] := by
  cases h with
  | plain text start =>
    obtain ⟨c, rest, rfl, -⟩ := text.head
    exact List.cons_ne_nil _ _
  | quoted chars => exact List.cons_ne_nil _ _

/-- A written text does not look like the mark of an entry. -/
theorem Written.not_entry {written cs after : List Char} {style : Style}
    (h : Written written cs style) {c : Char} {rest : List Char}
    (hrest : written ++ after = c :: rest) : ¬ (c = '-' ∧ blankAhead rest = true) := by
  rintro ⟨rfl, hahead⟩
  cases h with
  | plain text start =>
    obtain ⟨c, tail, rfl, -⟩ := text.head
    obtain ⟨rfl, rfl⟩ := List.cons.inj hrest
    exact Bool.false_ne_true
      ((blankAhead_of_mark text start (Or.inr (Or.inr rfl)) after).1.symm.trans hahead)
  | @quoted single write cs chars =>
    have hquote : closing single = '-' := (List.cons.inj hrest).1
    cases single <;> exact absurd hquote (by decide)

end ArgTaint.Yaml
