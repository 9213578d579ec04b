/-
ArgTaint.Proofs.Yaml.Entries — entries of mappings as they are written.

The lines of an entry are a body with the tokens of a tree: of a text or a
number on the line of its key, of an empty collection, of a block on the lines
below. The entries of a mapping and the items of a sequence follow one another
with the indentation of the block in between.

  §1 Inscriptions — texts, names of fields and counters as they are written.
  §2 Entries      — one entry of a mapping.
  §3 Collections  — entries and items one after another.
-/
import ArgTaint.Proofs.Yaml.Blocks
import ArgTaint.Proofs.Yaml.Decode

namespace ArgTaint.Yaml

open Scan

/-! ## §1 Inscriptions -/

namespace Inscription

/-- A text as it is written. -/
def ofText (indent : Nat) (text : String) (h : ∀ c ∈ text.toList, isBreak c = false) :
    Inscription where
  toWord := .ofText text
  written := (writeText indent text).toList
  valid := written_writeText indent h

/-- A counter as it is written. -/
def ofInt64 (n : Int64) : Inscription where
  toWord := .ofInt64 n
  written := (toString n).toList
  valid := written_toString_int64 n

/-- The written form does not end with a line break. -/
theorem isBreak_of_mem_getLast? (w : Inscription) :
    ∀ c ∈ w.written.getLast?, isBreak c = false := by
  obtain ⟨⟨text, style⟩, written, valid⟩ := w
  intro c hc
  cases valid with
  | plain htext hstart => exact (htext.writable c (List.mem_of_mem_getLast? hc)).2
  | @quoted single write cs chars =>
    rw [List.getLast?_concat] at hc
    obtain rfl : closing single = c := Option.some.inj hc
    cases single <;> decide

end Inscription

/-- Is the text the name of a field? Such a name is written plain, in any
column. -/
def isFieldName (name : String) : Bool :=
  decide (styleOf name = .plain) && decide (name.toList.length ≤ keyReach) &&
    name.toList.head?.any Char.isAlpha

/-- A name of a field as it is written. -/
def Inscription.ofName (name : String) (h : isFieldName name = true) : Inscription where
  toWord := .ofText name
  written := name.toList
  valid := by
    simp only [isFieldName, Bool.and_eq_true, decide_eq_true_eq] at h
    have hplain := h.1.1
    simp only [Word.ofText]
    unfold styleOf at hplain ⊢
    split at hplain
    · next hallows =>
      simp only [hallows, if_true]
      rw [Bool.and_eq_true] at hallows
      refine written_plain ?_ hallows.2
      intro hnil
      rw [String.toList_eq_nil_iff.mp hnil] at hallows
      exact absurd hallows.1 (by decide)
    · cases hplain

/-- The name of a field is a short key. -/
theorem isShortKey_ofName {column : Nat} {name : String} (h : isFieldName name = true) :
    IsShortKey column (.ofName name h) := by
  have hname := h
  simp only [isFieldName, Bool.and_eq_true, decide_eq_true_eq] at hname
  refine ⟨hname.1.2, fun _ c hc => ?_⟩
  have halpha : c.isAlpha = true := by
    have hhead : name.toList.head? = some c := hc
    simpa only [hhead, Option.any_some] using hname.2
  refine ⟨?_, ?_, ?_⟩ <;> rintro rfl <;> exact absurd halpha (by decide)

/-- A key of up to 128 bytes is short. -/
theorem isShortKey_ofText {column indent : Nat} {text : String}
    (h : ∀ c ∈ text.toList, isBreak c = false) (hsize : text.utf8ByteSize ≤ 128)
    (hcolumn : column ≠ 0) : IsShortKey column (.ofText indent text h) := by
  refine ⟨?_, fun hzero => absurd hzero hcolumn⟩
  have hlength := (Inscription.ofText indent text h).valid.length_le
  have hbytes : String.utf8Len (Inscription.ofText indent text h).text = text.utf8ByteSize :=
    String.utf8Len_toList text
  rw [hbytes] at hlength
  simp only [keyReach]
  omega

/-! ## §2 Entries -/

/-- The text is that of the entries of a mapping at a column. -/
abbrev IsEntries (room column : Nat) (text : List Char) (fs : List (String × Tree)) : Prop :=
  IsBody room column .blockMappingStart text (Tree.entryKinds (Tree.fields fs))

section Entries

variable {room column : Nat} {name : String} {text text' : List Char}
  {fs fs' : List (String × Tree)}

/-- A field on a line is one entry. -/
theorem isEntries_line (hname : isFieldName name = true) (v : Inscription) :
    IsEntries room column (name.toList ++ ':' :: ' ' :: (v.written ++ ['\n']))
      [(name, .word v.toWord)] :=
  isBody_pair (isShortKey_ofName hname)

theorem isEntries_noItems (name : String) (hname : isFieldName name = true) :
    IsEntries room column (name.toList ++ [':', ' ', '[', ']', '\n']) [(name, .noItems)] :=
  isBody_brackets (.inl ⟨rfl, rfl, rfl, rfl⟩) (isShortKey_ofName hname)

theorem isEntries_noEntries (name : String) (hname : isFieldName name = true) :
    IsEntries room column (name.toList ++ [':', ' ', '\x7b', '\x7d', '\n'])
      [(name, .noEntries)] :=
  isBody_brackets (.inr ⟨rfl, rfl, rfl, rfl⟩) (isShortKey_ofName hname)

/-- A collection on the lines below its key. -/
theorem isEntries_block {column' : Nat} {start : TokenKind} {kinds : List TokenKind} {t : Tree}
    (name : String) (hname : isFieldName name = true) (h : IsBody room column' start text kinds)
    (ht : t.kinds = start :: (kinds ++ [.blockEnd])) (hcolumn : column < column') :
    IsEntries (room + 1) column
      (name.toList ++ ':' :: '\n' :: (List.replicate column' ' ' ++ text)) [(name, t)] := by
  have := h.nested (isShortKey_ofName hname) hcolumn
  rw [← ht] at this
  simp only [IsEntries, Tree.fields, List.map_cons, List.map_nil, Tree.entryKinds,
    List.append_nil]
  exact this

/-- One entry after another. -/
theorem IsEntries.append (h : IsEntries room column text fs)
    (h' : IsEntries room column text' fs') :
    IsEntries room column (text ++ (List.replicate column ' ' ++ text')) (fs ++ fs') := by
  have hkinds : Tree.entryKinds (Tree.fields (fs ++ fs')) =
      Tree.entryKinds (Tree.fields fs) ++ Tree.entryKinds (Tree.fields fs') := by
    simp [Tree.fields, Tree.entryKinds_eq_flatMap]
  rw [IsEntries, hkinds]
  exact IsBody.append h h'

/-! ### What is written -/

/-- A line that ends with a written text is ended by a line feed. -/
theorem endLine_append (w : Inscription) {written : String} (h : written.toList = w.written)
    (before : String) : endLine (before ++ written) = before ++ written ++ "\n" := by
  have hlast : (before ++ written).toList.getLast? = w.written.getLast? := by
    rw [String.toList_append, h, List.getLast?_append_of_ne_nil _ w.valid.ne_nil]
  have hc := List.getLast?_eq_some_getLast w.valid.ne_nil
  have hbreak : ((before ++ written).toList.getLast?.map isBreak).getD false = false := by
    rw [hlast, hc]
    exact w.isBreak_of_mem_getLast? _ hc
  simp only [endLine, hbreak, Bool.false_eq_true, if_false]

theorem toList_writeLine (w : Inscription) {written : String} (h : written.toList = w.written)
    (name : String) :
    (writeLine name written).toList = name.toList ++ ':' :: ' ' :: (w.written ++ ['\n']) := by
  simp [writeLine, endLine_append w h, h]

/-- A text field is one entry, however its text is written. -/
theorem isEntries_text {indent : Nat} {text : String} (name : String)
    (hname : isFieldName name = true) (h : ∀ c ∈ text.toList, isBreak c = false) :
    IsEntries room column (writeLine name (writeText indent text)).toList
      [(name, .word (.ofText text))] := by
  rw [toList_writeLine (.ofText indent text h) rfl]
  exact isEntries_line hname (.ofText indent text h)

def counterLine (name : String) (n : Int64) : List Char :=
  name.toList ++ ':' :: ' ' :: ((toString n).toList ++ ['\n'])

/-- A counter is one entry. -/
theorem isEntries_counter (name : String) (hname : isFieldName name = true) (n : Int64) :
    IsEntries room column (counterLine name n) [(name, .word (.ofInt64 n))] :=
  isEntries_line hname (.ofInt64 n)

theorem toList_spaces (n : Nat) : (spaces n).toList = List.replicate n ' ' := by
  simp [spaces]

/-- A written counter with its name as a key. -/
theorem exists_writeEntry {text : String} (n : Int64) (h : ∀ c ∈ text.toList, isBreak c = false)
    (hcolumn : column ≠ 0) :
    ∃ written, (writeEntry column text (toString n)).toList =
        List.replicate column ' ' ++ written ∧
      IsEntries room column written [(text, .word (.ofInt64 n))] := by
  have hbreak : text.toList.any isBreak = false := by simpa using h
  let k := Inscription.ofText ((column + 4) / 4 * 4) text h
  let v := Inscription.ofInt64 n
  by_cases hsize : text.utf8ByteSize ≤ 128
  · have hk : IsShortKey column k := isShortKey_ofText h hsize hcolumn
    refine ⟨k.written ++ ':' :: ' ' :: (v.written ++ ['\n']), ?_, isBody_pair hk⟩
    simp [writeEntry, hsize, hbreak, toList_spaces, k, v, Inscription.ofText,
      Inscription.ofInt64]
  · refine ⟨'?' :: ' ' :: (k.written ++ '\n' :: (List.replicate column ' ' ++ ':' :: ' ' ::
      (v.written ++ ['\n']))), ?_, isBody_longPair⟩
    have hline := endLine_append k rfl (spaces column ++ "? ")
    simp only [writeEntry, hsize, decide_false, Bool.false_and, Bool.false_eq_true,
      if_false, hline]
    simp [toList_spaces, k, v, Inscription.ofText, Inscription.ofInt64]

end Entries

/-! ## §3 Collections -/

section Collections

variable {α : Type} {room column : Nat} {start : TokenKind} {write : α → List Char}
  {kinds : α → List TokenKind}

/-- Bodies one after another, each with its indentation in front. -/
theorem exists_flatMap {xs : List α} (hne : xs ≠ [])
    (h : ∀ x ∈ xs, ∃ text, write x = List.replicate column ' ' ++ text ∧
      IsBody room column start text (kinds x)) :
    ∃ text, xs.flatMap write = List.replicate column ' ' ++ text ∧
      IsBody room column start text (xs.flatMap kinds) := by
  induction xs with
  | nil => exact absurd rfl hne
  | cons x xs ih =>
    obtain ⟨text, hwrite, htext⟩ := h x List.mem_cons_self
    cases xs with
    | nil => exact ⟨text, by simpa using hwrite, by simpa using htext⟩
    | cons y ys =>
      obtain ⟨more, hmore, hbody⟩ :=
        ih (List.cons_ne_nil y ys) fun z hz => h z (List.mem_cons_of_mem _ hz)
      refine ⟨text ++ (List.replicate column ' ' ++ more), ?_, ?_⟩
      · rw [List.flatMap_cons, hwrite, hmore, List.append_assoc]
      · rw [List.flatMap_cons]
        exact htext.append hbody

end Collections

end ArgTaint.Yaml
