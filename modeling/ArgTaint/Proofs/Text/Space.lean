/-
ArgTaint.Proofs.Text.Space — what cutting, splitting and trimming leave.

Each function on white space and separators is described by how the text is put
together from the parts: the text before and after a word, white space and the
first field, pieces with separators between them, white space around the rest.
Fields and pieces are those of the splitting of lists.

  §1 Cutting  — `cut?` finds the first occurrence of a word.
  §2 Fields   — the first field of a text.
  §3 Pieces   — the pieces between the occurrences of a character.
  §4 Trimming — `trim` and the white space at the two ends.
-/
import ArgTaint.Text.Space
import Mathlib.Data.List.DropRight

namespace ArgTaint.Text

variable {t word before after blanks rest : Text}

/-- All the symbols are white space. -/
def IsBlank (t : Text) : Prop := ∀ s ∈ t, s.isSpace = true

instance : DecidablePred IsBlank := fun t =>
  inferInstanceAs (Decidable (∀ s ∈ t, s.isSpace = true))

/-! ## §1 Cutting -/

/-- What is cut is the text, and the word is not in the part before. -/
theorem eq_append_of_cut? (hword : word ≠ []) :
    ∀ {t before : Text}, cut? word t = some (before, after) →
      t = before ++ word ++ after ∧ ¬ word <:+: before := by
  intro t
  induction t with
  | nil =>
    intro before h
    rw [cut?, if_neg (by simpa using hword)] at h
    cases h
  | cons s t ih =>
    intro before h
    rw [cut?] at h
    split at h
    case isTrue hstart =>
      cases h
      refine ⟨(List.prefix_iff_eq_append.mp (List.isPrefixOf_iff_prefix.mp hstart)).symm, ?_⟩
      exact fun hinfix => hword (List.infix_nil.mp hinfix)
    case isFalse hstart =>
      obtain ⟨⟨before', after'⟩, hcut, hpair⟩ := Option.map_eq_some_iff.mp h
      cases hpair
      obtain ⟨rfl, hbefore⟩ := ih hcut
      refine ⟨rfl, fun hinfix => ?_⟩
      rcases List.infix_cons_iff.mp hinfix with hbegins | hinfix
      · refine hstart (List.isPrefixOf_iff_prefix.mpr (hbegins.trans ?_))
        exact ⟨word ++ after, by simp⟩
      · exact hbefore hinfix

/-- A word whose first symbol does not come back in it cannot overlap with
itself, so an occurrence is the first one when the word is not before it. -/
theorem cut?_append {s : Symbol} {word : Text} (hs : s ∉ word) :
    ∀ {before : Text}, ¬ s :: word <:+: before →
      cut? (s :: word) (before ++ s :: word ++ after) = some (before, after) := by
  intro before
  induction before with
  | nil =>
    intro _
    rw [List.nil_append, List.cons_append, cut?, ← List.cons_append,
      if_pos (List.isPrefixOf_iff_prefix.mpr (List.prefix_append _ _)), List.drop_left]
  | cons x before ih =>
    intro hinfix
    have hstart : ¬ s :: word <+: x :: before ++ s :: word ++ after := by
      rintro ⟨more, hmore⟩
      rw [List.append_assoc, List.append_eq_append_iff] at hmore
      obtain ⟨gap, hgap, -⟩ | ⟨overlap, hword, hrest⟩ := hmore
      · exact hinfix ⟨[], gap, hgap.symm⟩
      · cases overlap with
        | nil => exact hinfix ⟨[], [], by simp [hword]⟩
        | cons y overlap =>
          obtain rfl : s = y := (List.cons.inj hrest).1
          have : word = before ++ s :: overlap := (List.cons.inj hword).2
          exact hs (this ▸ by simp)
    have hbefore : ¬ s :: word <:+: before := fun h =>
      hinfix (List.infix_cons_iff.mpr (.inr h))
    rw [List.cons_append, List.cons_append] at hstart ⊢
    rw [cut?, if_neg (fun h => hstart (List.isPrefixOf_iff_prefix.mp h)), ih hbefore]
    rfl

/-- The first occurrence of a word divides a text. -/
theorem cut?_eq_some_iff {s : Symbol} {word : Text} (hs : s ∉ word) :
    cut? (s :: word) t = some (before, after) ↔
      t = before ++ s :: word ++ after ∧ ¬ s :: word <:+: before := by
  constructor
  · exact eq_append_of_cut? (List.cons_ne_nil s word)
  · rintro ⟨rfl, hbefore⟩
    exact cut?_append hs hbefore

/-! ## §2 Fields -/

/-- Fields are the pieces between white space that are not empty. -/
theorem fieldsFrom_eq_filter (t : Text) : ∀ field : Text,
    fieldsFrom field t = (t.splitOnPPrepend Symbol.isSpace field).filter (!·.isEmpty) := by
  induction t with
  | nil =>
    intro field
    cases field with
    | nil => rfl
    | cons s field => simp [fieldsFrom]
  | cons s t ih =>
    intro field
    rw [fieldsFrom, List.splitOnPPrepend_cons_eq_if]
    split
    · rw [ih, List.splitOnPPrepend_nil_right]
      cases field with
      | nil => rfl
      | cons r field => simp
    · exact ih (s :: field)

/-- The fields are the pieces between white space that are not empty. -/
theorem fields_eq_filter (t : Text) :
    fields t = (t.splitOnP Symbol.isSpace).filter (!·.isEmpty) := by
  rw [fields, fieldsFrom_eq_filter, List.splitOnPPrepend_nil_right]

/-- White space in front of a text does not change its fields. -/
theorem fields_of_isBlank_append (h : IsBlank blanks) (t : Text) :
    fields (blanks ++ t) = fields t := by
  induction blanks with
  | nil => rfl
  | cons s blanks ih =>
    obtain ⟨hs, hblanks⟩ := List.forall_mem_cons.mp h
    rw [← ih hblanks, fields_eq_filter, List.cons_append,
      List.splitOnP_cons_eq_if_modifyHead, if_pos hs, fields_eq_filter]
    rfl

/-- A field before the text ends there: white space follows it, or nothing. -/
def EndsField (rest : Text) : Prop := ∀ s ∈ rest.head?, s.isSpace = true

instance : DecidablePred EndsField := fun rest =>
  inferInstanceAs (Decidable (∀ s ∈ rest.head?, s.isSpace = true))

/-- A word that white space follows is the first field. -/
theorem head?_fields_append (hne : word ≠ []) (hword : ∀ s ∈ word, s.isSpace = false)
    (hrest : EndsField rest) : (fields (word ++ rest)).head? = some word := by
  cases rest with
  | nil => simp [fields_eq_filter, List.splitOnP_eq_singleton hword, hne]
  | cons s rest =>
    have hs : s.isSpace = true := hrest s rfl
    rw [fields_eq_filter, List.splitOnP_append_cons_of_forall_mem hword s hs,
      List.filter_cons_of_pos (by simpa using hne), List.head?_cons]

/-- A text is white space only, or has a first field. -/
theorem isBlank_or_exists_field (t : Text) :
    IsBlank t ∨ ∃ blanks word rest, t = blanks ++ (word ++ rest) ∧ IsBlank blanks ∧
      word ≠ [] ∧ (∀ s ∈ word, s.isSpace = false) ∧ EndsField rest := by
  let rest := t.dropWhile Symbol.isSpace
  have split : t = t.takeWhile Symbol.isSpace ++ rest := List.takeWhile_append_dropWhile.symm
  have blank : IsBlank (t.takeWhile Symbol.isSpace) := fun s hs => List.mem_takeWhile_imp hs
  cases hrest : rest with
  | nil =>
    left
    rw [split, hrest, List.append_nil]
    exact blank
  | cons s more =>
    right
    let visible := fun s : Symbol => !s.isSpace
    have hs : visible s = true := by
      have := List.head?_dropWhile_not Symbol.isSpace t
      rw [show t.dropWhile Symbol.isSpace = s :: more from hrest] at this
      simpa [visible] using this
    refine ⟨_, rest.takeWhile visible, rest.dropWhile visible, ?_, blank, ?_, ?_, ?_⟩
    · rw [List.takeWhile_append_dropWhile]
      exact split
    · rw [hrest, List.takeWhile_cons, if_pos hs]
      exact List.cons_ne_nil _ _
    · intro r hr
      simpa [visible] using List.mem_takeWhile_imp hr
    · intro r hr
      have := List.head?_dropWhile_not visible rest
      rw [Option.mem_def.mp hr] at this
      simpa [visible] using this

/-- The first field stands after white space and before white space or the
end. -/
theorem head?_fields_eq_some_iff :
    (fields t).head? = some word ↔ ∃ blanks rest, t = blanks ++ (word ++ rest) ∧
      IsBlank blanks ∧ word ≠ [] ∧ (∀ s ∈ word, s.isSpace = false) ∧ EndsField rest := by
  constructor
  · intro h
    obtain hblank | ⟨blanks, first, rest, rfl, hblanks, hne, hfirst, hrest⟩ :=
      isBlank_or_exists_field t
    · have := fields_of_isBlank_append hblank []
      rw [List.append_nil] at this
      rw [this] at h
      cases h
    · rw [fields_of_isBlank_append hblanks, head?_fields_append hne hfirst hrest] at h
      cases h
      exact ⟨blanks, rest, rfl, hblanks, hne, hfirst, hrest⟩
  · rintro ⟨blanks, rest, rfl, hblanks, hne, hword, hrest⟩
    rw [fields_of_isBlank_append hblanks, head?_fields_append hne hword hrest]

/-! ## §3 Pieces -/

theorem splitOn_eq (sep : Char) (t : Text) : splitOn sep t = List.splitOn (.char sep) t := by
  induction t with
  | nil => rfl
  | cons s t ih =>
    rw [splitOn, List.splitOn_cons_eq_if_modifyHead, ← ih]
    by_cases hs : s = .char sep
    · rw [if_pos hs, if_pos (beq_iff_eq.mpr hs)]
    · rw [if_neg hs, if_neg (fun h => hs (beq_iff_eq.mp h))]
      cases hsplit : splitOn sep t with
      | nil => exact absurd (ih ▸ hsplit) (List.splitOn_ne_nil _ _)
      | cons piece pieces => rfl

/-- No piece of a list has the separator in it. -/
theorem not_mem_of_mem_splitOn {α : Type} [DecidableEq α] {sep : α} {l : List α} :
    ∀ piece ∈ List.splitOn sep l, sep ∉ piece := by
  induction l with
  | nil => simp
  | cons x l ih =>
    rw [List.splitOn_cons_eq_if_modifyHead]
    split
    case isTrue => exact List.forall_mem_cons.mpr ⟨List.not_mem_nil, ih⟩
    case isFalse hx =>
      cases hsplit : List.splitOn sep l with
      | nil => exact absurd hsplit (List.splitOn_ne_nil _ _)
      | cons piece pieces =>
        obtain ⟨hpiece, hpieces⟩ := List.forall_mem_cons.mp (hsplit ▸ ih)
        refine List.forall_mem_cons.mpr ⟨fun h => ?_, hpieces⟩
        rcases List.mem_cons.mp h with heq | hmem
        · exact hx (beq_iff_eq.mpr heq.symm)
        · exact hpiece hmem

/-- The pieces of a text are the texts without a separator that make it up with
separators between them. -/
theorem splitOn_eq_iff {sep : Char} {pieces : List Text} :
    splitOn sep t = pieces ↔ pieces ≠ [] ∧ t = [.char sep].intercalate pieces ∧
      ∀ piece ∈ pieces, .char sep ∉ piece := by
  rw [splitOn_eq]
  constructor
  · rintro rfl
    refine ⟨List.splitOn_ne_nil _ _, ?_, not_mem_of_mem_splitOn⟩
    rw [List.intercalate_splitOn]
  · rintro ⟨hne, rfl, hpieces⟩
    exact List.splitOn_intercalate _ hpieces hne

/-! ## §4 Trimming -/

/-- The text is the other one with white space around it; that one has no white
space at its ends. -/
structure Trims (t core : Text) : Prop where
  around : ∃ left right, t = left ++ (core ++ right) ∧ IsBlank left ∧ IsBlank right
  first : ∀ s ∈ core.head?, s.isSpace = false
  last : ∀ s ∈ core.getLast?, s.isSpace = false

theorem dropWhile_append_eq_right {p : Symbol → Bool} {left core : Text}
    (hleft : ∀ s ∈ left, p s = true) (hcore : ∀ s ∈ core.head?, p s = false) :
    (left ++ core).dropWhile p = core := by
  rw [List.dropWhile_append_of_pos hleft]
  cases core with
  | nil => rfl
  | cons s core => rw [List.dropWhile_cons, hcore s rfl, if_neg Bool.false_ne_true]

/-- What has no white space at its ends is what trimming leaves. -/
theorem trim_eq_of_trims {core : Text} (h : Trims t core) : trim t = core := by
  obtain ⟨⟨left, right, rfl, hleft, hright⟩, first, last⟩ := h
  have hreverse : IsBlank right.reverse := fun s hs => hright s (List.mem_reverse.mp hs)
  have right_end : trimRight (core ++ right) = core := by
    rw [trimRight, List.reverse_append,
      dropWhile_append_eq_right hreverse (by simpa using last), List.reverse_reverse]
  cases core with
  | nil =>
    rw [trim, trimLeft, List.dropWhile_append_of_pos hleft, List.nil_append,
      List.dropWhile_eq_nil_iff.mpr hright]
    rfl
  | cons s core =>
    have left_end : trimLeft (left ++ (s :: core ++ right)) = s :: core ++ right :=
      dropWhile_append_eq_right hleft first
    rw [trim, left_end, right_end]

/-- Trimming takes away white space at the ends, and nothing else. -/
theorem trims_trim (t : Text) : Trims t (trim t) := by
  let middle := t.dropWhile Symbol.isSpace
  have trimmed : trim t = middle.rdropWhile Symbol.isSpace := rfl
  have split : middle.rdropWhile Symbol.isSpace ++ middle.rtakeWhile Symbol.isSpace = middle :=
    List.rdropWhile_append_rtakeWhile
  rw [trimmed]
  refine ⟨⟨t.takeWhile Symbol.isSpace, middle.rtakeWhile Symbol.isSpace, ?_, ?_, ?_⟩, ?_, ?_⟩
  · rw [split, List.takeWhile_append_dropWhile]
  · exact fun s hs => List.mem_takeWhile_imp hs
  · exact fun s hs => List.mem_rtakeWhile_imp hs
  · intro s hs
    have hmiddle : middle.head? = some s := by
      rw [← split, List.head?_append, Option.mem_def.mp hs, Option.some_or]
    have := List.head?_dropWhile_not Symbol.isSpace t
    rw [hmiddle] at this
    simpa using this
  · intro s hs
    obtain ⟨hne, hlast⟩ := List.mem_getLast?_eq_getLast hs
    simpa [hlast] using List.rdropWhile_last_not Symbol.isSpace middle hne

/-- Trimming takes away the white space at the two ends, all of it and nothing
else. -/
theorem trim_eq_iff {core : Text} : trim t = core ↔ Trims t core :=
  ⟨fun h => h ▸ trims_trim t, trim_eq_of_trims⟩

end ArgTaint.Text
