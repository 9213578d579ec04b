/-
ArgTaint.Proofs.Directive.Grammar — which comments are directives.

Directives are documented in one form: `//symobf:ignore`, alone or followed by
white space and a reason. Every comment of that form is a directive. More
comments are: the marker may stand anywhere in a comment, and white space may
stand between the marker and the word.

  §1 Layouts    — how a directive is laid out, and the documented form.
  §2 Directives — `parse?` accepts the comments with a layout.
-/
import ArgTaint.Directive
import ArgTaint.Proofs.Text.Space

namespace ArgTaint.Directive

open Text (IsBlank EndsField)

variable {text before blanks reason : Text} {d : Directive}

/-! ## §1 Layouts -/

/-- The documented form of a directive. -/
def IsDocumented (text : Text) : Prop :=
  ∃ reason, text = Text.ofString "//symobf:ignore" ++ reason ∧ EndsField reason

/-- A comment that asks to ignore a line: some text, the first marker of the
comment, white space, the word, and a reason apart from the word. -/
structure Layout (text before blanks reason : Text) : Prop where
  text_eq : text = before ++ marker ++ (blanks ++ (Text.ofString ignoreWord ++ reason))
  first : ¬ marker <:+: before
  blank : IsBlank blanks
  ends : EndsField reason

/-- The first marker of a text divides it. -/
theorem cut?_marker_eq_some_iff {after : Text} :
    Text.cut? marker text = some (before, after) ↔
      text = before ++ marker ++ after ∧ ¬ marker <:+: before :=
  Text.cut?_eq_some_iff (by decide : Symbol.char 's' ∉ marker.tail)

theorem ignoreWord_visible : ∀ s ∈ Text.ofString ignoreWord, s.isSpace = false := by decide

/-- The documented form is the layout with nothing but the slashes before the
marker and nothing between the marker and the word. -/
theorem isDocumented_iff_layout :
    IsDocumented text ↔ ∃ reason, Layout text (Text.ofString "//") [] reason := by
  constructor
  · rintro ⟨reason, rfl, hends⟩
    exact ⟨reason, rfl, by decide, fun s hs => absurd hs List.not_mem_nil, hends⟩
  · rintro ⟨reason, h⟩
    exact ⟨reason, h.text_eq, h.ends⟩

/-- White space before the word is what stands before its first letter. -/
theorem eq_of_blanks_append {blanks' reason' : Text} (hblanks : IsBlank blanks)
    (hblanks' : IsBlank blanks')
    (h : blanks ++ (Text.ofString ignoreWord ++ reason) =
      blanks' ++ (Text.ofString ignoreWord ++ reason')) : blanks = blanks' := by
  have leading : ∀ {blanks reason : Text}, IsBlank blanks →
      (blanks ++ (Text.ofString ignoreWord ++ reason)).takeWhile Symbol.isSpace = blanks := by
    intro blanks reason hblanks
    rw [List.takeWhile_append_of_pos hblanks]
    exact List.append_nil blanks
  rw [← leading hblanks, h, leading hblanks']

/-- A comment has one layout at most. -/
theorem Layout.unique {before' blanks' reason' : Text} (h : Layout text before blanks reason)
    (h' : Layout text before' blanks' reason') : before = before' ∧ blanks = blanks' := by
  have cut := cut?_marker_eq_some_iff.mpr ⟨h.text_eq, h.first⟩
  rw [cut?_marker_eq_some_iff.mpr ⟨h'.text_eq, h'.first⟩] at cut
  obtain ⟨hbefore, hafter⟩ := Prod.mk.inj (Option.some.inj cut)
  exact ⟨hbefore.symm, eq_of_blanks_append h.blank h'.blank hafter.symm⟩

/-! ## §2 Directives -/

/-- A directive is the ignore word as the first field after the first marker. -/
theorem parse?_eq_some_iff :
    parse? text = some d ↔ d = ⟨ignoreWord, some text⟩ ∧ ∃ before after,
      Text.cut? marker text = some (before, after) ∧
        (Text.fields after).head? = some (Text.ofString ignoreWord) := by
  unfold parse?
  constructor
  · intro h
    split at h
    · cases h
    · next before after hcut =>
      split at h
      · cases h
      · next word words hfields =>
        split at h
        · next hword =>
          cases h
          exact ⟨rfl, before, after, hcut, by rw [hfields, hword]; rfl⟩
        · cases h
  · rintro ⟨rfl, before, after, hcut, hfields⟩
    obtain ⟨words, hwords⟩ := List.head?_eq_some_iff.mp hfields
    simp only [hcut, hwords, if_true]

/-- A text has the layout of a directive when the word is the first field after
its first marker. -/
theorem exists_layout_iff :
    (∃ before blanks reason, Layout text before blanks reason) ↔ ∃ before after,
      Text.cut? marker text = some (before, after) ∧
        (Text.fields after).head? = some (Text.ofString ignoreWord) := by
  simp only [cut?_marker_eq_some_iff, Text.head?_fields_eq_some_iff]
  constructor
  · rintro ⟨before, blanks, reason, h⟩
    exact ⟨before, _, ⟨h.text_eq, h.first⟩, blanks, reason, rfl, h.blank, by decide,
      ignoreWord_visible, h.ends⟩
  · rintro ⟨before, after, ⟨htext, hfirst⟩, blanks, reason, rfl, hblank, -, -, hends⟩
    exact ⟨before, blanks, reason, htext, hfirst, hblank, hends⟩

/-- **Which comments are directives.** A comment is one when the first marker in
it, wherever that stands, is followed by the word, with or without white space
between them, and the word by nothing or by white space. All comments of the
documented form are directives; the others are those with something else than
the slashes before the marker, or with white space between marker and word. -/
theorem parse?_eq_some_iff_layout (text : Text) :
    (∀ d, parse? text = some d ↔ d = ⟨ignoreWord, some text⟩ ∧
      ∃ before blanks reason, Layout text before blanks reason) ∧
    (IsDocumented text → parse? text = some ⟨ignoreWord, some text⟩) ∧
    ∀ before blanks reason, Layout text before blanks reason →
      (IsDocumented text ↔ before = Text.ofString "//" ∧ blanks = []) := by
  have accepts : ∀ d, parse? text = some d ↔ d = ⟨ignoreWord, some text⟩ ∧
      ∃ before blanks reason, Layout text before blanks reason := fun d => by
    rw [parse?_eq_some_iff, exists_layout_iff]
  refine ⟨accepts, fun h => ?_, fun before blanks reason h => ?_⟩
  · obtain ⟨reason, hlayout⟩ := isDocumented_iff_layout.mp h
    exact (accepts _).mpr ⟨rfl, _, _, reason, hlayout⟩
  · rw [isDocumented_iff_layout]
    constructor
    · rintro ⟨reason', h'⟩
      exact h.unique h'
    · rintro ⟨rfl, rfl⟩
      exact ⟨reason, h⟩

/-- A block comment with a line break before the word and a second marker
behind it. -/
def blockComment : Text := .ofString "/* symobf:\n ignore symobf: */"

/-- The block comment is a directive, and is not in the documented form. -/
theorem parse?_eq_some_iff_layout_block :
    Layout blockComment (.ofString "/* ") (.ofString "\n ") (.ofString " symobf: */") ∧
      parse? blockComment = some ⟨"ignore", some blockComment⟩ ∧
      ¬ IsDocumented blockComment := by
  have layout :
      Layout blockComment (.ofString "/* ") (.ofString "\n ") (.ofString " symobf: */") :=
    ⟨by decide, by decide, by decide, by decide⟩
  obtain ⟨accepts, -, documented⟩ := parse?_eq_some_iff_layout blockComment
  refine ⟨layout, (accepts _).mpr ⟨rfl, _, _, _, layout⟩, fun h => ?_⟩
  have hbefore := ((documented _ _ _ layout).mp h).1
  revert hbefore
  decide

/-- A comment that mentions the marker in prose is a directive, and is not in the
documented form. -/
theorem not_isDocumented_of_parse? :
    ¬ ∀ text, (parse? text).isSome = true ↔ IsDocumented text := by
  intro h
  have accepted : (parse? (.ofString "// see symobf: ignore lists")).isSome = true := by decide
  obtain ⟨reason, hreason, -⟩ := (h _).mp accepted
  have start :
      Text.ofString "//symobf:ignore" <+: Text.ofString "// see symobf: ignore lists" :=
    ⟨reason, hreason.symm⟩
  revert start
  decide

end ArgTaint.Directive
