/-
ArgTaint.Proofs.Directive — a directive counts wherever it stands.

The directives of a program are a table by file and line. A later directive
replaces an earlier one on its line, and a position is looked up on its own
line and on the line above. Replacing loses nothing that a lookup asks for: all
directives are of one word, so a line is ignored once some comment on it is a
directive, and what the table says depends on the set of the comments alone.

  §1 Lines     — the table of one more comment, and that of all comments.
  §2 Positions — which positions are ignored, from the comments.
-/
import ArgTaint.Directive
import Mathlib.Data.List.Perm.Basic

namespace ArgTaint

/-! ## §1 Lines -/

/-- Every directive has the word that silences a line. -/
theorem Directive.kind_of_parse? {text : Text} {d : Directive} (h : parse? text = some d) :
    d.kind = ignoreWord := by
  rw [parse?] at h
  split at h
  · cases h
  · split at h
    · cases h
    · split at h
      · cases h
        rfl
      · cases h

/-- The comment is a directive and has its place on the line. -/
@[mk_iff]
structure Comment.SilencesLine (c : Comment) (file : String) (line : Int) : Prop where
  isDirective : (Directive.parse? c.text).isSome = true
  valid : c.position.isValid = true
  file_eq : c.position.file = file
  line_eq : c.position.line = line

namespace Directives

variable {file file' : String} {line line' : Int}

/-- Only the line itself loses its directive. -/
theorem get?_without (ds : Directives) (file : String) (line : Int) :
    (ds.without file line).get? file' line' =
      if (file', line') = (file, line) then none else ds.get? file' line' := by
  induction ds with
  | nil => exact (ite_self _).symm
  | cons e rest ih =>
    by_cases he : e.1 = (file, line)
    · rw [without, List.filter_cons_of_neg (by simpa using he), ← without, ih]
      split
      case isTrue => rfl
      case isFalse h => rw [get?, get?, List.lookup_cons, beq_false_of_ne (he ▸ h)]
    · rw [without, List.filter_cons_of_pos (by simpa using he), ← without, get?, get?,
        List.lookup_cons, List.lookup_cons, ← get?, ← get?, ih]
      split
      case h_1 h =>
        rw [if_neg (eq_of_beq h ▸ he)]
      case h_2 => rfl

/-- Only the line itself gets the directive. -/
theorem get?_insert (ds : Directives) (d : Directive) :
    (ds.insert file line d).get? file' line' =
      if (file', line') = (file, line) then some d else ds.get? file' line' := by
  rw [insert, get?, List.lookup_append, ← get?, get?_without]
  split
  case isTrue h =>
    rw [h, Option.none_or, List.lookup_cons, beq_self_eq_true]
  case isFalse h =>
    rw [List.lookup_cons, beq_false_of_ne h, List.lookup_nil, Option.or_none]

/-- One more comment silences its own line, if it is a directive, and leaves all
other lines as they were. -/
theorem ignores_add (ds : Directives) (c : Comment) :
    (ds.add c).ignores file line = true ↔
      c.SilencesLine file line ∨ ds.ignores file line = true := by
  cases hd : Directive.parse? c.text with
  | none =>
    have silent : ¬ c.SilencesLine file line := fun h => by
      have := h.isDirective
      rw [hd] at this
      cases this
    simp only [add, hd, ite_self, silent, false_or]
  | some d =>
    by_cases hvalid : c.position.isValid = true
    · simp only [add, hd, if_pos hvalid, ignores, get?_insert]
      by_cases hkey : (file, line) = (c.position.file, c.position.line)
      · have here : c.SilencesLine file line :=
          ⟨by rw [hd]; rfl, hvalid, (congrArg Prod.fst hkey).symm,
            (congrArg Prod.snd hkey).symm⟩
        simp only [if_pos hkey, Directive.kind_of_parse? hd, beq_self_eq_true, here, true_or]
      · have elsewhere : ¬ c.SilencesLine file line := fun h =>
          hkey (by rw [h.file_eq, h.line_eq])
        simp only [if_neg hkey, elsewhere, false_or]
    · have placeless : ¬ c.SilencesLine file line := fun h => hvalid h.valid
      simp only [add, if_neg hvalid, placeless, false_or]

/-- A line is ignored when one of the comments silences it, or it was ignored
before. -/
theorem ignores_foldl_add (comments : List Comment) (ds : Directives) :
    (comments.foldl add ds).ignores file line = true ↔
      (∃ c ∈ comments, c.SilencesLine file line) ∨ ds.ignores file line = true := by
  induction comments generalizing ds with
  | nil => simp
  | cons c rest ih =>
    rw [List.foldl_cons, ih, ignores_add, List.exists_mem_cons_iff, or_left_comm, or_assoc]

/-- A line is ignored when a comment on it is a directive. -/
theorem ignores_find (comments : List Comment) :
    (find comments).ignores file line = true ↔ ∃ c ∈ comments, c.SilencesLine file line := by
  rw [find, ignores_foldl_add]
  exact or_iff_left Bool.false_ne_true

/-- A comment that is no directive adds none. -/
theorem add_of_parse?_eq_none {c : Comment} (h : Directive.parse? c.text = none)
    (ds : Directives) : ds.add c = ds := by
  rw [add, h, ite_self]

/-! ## §2 Positions -/

/-- A directive applies on its own line and on the line below. -/
theorem isIgnored_iff (ds : Directives) (p : Position) :
    ds.isIgnored p = true ↔ p.isValid = true ∧
      (ds.ignores p.file p.line = true ∨ ds.ignores p.file (p.line - 1) = true) := by
  rw [isIgnored, Bool.and_eq_true, Bool.or_eq_true]

/-- A position is ignored for a directive on its line or on the line above. -/
theorem isIgnored_find (comments : List Comment) (p : Position) :
    (find comments).isIgnored p = true ↔ p.isValid = true ∧ ∃ c ∈ comments,
      (Directive.parse? c.text).isSome = true ∧ c.position.isValid = true ∧
        c.position.file = p.file ∧
        (c.position.line = p.line ∨ c.position.line = p.line - 1) := by
  rw [isIgnored_iff, ignores_find, ignores_find]
  simp only [Comment.silencesLine_iff, and_or_left, exists_or]

/-- Which positions are ignored depends on the set of the comments alone. -/
theorem isIgnored_find_congr {comments comments' : List Comment}
    (h : ∀ c, c ∈ comments ↔ c ∈ comments') (p : Position) :
    (find comments).isIgnored p = (find comments').isIgnored p := by
  rw [Bool.eq_iff_iff, isIgnored_find, isIgnored_find]
  simp only [h]

end Directives

theorem Comment.exists_mem_ofFiles {files : List SourceFile} {P : Comment → Prop} :
    (∃ c ∈ ofFiles files, P c) ↔ ∃ f ∈ files, ∃ g ∈ f.groups, ∃ c ∈ g, P c := by
  simp only [ofFiles, List.mem_flatMap, List.mem_flatten]
  constructor
  · rintro ⟨c, ⟨f, hf, g, hg, hc⟩, hP⟩
    exact ⟨f, hf, g, hg, c, hc, hP⟩
  · rintro ⟨f, hf, g, hg, c, hc, hP⟩
    exact ⟨c, ⟨f, hf, g, hg, hc⟩, hP⟩

theorem Comment.ofFiles_perm {files files' : List SourceFile} (h : files.Perm files') :
    (ofFiles files).Perm (ofFiles files') := h.flatMap_right _

namespace Directives

/-- **What the directives of files silence.** A position is ignored when it has a
place and some comment of some file is a directive with its place on the same
line or on the line above. Neither the order of the files nor that of their
comments matters, and a comment that is no directive adds nothing and hides
nothing. -/
theorem isIgnored_find_ofFiles (files : List SourceFile) (p : Position) :
    ((find (Comment.ofFiles files)).isIgnored p = true ↔ p.isValid = true ∧
        ∃ f ∈ files, ∃ g ∈ f.groups, ∃ c ∈ g,
          (Directive.parse? c.text).isSome = true ∧ c.position.isValid = true ∧
            c.position.file = p.file ∧
            (c.position.line = p.line ∨ c.position.line = p.line - 1)) ∧
      (∀ files', files.Perm files' →
        (find (Comment.ofFiles files')).isIgnored p =
          (find (Comment.ofFiles files)).isIgnored p) ∧
      (∀ files', (Comment.ofFiles files).Perm (Comment.ofFiles files') →
        (find (Comment.ofFiles files')).isIgnored p =
          (find (Comment.ofFiles files)).isIgnored p) ∧
      ∀ before c after, Comment.ofFiles files = before ++ c :: after →
        Directive.parse? c.text = none →
        find (before ++ after) = find (Comment.ofFiles files) := by
  have reordered : ∀ files', (Comment.ofFiles files).Perm (Comment.ofFiles files') →
      (find (Comment.ofFiles files')).isIgnored p =
        (find (Comment.ofFiles files)).isIgnored p :=
    fun files' h => isIgnored_find_congr (fun c => h.symm.mem_iff) p
  refine ⟨?_, fun files' h => reordered files' (Comment.ofFiles_perm h), reordered, ?_⟩
  · rw [isIgnored_find, Comment.exists_mem_ofFiles]
  · intro before c after hfiles hc
    rw [hfiles, find, find, List.foldl_append, List.foldl_append, List.foldl_cons,
      add_of_parse?_eq_none hc]

/-- Two files, one of which has a directive with a reason, a remark behind it on
the same line, and a directive without a place. -/
def crowded : List SourceFile :=
  [{ groups :=
      [[⟨.ofString "//symobf:ignore checked", ⟨"a.go", 3, 20⟩⟩,
          ⟨.ofString "/* symobf: later */", ⟨"a.go", 3, 44⟩⟩],
        [⟨.ofString "//symobf:ignore", .none⟩]] },
    { groups := [[⟨.ofString "//symobf:ignore", ⟨"b.go", 9, 1⟩⟩]] }]

/-- The line below the directive is ignored, whichever file comes first and
whether the remark is there or not. -/
theorem isIgnored_find_ofFiles_crowded :
    (find (Comment.ofFiles crowded.reverse)).isIgnored ⟨"a.go", 4, 2⟩ = true ∧
      find ((Comment.ofFiles crowded).eraseIdx 1) = find (Comment.ofFiles crowded) ∧
      (find (Comment.ofFiles crowded)).isIgnored ⟨"b.go", 4, 2⟩ = false := by
  obtain ⟨ignored, reordered, -, remark⟩ := isIgnored_find_ofFiles crowded ⟨"a.go", 4, 2⟩
  refine ⟨?_, ?_, ?_⟩
  · rw [reordered _ (List.reverse_perm _).symm, ignored]
    refine ⟨rfl, _, List.mem_cons_self, _, List.mem_cons_self, _, List.mem_cons_self, ?_⟩
    exact ⟨by decide, rfl, rfl, .inr rfl⟩
  · exact remark [⟨.ofString "//symobf:ignore checked", ⟨"a.go", 3, 20⟩⟩]
      ⟨.ofString "/* symobf: later */", ⟨"a.go", 3, 44⟩⟩ _ rfl (by decide)
  · rw [Bool.eq_false_iff, ne_eq, (isIgnored_find_ofFiles crowded ⟨"b.go", 4, 2⟩).1]
    rintro ⟨-, f, hf, g, hg, c, hc, -, -, file, line⟩
    revert line file c g f
    decide

end Directives

end ArgTaint
