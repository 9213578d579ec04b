/-
ArgTaint.Proofs.Analysis.Silencing — what one directive silences.

A target is silenced by a directive on its own line or on the line above. The
directives are known by file and line only, so a directive behind code and one
that stands alone act in the same way: each silences both its line and the next.
What a directive is the cause of is seen by taking it away: a target of its two
lines appears again, unless the other line that counts for it has a directive
too.

  §1 Directives — the positions that are ignored because of one directive.
  §2 Programs   — the targets that are silenced because of one directive.
-/
import ArgTaint.Proofs.Analysis.Accounting
import ArgTaint.Proofs.Directive

namespace ArgTaint

/-! ## §1 Directives -/

namespace Directives

variable {ds : Directives} {file : String} {line : Int}

/-- Without the directive on a line, only that line is no longer ignored. -/
theorem ignores_without (ds : Directives) (file : String) (line : Int) {file' : String}
    {line' : Int} :
    (ds.without file line).ignores file' line' = true ↔
      (file', line') ≠ (file, line) ∧ ds.ignores file' line' = true := by
  simp only [ignores, get?_without]
  by_cases h : (file', line') = (file, line)
  · simp [h]
  · simp [h]

/-- A directive applies to its line and to the next. -/
theorem isIgnored_of_ignores (h : ds.ignores file line = true) {p : Position}
    (valid : p.isValid = true) (hfile : p.file = file)
    (hline : p.line = line ∨ p.line = line + 1) : ds.isIgnored p = true := by
  subst hfile
  refine (ds.isIgnored_iff p).mpr ⟨valid, ?_⟩
  rcases hline with rfl | hline
  · exact .inl h
  · rw [hline, add_sub_cancel_right]
    exact .inr h

/-- A position is ignored because of a directive when it is on one of its two
lines, and the other line that counts for the position has no directive. -/
theorem isIgnored_because (h : ds.ignores file line = true) (p : Position) :
    ds.isIgnored p = true ∧ (ds.without file line).isIgnored p = false ↔
      p.isValid = true ∧ p.file = file ∧
        (p.line = line ∧ ds.ignores file (line - 1) = false ∨
          p.line = line + 1 ∧ ds.ignores file (line + 1) = false) := by
  rw [← Bool.not_eq_true ((ds.without file line).isIgnored p), isIgnored_iff, isIgnored_iff,
    ignores_without, ignores_without]
  constructor
  · rintro ⟨⟨valid, applies⟩, kept⟩
    have own : ds.ignores p.file p.line = true → (p.file, p.line) = (file, line) := fun ho =>
      not_not.mp fun hne => kept ⟨valid, .inl ⟨hne, ho⟩⟩
    have above : ds.ignores p.file (p.line - 1) = true → (p.file, p.line - 1) = (file, line) :=
      fun ha => not_not.mp fun hne => kept ⟨valid, .inr ⟨hne, ha⟩⟩
    rcases applies with ho | ha
    · obtain ⟨rfl, rfl⟩ := Prod.mk.inj (own ho)
      refine ⟨valid, rfl, .inl ⟨rfl, Bool.eq_false_of_not_eq_true fun ha => ?_⟩⟩
      have := (Prod.mk.inj (above ha)).2
      omega
    · obtain ⟨rfl, hline⟩ := Prod.mk.inj (above ha)
      have next : p.line = line + 1 := by omega
      refine ⟨valid, rfl, .inr ⟨next, Bool.eq_false_of_not_eq_true fun ho => ?_⟩⟩
      have := (Prod.mk.inj (own (next ▸ ho))).2
      omega
  · rintro ⟨valid, rfl, ⟨rfl, free⟩ | ⟨next, free⟩⟩
    · refine ⟨⟨valid, .inl h⟩, ?_⟩
      rintro ⟨-, ⟨hne, -⟩ | ⟨-, ha⟩⟩
      · exact hne rfl
      · exact Bool.false_ne_true (free.symm.trans ha)
    · rw [next, add_sub_cancel_right]
      refine ⟨⟨valid, .inr h⟩, ?_⟩
      rintro ⟨-, ⟨-, ho⟩ | ⟨hne, -⟩⟩
      · exact Bool.false_ne_true (free.symm.trans ho)
      · exact hne rfl

end Directives

/-! ## §2 Programs -/

namespace Ssa.Program

/-- The targets of the functions that are analysed, silenced or not. -/
def candidates (p : Program) (c : Config) (working : String) : List Finding :=
  (p.selected c working).flatMap fun f => (f.analyze c.options).1.findings

section Result

variable {p : Program} {c : Config} {ds : Directives} {working elapsed : String} {workers : Int}
  {d : Finding}

/-- Silenced are the candidates at a place that a directive applies to. -/
theorem mem_silenced_analyze :
    d ∈ (p.analyze c ds working elapsed workers).1.silenced ↔
      d ∈ p.candidates c working ∧ ds.isIgnored d.place = true := by
  rw [analyze_fst, resultOf, List.mem_filter, List.flatMap_map]
  rfl

/-- Reported are the candidates at a place that no directive applies to. -/
theorem mem_findings_analyze :
    d ∈ (p.analyze c ds working elapsed workers).1.findings ↔
      d ∈ p.candidates c working ∧ ds.isIgnored d.place = false := by
  rw [analyze_fst, resultOf, List.mem_filter, List.flatMap_map, Bool.not_eq_true']
  rfl

end Result

/-- **A directive silences its line and the next.** Whatever else stands on its
line, all targets of these two lines are left out. They are so because of this
directive, that is, they are targets again without it, except where the other
line that counts for the target has a directive as well; and no other target is
left out because of it. -/
theorem analyze_silences_two_lines (p : Program) (c : Config) (ds : Directives)
    (working elapsed : String) (workers : Int) (file : String) (line : Int)
    (h : ds.ignores file line = true) :
    let r := (p.analyze c ds working elapsed workers).1
    let r' := (p.analyze c (ds.without file line) working elapsed workers).1
    (∀ d ∈ p.candidates c working, d.place.isValid = true → d.place.file = file →
      d.place.line = line ∨ d.place.line = line + 1 → d ∈ r.silenced ∧ d ∉ r.findings) ∧
    ∀ d, d ∈ r.silenced ∧ d ∈ r'.findings ↔
      d ∈ p.candidates c working ∧ d.place.isValid = true ∧ d.place.file = file ∧
        (d.place.line = line ∧ ds.ignores file (line - 1) = false ∨
          d.place.line = line + 1 ∧ ds.ignores file (line + 1) = false) := by
  intro r r'
  constructor
  · intro d hd valid hfile hline
    have ignored := Directives.isIgnored_of_ignores h valid hfile hline
    refine ⟨mem_silenced_analyze.mpr ⟨hd, ignored⟩, fun kept => ?_⟩
    exact Bool.false_ne_true ((mem_findings_analyze.mp kept).2.symm.trans ignored)
  · intro d
    rw [mem_silenced_analyze, mem_findings_analyze, ← and_and_left,
      Directives.isIgnored_because h]

/-- Two functions on neighbouring lines, the first one with a directive behind
it. -/
def neighbours : Program where
  functions := [comparing "b" 4, comparing "a" 3]
  comments := [⟨.ofString "//symobf:ignore", ⟨"p.go", 3, 40⟩⟩]

theorem selected_neighbours :
    neighbours.selected .standard "/" = [comparing "a" 3, comparing "b" 4] := by
  cbv

/-- The comparison on the line below is silenced because of the directive. -/
theorem analyze_silences_two_lines_neighbours :
    let r := (neighbours.analyze .standard neighbours.directives "/" "0.00" 3).1
    let r' := (neighbours.analyze .standard (neighbours.directives.without "p.go" 3) "/"
      "0.00" 3).1
    let d := (comparing "b" 4).finding Config.standard.options.helper 1
    neighbours.directives.ignores "p.go" 3 = true ∧ d.place = ⟨"p.go", 4, 1⟩ ∧
      d ∈ r.silenced ∧ d ∈ r'.findings := by
  have directive : neighbours.directives.ignores "p.go" 3 = true := by decide
  refine ⟨directive, rfl, ?_⟩
  refine ((neighbours.analyze_silences_two_lines .standard _ "/" "0.00" 3 "p.go" 3
    directive).2 _).mpr ⟨?_, rfl, rfl, .inr ⟨rfl, ?_⟩⟩
  · rw [candidates, selected_neighbours]
    decide
  · decide

/-- A directive behind code does not silence its own line only: the comparison
on the next line, which has no directive, is ignored as well. -/
theorem not_silences_own_line_only :
    ¬ ∀ (p : Program) (c : Config) (ds : Directives) (working file : String) (line : Int),
      ds.ignores file line = true →
      (∃ f ∈ p.selected c working, ∃ n < f.instrs.length,
        (f.instrPosition n).file = file ∧ (f.instrPosition n).line = line) →
      ds.get? file (line + 1) = none →
      ∀ d ∈ p.candidates c working, d.place.file = file → d.place.line = line + 1 →
        ds.isIgnored d.place = false := by
  intro claimed
  have code : ∃ f ∈ neighbours.selected .standard "/", ∃ n < f.instrs.length,
      (f.instrPosition n).file = "p.go" ∧ (f.instrPosition n).line = 3 := by
    rw [selected_neighbours]
    exact ⟨_, List.mem_cons_self, 1, by decide, rfl, rfl⟩
  have below : (comparing "b" 4).finding Config.standard.options.helper 1 ∈
      neighbours.candidates .standard "/" := by
    rw [candidates, selected_neighbours]
    decide
  have kept := claimed neighbours .standard neighbours.directives "/" "p.go" 3 (by decide) code
    (by decide) _ below rfl rfl
  exact absurd kept (by decide)

end Ssa.Program

end ArgTaint
