/-
ArgTaint.Proofs.Command.Vet — the checker and the analysis find the same.

The checker goes through the functions of a package as they come, and reports
at the positions of instructions; the analysis selects functions of a whole
program, sorts them, hands them to workers, and keeps the place of each target.
Where both look at the same functions with a body, and at the same comments,
what they report is the same, in some order.

  §1 Functions — the diagnostics of one function are its targets.
  §2 Packages  — functions without a body count for nothing.
  §3 Reports   — the diagnostics of a package against the targets of a program.
-/
import ArgTaint.Command.Vet
import ArgTaint.Proofs.Analysis.Accounting

namespace ArgTaint

/-! ## §1 Functions -/

/-- What is reported about a target: its place and its wording. -/
def Finding.diagnostic (d : Finding) : Command.Vet.Diagnostic := ⟨d.place, d.target.message⟩

/-- The place of a target is the position of its instruction. -/
theorem Ssa.Function.place_of_mem_findings {f : Ssa.Function} {o : Options} {d : Finding}
    (h : d ∈ (f.analyze o).1.findings) : f.instrPosition d.instr = d.place := by
  obtain ⟨i, -, rfl⟩ := List.mem_map.mp h
  rfl

namespace Command.Vet

/-- The targets of a function that no directive silences. -/
def kept (o : Options) (directives : Directives) (f : Ssa.Function) : List Finding :=
  (f.analyze o).1.findings.filter fun d => !directives.isIgnored d.place

/-- The diagnostics of a function with a body are its targets that are not
silenced. -/
theorem ofFunction_of_body {f : Ssa.Function} (h : f.isExternal = false) (o : Options)
    (directives : Directives) :
    ofFunction o directives f = (kept o directives f).map Finding.diagnostic := by
  simp only [ofFunction, h, Bool.false_eq_true, if_false, kept]
  refine List.map_congr_left fun d hd => ?_
  rw [Ssa.Function.place_of_mem_findings (List.mem_of_mem_filter hd)]
  rfl

/-! ## §2 Packages -/

def withBody (fs : List Ssa.Function) : List Ssa.Function := fs.filter fun f => !f.isExternal

/-- Functions without a body have no diagnostics. -/
theorem flatMap_ofFunction (o : Options) (directives : Directives) (fs : List Ssa.Function) :
    fs.flatMap (ofFunction o directives) =
      ((withBody fs).flatMap (kept o directives)).map Finding.diagnostic := by
  induction fs with
  | nil => rfl
  | cons f fs ih =>
    rw [List.flatMap_cons, ih]
    cases hf : f.isExternal with
    | true =>
      have skipped : withBody (f :: fs) = withBody fs := List.filter_cons_of_neg (by simp [hf])
      have none : ofFunction o directives f = [] := by simp only [ofFunction, hf, if_true]
      rw [skipped, none, List.nil_append]
    | false =>
      have listed : withBody (f :: fs) = f :: withBody fs :=
        List.filter_cons_of_pos (by simp [hf])
      rw [listed, ofFunction_of_body hf, List.flatMap_cons, List.map_append]

/-- When the names of kinds can be read, a check gives the diagnostics for
them. -/
theorem check_eq {p : Ssa.Program} {s : Settings} {kinds : List Kind}
    (h : TargetKinds.parse (Text.ofString s.targetKinds) = .ok kinds) :
    check p s = .ok (diagnostics p ⟨kinds, Text.ofString s.helper, s.seedFreeVars⟩) := by
  simp only [check, h]

/-! ## §3 Reports -/

/-- **The checker and the analysis agree.** When the functions of a package
that have a body are the functions of a program that the analysis selects, the
diagnostics of the package are the targets of the program, each at its place
and with its wording, up to their order. This holds for any target kinds,
helper and choice of seeds, which the settings of the checker give as texts,
and for any comments. -/
theorem diagnostics_perm_findings (package program : Ssa.Program) (c : Config)
    (working elapsed : String) (workers : Int)
    (same : (withBody package.functions).Perm (program.selected c working)) :
    let found := (program.analyze c package.directives working elapsed workers).1.findings
    (diagnostics package c.options).Perm (found.map Finding.diagnostic) ∧
    ∀ s : Settings, TargetKinds.parse (Text.ofString s.targetKinds) = .ok c.targetKinds →
      Text.ofString s.helper = c.helper → s.seedFreeVars = c.seedFreeVars →
      ∃ ds, check package s = .ok ds ∧ ds.Perm (found.map Finding.diagnostic) := by
  intro found
  have targets :
      found = (program.selected c working).flatMap (kept c.options package.directives) := by
    simp only [found, Ssa.Program.analyze_fst, Ssa.Program.resultOf, List.flatMap_map,
      List.filter_flatMap]
    rfl
  have agree : (diagnostics package c.options).Perm (found.map Finding.diagnostic) := by
    rw [diagnostics, flatMap_ofFunction, targets]
    exact (same.flatMap_right _).map _
  refine ⟨agree, fun s kinds helper seeds => ⟨_, check_eq kinds, ?_⟩⟩
  rw [helper, seeds]
  exact agree

open Ssa.Program in
/-- A package with a function without a body, a comparison and a comparison
below a directive. -/
def checked : Ssa.Program where
  functions := [comparing "b" 7, { fullName := "asm", name := "asm" }, comparing "a" 3]
  comments := [⟨Text.ofString "//symobf:ignore", ⟨"p.go", 2, 1⟩⟩]

open Ssa.Program in
/-- The same functions in a program, beside a synthetic one. -/
def analysed : Ssa.Program where
  functions :=
    [{ comparing "c" 5 with synthetic := "wrapper" }, comparing "a" 3, comparing "b" 7]

/-- One of the two comparisons is reported, by both. -/
theorem diagnostics_perm_findings_checked :
    (withBody checked.functions).Perm (analysed.selected {} "/") ∧
      ∃ ds, check checked {} = .ok ds ∧ ds.length = 1 ∧
        ds.Perm (((analysed.analyze {} checked.directives "/" "0.00" 2).1.findings).map
          Finding.diagnostic) := by
  have selected : analysed.selected {} "/" =
      [Ssa.Program.comparing "a" 3, Ssa.Program.comparing "b" 7] := by cbv
  have same : (withBody checked.functions).Perm (analysed.selected {} "/") := by
    rw [selected]
    exact List.Perm.swap _ _ _
  have kinds : TargetKinds.parse (Text.ofString "compare") = .ok [.compare] := by decide
  obtain ⟨ds, hds, perm⟩ :=
    (diagnostics_perm_findings checked analysed {} "/" "0.00" 2 same).2 {} kinds rfl rfl
  refine ⟨same, ds, hds, ?_, perm⟩
  rw [check_eq kinds] at hds
  cases hds
  decide

end Command.Vet

end ArgTaint
