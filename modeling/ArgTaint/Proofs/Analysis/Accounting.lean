/-
ArgTaint.Proofs.Analysis.Accounting — the numbers of a result agree.

The counts of a result come from different places: the statistics of each
function from its store, the totals from adding these up, the ignored targets
from the directives, and the number of targets from the list that is left. The
kinds are counted by name, so the counts by name are counts by kind because
kinds have distinct names.

  §1 Functions — the targets and statistics of one function, from the kinds
                 of its marked instructions.
  §2 Totals    — what the sum of statistics counts.
  §3 Programs  — the result for a whole program.
-/
import ArgTaint.Analysis.Program
import ArgTaint.Proofs.Kind
import ArgTaint.Proofs.Parallel
import ArgTaint.Proofs.Tally

namespace ArgTaint

/-! ## §1 Functions -/

namespace FunctionResult

/-- The kinds of the marked instructions, in the order of the marks. -/
def kinds (r : FunctionResult) : List Kind := r.store.instrs.map r.function.view.kind

/-- Everything in the result is determined by its store. -/
def IsFrom (r : FunctionResult) (o : Options) : Prop := r = r.function.resultOf o r.store

theorem length_kinds (r : FunctionResult) : r.kinds.length = r.store.instrs.length :=
  List.length_map _

variable {r : FunctionResult} {o : Options}

/-- The analysis of a function takes its results from its store alone. -/
theorem isFrom_analyze (f : Ssa.Function) (o : Options) : (f.analyze o).1.IsFrom o := rfl

theorem IsFrom.stats_eq (h : r.IsFrom o) :
    r.stats = r.function.tally r.store r.findings.length r.cycles.length := by
  rw [h]
  rfl

/-- The targets are the marked instructions of target kinds. -/
theorem IsFrom.length_findings (h : r.IsFrom o) :
    r.findings.length = r.kinds.countP (o.targetKinds.contains ·) := by
  rw [h, kinds, List.countP_map, List.countP_eq_length_filter]
  exact List.length_map _

end FunctionResult

/-! ## §2 Totals -/

namespace Stats

/-- The statistics count what there is in the results; the number of targets
is left open. -/
structure Totals (s : Stats) (rs : List FunctionResult) : Prop where
  functions : s.functions = .ofNat rs.length
  taintedValues : s.taintedValues = .ofNat (rs.map (·.store.values.length)).sum
  taintedInstructions : s.taintedInstructions = .ofNat (rs.map (·.store.instrs.length)).sum
  cycles : s.cycles = .ofNat (rs.map (·.cycles.length)).sum
  kinds : s.kinds.Counts ((rs.flatMap FunctionResult.kinds).map Kind.name)

variable {s : Stats} {rs : List FunctionResult} {r : FunctionResult} {o : Options}

theorem totals_nil : Totals {} [] := ⟨rfl, rfl, rfl, rfl, Tally.counts_nil⟩

theorem ofNat_sum_concat (size : FunctionResult → Nat) (rs : List FunctionResult)
    (r : FunctionResult) :
    Int64.ofNat ((rs ++ [r]).map size).sum = .ofNat (rs.map size).sum + .ofNat (size r) := by
  rw [List.map_append, List.sum_append, Int64.ofNat_add, List.map_singleton, List.sum_singleton]

/-- Adding the statistics of one more function. -/
theorem Totals.add (h : s.Totals rs) (hr : r.IsFrom o) :
    (s.add r.stats).Totals (rs ++ [r]) where
  functions := by
    rw [Stats.add, hr.stats_eq, h.functions, List.length_append, Int64.ofNat_add]
    rfl
  taintedValues := by
    rw [Stats.add, hr.stats_eq, h.taintedValues, ofNat_sum_concat]
    rfl
  taintedInstructions := by
    rw [Stats.add, hr.stats_eq, h.taintedInstructions, ofNat_sum_concat]
    rfl
  cycles := by
    rw [Stats.add, hr.stats_eq, h.cycles, ofNat_sum_concat]
    rfl
  kinds := by
    have own : r.stats.kinds.Counts (r.kinds.map Kind.name) := by
      rw [hr.stats_eq, FunctionResult.kinds, List.map_map]
      exact Tally.counts_ofNames _
    rw [List.flatMap_append, List.flatMap_singleton, List.map_append]
    exact h.kinds.add own

/-- Adding the statistics of further results counts these results too. -/
theorem Totals.foldl :
    ∀ (more : List FunctionResult) {rs : List FunctionResult} {s : Stats}, s.Totals rs →
      (∀ r ∈ more, r.IsFrom o) →
      ((more.map FunctionResult.stats).foldl Stats.add s).Totals (rs ++ more) := by
  intro more
  induction more with
  | nil =>
    intro rs s h _
    rwa [List.append_nil]
  | cons r more ih =>
    intro rs s h hmore
    obtain ⟨hr, hrest⟩ := List.forall_mem_cons.mp hmore
    have := ih (h.add hr) hrest
    rwa [List.append_assoc, List.singleton_append] at this

end Stats

/-! ## §3 Programs -/

namespace Result

/-- No counter wraps around: there are fewer than 2^63 functions, tainted
values, tainted instructions and cycles. -/
structure CountsFit (r : Result) : Prop where
  functions : r.functions.length < 2 ^ 63
  values : (r.functions.map (·.store.values.length)).sum < 2 ^ 63
  instrs : (r.functions.map (·.store.instrs.length)).sum < 2 ^ 63
  cycles : (r.functions.map (·.cycles.length)).sum < 2 ^ 63

/-- The report and the statistics agree with the results of the functions and
with one another. -/
structure Balanced (r : Result) (targetKinds : List Kind) : Prop where
  ignored : r.findings.length + r.report.ignored.toInt =
    (r.functions.map (·.findings.length)).sum
  targets : r.stats.targets.toInt = r.findings.length
  functions : r.stats.functions.toInt = r.functions.length
  taintedValues : r.stats.taintedValues.toInt = (r.functions.map (·.store.values.length)).sum
  taintedInstructions :
    r.stats.taintedInstructions.toInt = (r.functions.map (·.store.instrs.length)).sum
  cycles : r.stats.cycles.toInt = (r.functions.map (·.cycles.length)).sum
  /-- No kind has two entries. -/
  nodup_kinds : (r.stats.kinds.map Prod.fst).Nodup
  sum_kinds : (r.stats.kinds.map (·.2.toInt)).sum = r.stats.taintedInstructions.toInt
  /-- A target kind that is listed several times is counted once, and one that
  has no entry counts for nothing. -/
  sum_targetKinds :
    (targetKinds.dedup.map fun k => ((r.stats.kinds.get? k.name).getD 0).toInt).sum =
      r.findings.length + r.report.ignored.toInt

end Result

namespace Ssa.Program

variable {o : Options} {rs : List FunctionResult}

/-- The statistics of a program count what there is in its functions. -/
theorem totals_resultOf (directives : Directives) (hrs : ∀ r ∈ rs, r.IsFrom o) :
    (resultOf directives rs).stats.Totals rs := by
  have h := Stats.totals_nil.foldl rs hrs
  rw [List.nil_append] at h
  -- only the number of targets is overwritten, which the totals leave open
  exact ⟨h.functions, h.taintedValues, h.taintedInstructions, h.cycles, h.kinds⟩

/-- A finding is either reported or silenced. -/
theorem length_findings_resultOf (directives : Directives) (rs : List FunctionResult) :
    (resultOf directives rs).findings.length + (resultOf directives rs).silenced.length =
      (rs.map (·.findings.length)).sum := by
  rw [Nat.add_comm, ← List.length_flatMap]
  exact (List.length_eq_length_filter_add fun d : Finding => directives.isIgnored d.place).symm

/-- Every target is a marked instruction of a target kind. -/
theorem sum_length_findings (hrs : ∀ r ∈ rs, r.IsFrom o) :
    (rs.map (·.findings.length)).sum =
      (rs.flatMap FunctionResult.kinds).countP (o.targetKinds.contains ·) := by
  rw [List.countP_flatMap]
  exact congrArg List.sum (List.map_congr_left fun r hr => (hrs r hr).length_findings)

theorem length_kinds (rs : List FunctionResult) :
    ((rs.flatMap FunctionResult.kinds).map Kind.name).length =
      (rs.map (·.store.instrs.length)).sum := by
  simp only [List.length_map, List.length_flatMap, FunctionResult.length_kinds]

/-- Where no counter wraps around, the result is balanced. -/
theorem balanced_resultOf (directives : Directives) (hrs : ∀ r ∈ rs, r.IsFrom o)
    (fit : (resultOf directives rs).CountsFit) :
    (resultOf directives rs).Balanced o.targetKinds := by
  have totals := totals_resultOf directives hrs
  have split := length_findings_resultOf directives rs
  have found := sum_length_findings hrs
  have hlt : ((rs.flatMap FunctionResult.kinds).map Kind.name).length < 2 ^ 63 :=
    length_kinds rs ▸ fit.instrs
  have hfound : (rs.map (·.findings.length)).sum < 2 ^ 63 := by
    refine Nat.lt_of_le_of_lt ?_ hlt
    rw [found, List.length_map]
    exact List.countP_le_length
  have hignored : (resultOf directives rs).report.ignored.toInt =
      (resultOf directives rs).silenced.length := Int64.toInt_ofNat_of_lt (by omega)
  have instrs := Int64.toInt_ofNat_of_lt fit.instrs
  refine
    { ignored := ?_
      targets := Int64.toInt_ofNat_of_lt (Nat.lt_of_le_of_lt (Nat.le.intro split) hfound)
      functions := ?_
      taintedValues := ?_
      taintedInstructions := ?_
      cycles := ?_
      nodup_kinds := totals.kinds.nodup
      sum_kinds := ?_
      sum_targetKinds := ?_ }
  · rw [hignored, ← Nat.cast_add, split]
    rfl
  · rw [totals.functions]
    exact Int64.toInt_ofNat_of_lt fit.functions
  · rw [totals.taintedValues]
    exact Int64.toInt_ofNat_of_lt fit.values
  · rw [totals.taintedInstructions]
    exact instrs
  · rw [totals.cycles]
    exact Int64.toInt_ofNat_of_lt fit.cycles
  · rw [totals.taintedInstructions, totals.kinds.sum_entries hlt, length_kinds]
    exact instrs.symm
  · have counts := totals.kinds.sum_getD hlt (o.targetKinds.dedup.map Kind.name)
    simp only [List.map_map, Function.comp_def,
      List.count_map_of_injective _ _ Kind.name_injective] at counts
    rw [counts, Tally.sum_map_count _ o.targetKinds.nodup_dedup, hignored,
      ← Nat.cast_add, split, found]
    simp

/-- The workers change nothing about the result. -/
theorem analyze_fst (p : Program) (c : Config) (directives : Directives)
    (working elapsed : String) (workers : Int) :
    (p.analyze c directives working elapsed workers).1 =
      resultOf directives ((p.selected c working).map fun f => (f.analyze c.options).1) := by
  rw [analyze, Parallel.map_eq_map, List.map_map]
  rfl

/-- The results are those of the selected functions, whatever the number of
workers; the targets are those of the functions, in order, without the ones
that a directive silences; and the numbers balance. -/
theorem analyze_balanced (p : Program) (c : Config) (directives : Directives)
    (working elapsed : String) (workers : Int) :
    let r := (p.analyze c directives working elapsed workers).1
    r.functions = (p.selected c working).map (fun f => (f.analyze c.options).1) ∧
      r.findings = r.functions.flatMap (fun f =>
        f.findings.filter fun d => !directives.isIgnored d.place) ∧
      (r.CountsFit → r.Balanced c.targetKinds) := by
  intro r
  have hr : r = _ := p.analyze_fst c directives working elapsed workers
  rw [hr]
  refine ⟨rfl, List.filter_flatMap, ?_⟩
  refine balanced_resultOf (o := c.options) directives ?_
  intro fr hfr
  obtain ⟨f, -, rfl⟩ := List.mem_map.mp hfr
  exact FunctionResult.isFrom_analyze f c.options

/-- A function that compares the successor of its parameter with the
parameter, on the given line. -/
def comparing (name : String) (line : Int) : Function where
  fullName := name
  name := name
  package := some "p"
  params := [0]
  values :=
    [{ name := "x", text := "parameter x : int", users := [0, 1] },
      { name := "t0", text := "x + 1:int", users := [1], instr := some 0 },
      { name := "t1", text := "t0 > x", users := [2], instr := some 1 },
      { name := "1:int", text := "1:int" }]
  blocks := some
    [[{ operation := .binOp "+", value := some 1, operands := [some 0, some 3] },
      { operation := .binOp ">", value := some 2, operands := [some 1, some 0],
        position := some ⟨"p.go", line, 1⟩ },
      { operation := .ret, text := "return t1", operands := [some 2] }]]

/-- Two functions, of which the second one in the order of names is first. -/
def twoComparisons : Program := { functions := [comparing "b" 7, comparing "a" 3] }

/-- Settings with a target kind that is listed twice and one that never
occurs. -/
def repeating : Config := { targetKinds := [.compare, .alloca, .compare] }

/-- The comparison below the directive is silenced, and counted. -/
theorem analyze_balanced_silenced :
    let r := (twoComparisons.analyze repeating [(("p.go", 2), ⟨Directive.ignoreWord, none⟩)]
      "/" "0.00" 3).1
    r.CountsFit ∧ r.Balanced repeating.targetKinds ∧ r.findings.length = 1 ∧
      r.report.ignored = 1 ∧ r.stats.kinds = [("binary-op", 2), ("compare", 2)] := by
  intro r
  have selected :
      twoComparisons.selected repeating "/" = [comparing "a" 3, comparing "b" 7] := by
    cbv
  have hr : r = _ := twoComparisons.analyze_fst repeating _ "/" "0.00" 3
  rw [selected] at hr
  have fit : r.CountsFit := by
    rw [hr]
    exact ⟨by decide, by decide, by decide, by decide⟩
  refine ⟨fit, (twoComparisons.analyze_balanced repeating _ "/" "0.00" 3).2.2 fit, ?_⟩
  rw [hr]
  decide

end Ssa.Program

end ArgTaint
