/-
ArgTaint.Proofs.Analysis.Determinism — the result does not depend on chance.

Three things are left to chance in an analysis: the order in which the
functions of the program are enumerated and what a sort makes of functions
with one name, the schedule of the workers, and the order in which the entries
of a tally are added up. `Outcome` holds all the results that these may give.
When the functions that are analysed have distinct names, the results agree.

  §1 Sums     — adding up statistics whose tallies are enumerated in any order.
  §2 Orders   — what a sort may give, and the functions that are analysed.
  §3 Outcomes — the results that an analysis may give.
-/
import ArgTaint.Proofs.Analysis.Accounting
import ArgTaint.Proofs.Text.ByteOrder

namespace ArgTaint

/-! ## §1 Sums -/

namespace Tally

/-- Entries in another order are the same counters. -/
theorem get?_perm {a b : Tally} (h : a.Perm b) (nodup : b.names.Nodup) (n : String) :
    a.get? n = b.get? n := by
  have names : a.names.Perm b.names := h.map Prod.fst
  cases hb : b.get? n with
  | none => exact get?_eq_none.mpr fun hm => get?_eq_none.mp hb (names.mem_iff.mp hm)
  | some c =>
    have hm : n ∈ b.names := by
      by_contra hn
      rw [get?_eq_none.mpr hn] at hb
      cases hb
    obtain ⟨⟨m, d⟩, hd, rfl⟩ := List.mem_map.mp hm
    rw [get?_of_mem nodup hd] at hb
    cases hb
    exact get?_of_mem (names.nodup_iff.mpr nodup) (h.mem_iff.mpr hd)

end Tally

namespace Stats

/-- The same statistics: tallies are compared name by name. -/
structure Same (a b : Stats) : Prop where
  functions : a.functions = b.functions
  taintedValues : a.taintedValues = b.taintedValues
  taintedInstructions : a.taintedInstructions = b.taintedInstructions
  targets : a.targets = b.targets
  cycles : a.cycles = b.cycles
  kinds : ∀ name, a.kinds.get? name = b.kinds.get? name

/-- What adding statistics to the first one may give: the entries of each tally
are merged in any order. -/
inductive SumsTo : Stats → List Stats → Stats → Prop where
  | nil (s : Stats) : SumsTo s [] s
  | cons {s o t : Stats} {rest : List Stats} {kinds : Tally} (entries : kinds.Perm o.kinds)
      (more : SumsTo (s.add { o with kinds := kinds }) rest t) : SumsTo s (o :: rest) t

theorem Same.refl (s : Stats) : s.Same s := ⟨rfl, rfl, rfl, rfl, rfl, fun _ => rfl⟩

/-- Adding the same statistics, with the entries of the tally in two orders. -/
theorem Same.add {a b o : Stats} {ka kb : Tally} (h : a.Same b) (nodup : o.kinds.names.Nodup)
    (ha : ka.Perm o.kinds) (hb : kb.Perm o.kinds) :
    (a.add { o with kinds := ka }).Same (b.add { o with kinds := kb }) where
  functions := by rw [Stats.add, Stats.add, h.functions]
  taintedValues := by rw [Stats.add, Stats.add, h.taintedValues]
  taintedInstructions := by rw [Stats.add, Stats.add, h.taintedInstructions]
  targets := by rw [Stats.add, Stats.add, h.targets]
  cycles := by rw [Stats.add, Stats.add, h.cycles]
  kinds name := by
    have na : ka.names.Nodup := (ha.map Prod.fst).nodup_iff.mpr nodup
    have nb : kb.names.Nodup := (hb.map Prod.fst).nodup_iff.mpr nodup
    simp only [Stats.add, Tally.add]
    rw [Tally.get?_merge _ name ka _ na, Tally.get?_merge _ name kb _ nb, h.kinds,
      Tally.get?_perm ha nodup, Tally.get?_perm hb nodup]

/-- Sums of the same statistics, from starts that say the same, say the same. -/
theorem SumsTo.same :
    ∀ {os : List Stats} {a b s t : Stats}, SumsTo a os s → SumsTo b os t → a.Same b →
      (∀ o ∈ os, o.kinds.names.Nodup) → s.Same t := by
  intro os
  induction os with
  | nil =>
    rintro a b _ _ ⟨⟩ ⟨⟩ h _
    exact h
  | cons o rest ih =>
    intro a b s t hs ht h nodup
    obtain ⟨ho, hrest⟩ := List.forall_mem_cons.mp nodup
    cases hs with
    | cons ea ma =>
      cases ht with
      | cons eb mb => exact ih ma mb (h.add ho ea eb) hrest

/-- Adding up in the order of the entries is one way. -/
theorem sumsTo_foldl : ∀ (os : List Stats) (s : Stats), SumsTo s os (os.foldl Stats.add s) := by
  intro os
  induction os with
  | nil => exact SumsTo.nil
  | cons o rest ih => exact fun s => .cons (.refl _) (ih (s.add o))

end Stats

/-! ## §2 Orders -/

namespace Ssa.Program

/-- Is the function analysed, seen from a working directory? -/
def isAnalysed (c : Config) (working : String) (f : Function) : Bool :=
  c.selects f && !Exclusion.isExcluded (Exclusion.absolute working c.excludePaths) f.file

/-- What a sort by name may make of the functions of a program: nothing is said
about functions with one name. -/
structure IsSorting (p : Program) (order : List Function) : Prop where
  perm : order.Perm p.functions
  ordered : order.Pairwise fun f g => ¬ Text.bytesOf g.fullName < Text.bytesOf f.fullName

theorem isSorting_sorted (p : Program) : p.IsSorting p.sorted where
  perm := List.mergeSort_perm _ _
  ordered := by
    have ordered : p.sorted.Pairwise fun f g => (!decide (g.fullName < f.fullName)) = true := by
      refine List.pairwise_mergeSort ?_ ?_ _
      · intro f g h hfg hgh
        simp only [Bool.not_eq_true', decide_eq_false_iff_not, not_lt] at *
        exact hfg.trans hgh
      · intro f g
        simp only [Bool.or_eq_true, Bool.not_eq_true', decide_eq_false_iff_not, not_lt]
        exact le_total _ _
    refine ordered.imp fun {f g} h => ?_
    rw [← Text.lt_iff_bytesOf_lt]
    simpa using h

/-- The functions that are analysed have names of their own. -/
def HasDistinctNames (p : Program) (c : Config) (working : String) : Prop :=
  ((p.functions.filter (isAnalysed c working)).map Function.fullName).Nodup

variable {p q : Program} {c : Config} {working : String} {order : List Function}

/-- Every sorting has the same functions analysed. -/
theorem IsSorting.filter_perm (h : p.IsSorting order) :
    (order.filter (isAnalysed c working)).Perm (p.functions.filter (isAnalysed c working)) :=
  h.perm.filter _

/-- The order of the functions that are analysed is strict. -/
theorem IsSorting.pairwise_lt (h : p.IsSorting order)
    (distinct : p.HasDistinctNames c working) :
    (order.filter (isAnalysed c working)).Pairwise fun f g =>
      Text.bytesOf f.fullName < Text.bytesOf g.fullName := by
  have names : (order.filter (isAnalysed c working)).Pairwise fun f g =>
      f.fullName ≠ g.fullName :=
    List.pairwise_map.mp ((h.filter_perm.map _).nodup_iff.mpr distinct)
  refine (names.and (h.ordered.filter _)).imp fun {f g} hfg => ?_
  rw [← Text.lt_iff_bytesOf_lt] at hfg ⊢
  exact lt_of_le_of_ne (not_lt.mp hfg.2) hfg.1

/-- Of two sorts of the same functions, those that are analysed come out in the
same order. -/
theorem IsSorting.filter_eq {order' : List Function} (h : p.IsSorting order)
    (h' : q.IsSorting order') (enumerated : p.functions.Perm q.functions)
    (distinct : p.HasDistinctNames c working) :
    order.filter (isAnalysed c working) = order'.filter (isAnalysed c working) := by
  have distinct' : q.HasDistinctNames c working :=
    ((enumerated.filter _).map _).nodup_iff.mp distinct
  have perm := h.filter_perm.trans
    ((enumerated.filter (isAnalysed c working)).trans h'.filter_perm.symm)
  refine List.Perm.eq_of_pairwise ?_ (h.pairwise_lt distinct) (h'.pairwise_lt distinct') perm
  intro f g _ _ hfg hgf
  exact absurd hfg (List.lt_asymm hgf)

/-! ## §3 Outcomes -/

open Parallel in
/-- The results that an analysis may give: after any sort of the functions, any
schedule of the workers, and any order in which the tallies are added up. -/
inductive Outcome (p : Program) (c : Config) (directives : Directives) (working : String)
    (workers : Int) : Result → Prop where
  | intro {order : List Function} {moves : List Move} {delivered : List Nat}
      {pool : Pool Function (FunctionResult × List Log.Entry)} {total : Stats}
      (sorting : p.IsSorting order)
      (run : Pool.Run (fun f => f.analyze c.options)
        (.start (order.filter (isAnalysed c working)) workers) moves delivered pool)
      (final : pool.IsFinal)
      (sum : Stats.SumsTo {}
        (((pool.results.filterMap id).map Prod.fst).map FunctionResult.stats) total) :
      Outcome p c directives working workers
        (let result := resultOf directives ((pool.results.filterMap id).map Prod.fst)
        { result with stats := { total with targets := result.stats.targets } })

variable {directives : Directives} {workers : Int} {r : Result}

/-- The results of the functions in an order, without what was logged. -/
def resultsIn (c : Config) (working : String) (order : List Function) : List FunctionResult :=
  (order.filter (isAnalysed c working)).map fun f => (f.analyze c.options).1

/-- The schedule of the workers leaves no trace in an outcome. -/
theorem Outcome.exists_order (h : Outcome p c directives working workers r) :
    ∃ order total, p.IsSorting order ∧
      Stats.SumsTo {} ((resultsIn c working order).map FunctionResult.stats) total ∧
      r = { resultOf directives (resultsIn c working order) with
        stats := { total with
          targets := (resultOf directives (resultsIn c working order)).stats.targets } } := by
  cases h with
  | @intro order moves delivered pool total sorting run final sum =>
    have results : (pool.results.filterMap id).map Prod.fst = resultsIn c working order := by
      rw [run.results final, List.map_map]
      rfl
    rw [results] at sum ⊢
    exact ⟨order, total, sorting, sum, rfl⟩

/-- What the analysis computes is an outcome. -/
theorem outcome_analyze (p : Program) (c : Config) (directives : Directives)
    (working elapsed : String) (workers : Int) :
    Outcome p c directives working workers
      (p.analyze c directives working elapsed workers).1 := by
  let start : Parallel.Pool Function (FunctionResult × List Log.Entry) :=
    .start (p.sorted.filter (isAnalysed c working)) workers
  have hbound : start.movesLeft ≤
      3 * (p.sorted.filter (isAnalysed c working)).length + start.workers.length + 3 := by
    rw [Parallel.Pool.movesLeft_start]
    simp [start, Parallel.Pool.start]
  obtain ⟨final, -⟩ := Parallel.Pool.isFinal_run _ start
    (Parallel.Pool.coordinated_start _ workers)
    (Parallel.Pool.tracked_start (fun f => f.analyze c.options) _ workers) hbound
  obtain ⟨moves, delivered, run⟩ :=
    Parallel.Pool.exists_run (fun f : Function => f.analyze c.options) _ start
  exact .intro p.isSorting_sorted run final (Stats.sumsTo_foldl _ _)

theorem nodup_kinds_resultsIn (c : Config) (working : String) (order : List Function) :
    ∀ o ∈ (resultsIn c working order).map FunctionResult.stats, o.kinds.names.Nodup := by
  intro o ho
  obtain ⟨fr, hfr, rfl⟩ := List.mem_map.mp ho
  obtain ⟨f, -, rfl⟩ := List.mem_map.mp hfr
  exact (Tally.counts_ofNames _).nodup

/-- **The result of an analysis does not depend on chance.** When the functions
that are analysed have distinct names, any two enumerations of the functions of
a program, sorted in any way, analysed by any numbers of workers in any
schedule and added up in any order, give the same results of the functions, the
same targets, the same ignored targets and the same statistics. Each function
that is analysed is listed once, and no other, in strictly increasing order of
the bytes of the names; and what the analysis computes is such a result. -/
theorem analyze_deterministic (p q : Program) (c : Config) (directives : Directives)
    (working : String) (enumerated : p.functions.Perm q.functions)
    (distinct : p.HasDistinctNames c working) :
    (∀ workers workers' r r', Outcome p c directives working workers r →
      Outcome q c directives working workers' r' →
      r.functions = r'.functions ∧ r.findings = r'.findings ∧ r.silenced = r'.silenced ∧
        r.report.targets = r'.report.targets ∧ r.report.ignored = r'.report.ignored ∧
        r.stats.Same r'.stats) ∧
    (∀ workers r, Outcome p c directives working workers r →
      (r.functions.map FunctionResult.function).Pairwise
          (fun f g => Text.bytesOf f.fullName < Text.bytesOf g.fullName) ∧
        ∀ f, (r.functions.map FunctionResult.function).count f =
          if f ∈ p.functions ∧ isAnalysed c working f then 1 else 0) ∧
    ∀ workers elapsed, Outcome p c directives working workers
      (p.analyze c directives working elapsed workers).1 := by
  refine ⟨?_, ?_, fun workers elapsed => outcome_analyze p c directives working elapsed workers⟩
  · intro workers workers' r r' h h'
    obtain ⟨order, total, sorting, sum, rfl⟩ := h.exists_order
    obtain ⟨order', total', sorting', sum', rfl⟩ := h'.exists_order
    have same : resultsIn c working order' = resultsIn c working order := by
      rw [resultsIn, resultsIn, sorting.filter_eq sorting' enumerated distinct]
    rw [same] at sum' ⊢
    have stats := sum.same sum' (.refl _) (nodup_kinds_resultsIn c working order)
    exact ⟨rfl, rfl, rfl, rfl, rfl, stats.functions, stats.taintedValues,
      stats.taintedInstructions, rfl, stats.cycles, stats.kinds⟩
  · intro workers r h
    obtain ⟨order, total, sorting, -, rfl⟩ := h.exists_order
    have functions : (resultsIn c working order).map FunctionResult.function =
        order.filter (isAnalysed c working) := by
      rw [resultsIn, List.map_map]
      exact List.map_id _
    have ordered := sorting.pairwise_lt distinct
    have nodup : (order.filter (isAnalysed c working)).Nodup := by
      refine ordered.imp fun {f g} hfg => ?_
      rintro rfl
      exact List.lt_irrefl _ hfg
    simp only [resultOf]
    rw [functions]
    refine ⟨ordered, fun f => ?_⟩
    rw [nodup.count]
    exact if_congr (sorting.filter_perm.mem_iff.trans List.mem_filter) rfl rfl

/-- Two functions to analyse, and two synthetic ones with the name of the
first. -/
def withWrappers : List Function :=
  [comparing "b" 7, { comparing "b" 1 with synthetic := "wrapper" }, comparing "a" 3,
    { comparing "b" 2 with synthetic := "thunk" }]

/-- The synthetic functions share a name, and do not matter. -/
theorem analyze_deterministic_withWrappers :
    let p : Program := { functions := withWrappers }
    let q : Program := { functions := withWrappers.reverse }
    p.HasDistinctNames {} "/" ∧
      (p.analyze {} [] "/" "0.00" 3).1.findings = (q.analyze {} [] "/" "1.00" (-1)).1.findings ∧
      (p.analyze {} [] "/" "0.00" 3).1.stats.Same
        (q.analyze {} [] "/" "1.00" (-1)).1.stats := by
  intro p q
  have distinct : p.HasDistinctNames {} "/" := by
    have names :
        ((withWrappers.filter (isAnalysed {} "/")).map Function.fullName) = ["b", "a"] := by
      cbv
    rw [HasDistinctNames, names]
    decide
  obtain ⟨agree, -, -⟩ :=
    analyze_deterministic p q {} [] "/" (List.reverse_perm _).symm distinct
  have h := agree 3 (-1) _ _ (outcome_analyze p {} [] "/" "0.00" 3)
    (outcome_analyze q {} [] "/" "1.00" (-1))
  exact ⟨distinct, h.2.1, h.2.2.2.2.2⟩

end Ssa.Program

end ArgTaint
