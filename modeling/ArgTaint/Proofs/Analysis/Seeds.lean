/-
ArgTaint.Proofs.Analysis.Seeds — what each seed contributes.

An instruction is marked for the first tainted value that is found to use it,
and is passed over for every later one; which value comes first depends on all
the seeds. Still nothing is lost: what is tainted and marked from two lists of
seeds is what is tainted and marked from either.

  §1 Settled  — a store at rest, by the values that were handed over.
  §2 Findings — which targets an analysis finds, by the marked instructions.
  §3 Seeds    — two lists of seeds, and parameters beside free variables.
-/
import ArgTaint.Proofs.Ssa.Referrers

namespace ArgTaint

open Relation (ReflTransGen)

/-! ## §1 Settled -/

namespace Store

variable {V I : Type} [DecidableEq V] [DecidableEq I] {g : UseDef V I}
  {vs A B : List (Option V)}

/-- What settles as tainted is reached from what was handed over. -/
theorem mem_values_settle (present : ∀ v ∈ vs, g.IsPresent v) (v : V) :
    v ∈ (settle g vs).values ↔ ∃ u, some u ∈ vs ∧ ReflTransGen g.PassesTo u v := by
  have passed : ∀ u, u ∈ EngineCall.passed [.seedAll vs, .propagate] ↔ some u ∈ vs := by
    simp [EngineCall.passed, EngineCall.seeds]
  refine (atRest_settle g vs).mem_values_iff (S := {u | some u ∈ vs}) (fun u hu => ?_)
    (fun u hu => (passed u).mp (mem_seeds_run_empty _ u hu)) v
  refine mem_values_run _ empty wellFormed_empty ?_ u ((passed u).mpr hu)
  simpa [EngineCall.seeds] using present

/-- Seeding two lists at once taints what seeding one or the other taints. -/
theorem mem_values_settle_append (hA : ∀ v ∈ A, g.IsPresent v) (hB : ∀ v ∈ B, g.IsPresent v)
    (v : V) :
    v ∈ (settle g (A ++ B)).values ↔ v ∈ (settle g A).values ∨ v ∈ (settle g B).values := by
  have hAB : ∀ u ∈ A ++ B, g.IsPresent u := fun u hu =>
    (List.mem_append.mp hu).elim (hA u) (hB u)
  simp only [mem_values_settle hAB, mem_values_settle hA, mem_values_settle hB, List.mem_append,
    or_and_right, exists_or]

/-- The same of marks: an instruction is marked through any one of its tainted
operands. -/
theorem mem_instrs_settle_append (hA : ∀ v ∈ A, g.IsPresent v) (hB : ∀ v ∈ B, g.IsPresent v)
    (i : I) :
    i ∈ (settle g (A ++ B)).instrs ↔ i ∈ (settle g A).instrs ∨ i ∈ (settle g B).instrs := by
  simp only [(atRest_settle g _).mem_instrs_iff, mem_values_settle_append hA hB, or_and_right,
    exists_or, and_or_left]

end Store

/-! ## §2 Findings -/

namespace Ssa.Function

variable {f : Function} {o : Options}

theorem mem_findings {s : Store Nat Nat} {t : Finding} :
    t ∈ f.findings o s ↔
      ∃ i ∈ s.instrs, f.view.kind i ∈ o.targetKinds ∧ f.finding o.helper i = t := by
  simp only [findings, List.mem_map, List.mem_filter, List.contains_iff_mem, and_assoc]

/-- The values of a function can be seeded. -/
theorem isPresent_map_some (f : Function) (vs : List Nat) :
    ∀ v ∈ vs.map some, f.view.IsPresent v := by
  intro v hv
  obtain ⟨u, -, rfl⟩ := List.mem_map.mp hv
  rfl

/-- The findings of a function are those of its seeds at rest. -/
theorem findings_analyze (f : Function) (o : Options) :
    (f.analyze o).1.findings = f.findings o (Store.settle f.view (f.seeds o)) := rfl

end Ssa.Function

/-! ## §3 Seeds -/

/-- **Taint distributes over seeds.** A new engine that is handed two lists of
values taints and marks what one engine for each list does. Hence the targets
of a function whose free variables are seeds are those found from the
parameters alone and those found from the free variables alone, and to seed
free variables never removes a target. -/
theorem taint_distributes_over_seeds :
    (∀ (V I : Type) [DecidableEq V] [DecidableEq I] (g : UseDef V I) (A B : List (Option V)),
      (∀ v ∈ A, g.IsPresent v) → (∀ v ∈ B, g.IsPresent v) →
        (∀ v, (Store.settle g (A ++ B)).isTainted v =
          ((Store.settle g A).isTainted v || (Store.settle g B).isTainted v)) ∧
        ∀ i, (Store.settle g (A ++ B)).isMarked i =
          ((Store.settle g A).isMarked i || (Store.settle g B).isMarked i)) ∧
    ∀ (f : Ssa.Function) (o : Options),
      let alone := (f.analyze { o with seedFreeVars := false }).1.findings
      let joint := (f.analyze { o with seedFreeVars := true }).1.findings
      alone = f.findings o (Store.settle f.view (f.params.map some)) ∧
      (∀ t, t ∈ joint ↔ t ∈ f.findings o (Store.settle f.view (f.params.map some)) ∨
        t ∈ f.findings o (Store.settle f.view (f.freeVars.map some))) ∧
      ∀ t ∈ alone, t ∈ joint := by
  refine ⟨fun V I _ _ g A B hA hB => ⟨fun v => ?_, fun i => ?_⟩, fun f o => ?_⟩
  · rw [Bool.eq_iff_iff, Bool.or_eq_true]
    simp only [Store.isTainted_iff (Store.atRest_settle g _).wellFormed]
    exact Store.mem_values_settle_append hA hB v
  · rw [Bool.eq_iff_iff, Bool.or_eq_true]
    simp only [Store.isMarked_iff (Store.atRest_settle g _).wellFormed]
    exact Store.mem_instrs_settle_append hA hB i
  · intro alone joint
    have halone : alone = f.findings o (Store.settle f.view (f.params.map some)) := by
      simp only [alone, Ssa.Function.findings_analyze, Ssa.Function.seeds, Bool.false_eq_true,
        if_false, List.append_nil]
      rfl
    have hjoint : ∀ t, t ∈ joint ↔
        t ∈ f.findings o (Store.settle f.view (f.params.map some)) ∨
          t ∈ f.findings o (Store.settle f.view (f.freeVars.map some)) := by
      intro t
      change t ∈ f.findings o
        (Store.settle f.view (f.params.map some ++ f.freeVars.map some)) ↔ _
      simp only [Ssa.Function.mem_findings,
        Store.mem_instrs_settle_append (f.isPresent_map_some _) (f.isPresent_map_some _),
        or_and_right, exists_or]
    refine ⟨halone, hjoint, fun t ht => (hjoint t).mpr (Or.inl ?_)⟩
    rw [← halone]
    exact ht

/-- A closure that adds its parameter to its free variable and compares the sum,
and compares the free variable too. -/
def Ssa.Function.sharedSum : Ssa.Function where
  fullName := "example.com/p.adder$1"
  name := "adder$1"
  package := some "example.com/p"
  params := [0]
  freeVars := [1]
  values :=
    [{ name := "x", text := "parameter x : int", users := [0] },
      { name := "n", text := "freevar n : int", users := [0, 2] },
      { name := "t0", text := "x + n", users := [1], instr := some 0 },
      { name := "t1", text := "t0 > 0:int", instr := some 1 },
      { name := "t2", text := "n > 0:int", instr := some 2 },
      { name := "0:int", text := "0:int" }]
  blocks := some
    [[{ operation := .binOp "+", value := some 2, operands := [some 0, some 1] },
      { operation := .binOp ">", value := some 3, operands := [some 2, some 5] },
      { operation := .binOp ">", value := some 4, operands := [some 1, some 5] }]]

/-- The sum is marked for the parameter or for the free variable, and the
comparison of the free variable is a target besides that of the sum. -/
theorem taint_distributes_over_seeds_sharedSum :
    let f := Ssa.Function.sharedSum
    let o := Ssa.Function.comparisons
    let joint := (f.analyze { o with seedFreeVars := true }).1.findings
    (∀ v ∈ [some 0], f.view.IsPresent v) ∧ (∀ v ∈ [some 1], f.view.IsPresent v) ∧
      (Store.settle f.view ([some 0] ++ [some 1])).isMarked 0 =
        ((Store.settle f.view [some 0]).isMarked 0 ||
          (Store.settle f.view [some 1]).isMarked 0) ∧
      f.finding o.helper 1 ∈ joint ∧ f.finding o.helper 2 ∈ joint := by
  intro f o joint
  have hA : ∀ v ∈ [some 0], f.view.IsPresent v := by decide
  have hB : ∀ v ∈ [some 1], f.view.IsPresent v := by decide
  obtain ⟨union, targets⟩ := taint_distributes_over_seeds
  refine ⟨hA, hB, (union Nat Nat f.view _ _ hA hB).2 0, (targets f o).2.2 _ ?_,
    ((targets f o).2.1 _).mpr (Or.inr ?_)⟩
  · decide
  · decide

end ArgTaint
