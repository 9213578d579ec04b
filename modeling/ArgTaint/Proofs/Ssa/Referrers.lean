/-
ArgTaint.Proofs.Ssa.Referrers — users against operands.

The engine follows the users that the host lists for a value, while what an
instruction depends on is said by its operands. The host lists the users of
parameters, free variables and results of instructions; a constant, a global,
a function or a builtin has none, though instructions have it as operand.

* `Function.ListsReferrers` — what the host promises; it can be evaluated.
* `Function.analyze_isMarked_iff` — a propagating instruction is marked exactly
  when one of its operands is tainted and has its users listed.
* `Function.not_isMarked_iff_isTainted` — the last condition is needed: a
  global is tainted when it is stored into, and a load from it is not marked.
-/
import ArgTaint.Analysis.Function
import ArgTaint.Proofs.Engine.Closure

namespace ArgTaint.Ssa

namespace Instruction

/-- Reordering keeps the operands. -/
theorem mem_orderedOperands (i : Instruction) (v : Nat) :
    v ∈ i.orderedOperands ↔ some v ∈ i.operands := by
  unfold orderedOperands
  split
  · next addr val _ he =>
    rw [he]
    simp only [List.mem_filterMap, List.mem_cons, List.not_mem_nil, or_false, id,
      exists_eq_right]
    exact or_comm
  · next chan val _ he =>
    rw [he]
    simp only [List.mem_filterMap, List.mem_cons, List.not_mem_nil, or_false, id,
      exists_eq_right]
    exact or_comm
  · next location key val _ he =>
    rw [he]
    simp only [List.mem_filterMap, List.mem_cons, List.not_mem_nil, or_false, id,
      exists_eq_right]
    tauto
  · simp only [List.mem_filterMap, id, exists_eq_right]

end Instruction

namespace Function

/-- The value is a parameter, a free variable or the result of an
instruction. -/
def IsLocal (f : Function) (v : Nat) : Prop :=
  v < f.values.length ∧
    (v ∈ f.params ∨ v ∈ f.freeVars ∨ ((f.value? v).bind Value.instr).isSome = true)

instance (f : Function) : DecidablePred f.IsLocal :=
  fun _ => inferInstanceAs (Decidable (_ ∧ _))

/-- The operands of the instruction with the given number, as the host lists
them. -/
def hostOperands (f : Function) (n : Nat) : List (Option Nat) :=
  (f.instrs[n]?.map Instruction.operands).getD []

/-- The users of a parameter, a free variable or a result are the instructions
that have it as operand; other values have none. -/
def ListsUsersOf (f : Function) (v : Nat) : Prop :=
  if f.IsLocal v then ∀ n < f.instrs.length, n ∈ f.users v ↔ some v ∈ f.hostOperands n
  else f.users v = []

instance (f : Function) : DecidablePred f.ListsUsersOf :=
  fun _ => inferInstanceAs (Decidable (ite _ _ _))

/-- What the host promises about users. -/
def ListsReferrers (f : Function) : Prop := ∀ v < f.values.length, f.ListsUsersOf v

instance (f : Function) : Decidable f.ListsReferrers :=
  inferInstanceAs (Decidable (∀ v < f.values.length, f.ListsUsersOf v))

theorem users_eq_nil_of_length_le {f : Function} {v : Nat} (h : f.values.length ≤ v) :
    f.users v = [] := by
  simp only [users, value?, List.getElem?_eq_none h, Option.map_none, Option.getD_none,
    List.filter_nil]

/-- The users of a value are local uses. -/
theorem ListsReferrers.mem_users_iff {f : Function} (host : f.ListsReferrers) {n : Nat}
    {i : Instruction} (hi : f.instrs[n]? = some i) (v : Nat) :
    n ∈ f.users v ↔ f.IsLocal v ∧ v ∈ i.orderedOperands := by
  have hn : n < f.instrs.length := (List.getElem?_eq_some_iff.mp hi).1
  have ho : f.hostOperands n = i.operands := by
    simp only [hostOperands, hi, Option.map_some, Option.getD_some]
  rw [i.mem_orderedOperands, ← ho]
  by_cases hl : f.IsLocal v
  · have hv := host v hl.1
    rw [ListsUsersOf, if_pos hl] at hv
    simp only [hl, true_and]
    exact hv n hn
  · have hu : f.users v = [] := by
      by_cases hlt : v < f.values.length
      · have hv := host v hlt
        rw [ListsUsersOf, if_neg hl] at hv
        exact hv
      · exact users_eq_nil_of_length_le (Nat.le_of_not_lt hlt)
    simp only [hu, List.not_mem_nil, hl, false_and]

/-- The store of an analysis is the one that settles from the seeds. -/
theorem taint_store (f : Function) (o : Options) :
    (f.taint o).store = Store.settle f.view (f.seeds o) := rfl

/-- The analysis of a function leaves its store at rest. -/
theorem atRest_taint (f : Function) (o : Options) :
    Store.AtRest f.view (f.taint o).store := by
  rw [taint_store]
  exact Store.atRest_settle f.view (f.seeds o)

/-- **Analysis closes over operands whose users are listed.** An instruction of
a propagating kind is marked exactly when one of its operands is a tainted
parameter, free variable or result. -/
theorem analyze_isMarked_iff (f : Function) (o : Options) (host : f.ListsReferrers) (n : Nat)
    (i : Instruction) (hi : f.instrs[n]? = some i) (hp : i.kind.policy.action = .propagate) :
    (f.analyze o).1.store.isMarked n = true ↔
      ∃ v ∈ i.orderedOperands, f.IsLocal v ∧ (f.analyze o).1.store.isTainted v = true := by
  have r := f.atRest_taint o
  have hprop : f.view.Propagates n := by
    simp only [UseDef.Propagates, view, hi, Option.map_some, Option.getD_some]
    exact hp
  change (f.taint o).store.isMarked n = true ↔
    ∃ v ∈ i.orderedOperands, f.IsLocal v ∧ (f.taint o).store.isTainted v = true
  simp only [Store.isMarked_iff r.wellFormed, Store.isTainted_iff r.wellFormed,
    r.mem_instrs_iff]
  constructor
  · rintro ⟨-, v, hv, hu⟩
    obtain ⟨hl, ho⟩ := (host.mem_users_iff hi v).mp hu
    exact ⟨v, ho, hl, hv⟩
  · rintro ⟨v, ho, hl, hv⟩
    exact ⟨hprop, v, hv, (host.mem_users_iff hi v).mpr ⟨hl, ho⟩⟩

/-- A function that stores its parameter into a global and compares what it
loads from there. -/
def setGlobal : Function where
  fullName := "example.com/p.setGlobal"
  name := "setGlobal"
  package := some "example.com/p"
  params := [0]
  values :=
    [{ name := "x", text := "parameter x : int", users := [0] },
      { name := "global", text := "example.com/p.global" },
      { name := "t0", text := "*global", users := [2], instr := some 1 },
      { name := "t1", text := "t0 > 0:int", users := [3], instr := some 2 },
      { name := "0:int", text := "0:int" }]
  blocks := some
    [[{ operation := .store, text := "*global = x", operands := [some 1, some 0] },
      { operation := .unOp "*", value := some 2, operands := [some 1] },
      { operation := .binOp ">", value := some 3, operands := [some 2, some 4] },
      { operation := .ret, text := "return t1", operands := [some 3] }]]

def comparisons : Options := { targetKinds := [.compare], helper := Text.ofString "H" }

/-- The store into the global is marked through its parameter. -/
theorem analyze_isMarked_setGlobal :
    setGlobal.ListsReferrers ∧ ∃ v ∈ [0, 1], setGlobal.IsLocal v ∧
      (setGlobal.analyze comparisons).1.store.isTainted v = true := by
  have host : setGlobal.ListsReferrers := by decide
  refine ⟨host, ?_⟩
  exact (setGlobal.analyze_isMarked_iff comparisons host 0
    { operation := .store, text := "*global = x", operands := [some 1, some 0] }
    rfl rfl).mp (by decide)

/-- A tainted operand alone does not mark: the load of `setGlobal` has the
tainted global as operand. -/
theorem not_isMarked_iff_isTainted :
    ¬ ∀ (f : Function) (o : Options), f.blocks.isSome = true → f.ListsReferrers →
      ∀ (n : Nat) (i : Instruction), f.instrs[n]? = some i →
        i.kind.policy.action = .propagate →
        ((f.analyze o).1.store.isMarked n = true ↔
          ∃ v ∈ i.orderedOperands, (f.analyze o).1.store.isTainted v = true) := by
  intro claimed
  have h := claimed setGlobal comparisons rfl (by decide) 1
    { operation := .unOp "*", value := some 2, operands := [some 1] } rfl (by decide)
  have hg : (setGlobal.analyze comparisons).1.store.isTainted 1 = true := by decide
  have hm : (setGlobal.analyze comparisons).1.store.isMarked 1 = false := by decide
  rw [h.mpr ⟨1, List.mem_cons_self, hg⟩] at hm
  cases hm

end Function

end ArgTaint.Ssa
