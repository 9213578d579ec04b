/-
ArgTaint.Proofs.Build.Growth — functions under construction only grow.

A call may add instructions and operands, also when it fails. What is there
stays where it is: an instruction keeps its number and its kind, and its
operands stay in front of those that are added.

* `Build.Grows` — the relation between a function and what becomes of it.
* `Build.grows_perform`, `Assembly.grows_perform` — every call makes it grow.
-/
import ArgTaint.Proofs.Assembly

namespace ArgTaint

namespace Build

variable {b t u : Build}

/-- Instructions keep their numbers, their kinds and their operands, and may
have gained operands. -/
def Grows (b t : Build) : Prop :=
  ∀ (i : Nat) (instr : Instr), b.instrs[i]? = some instr →
    ∃ later, t.instrs[i]? = some later ∧ later.kind = instr.kind ∧
      instr.operands <+: later.operands

theorem Grows.refl (b : Build) : b.Grows b :=
  fun _ instr hi => ⟨instr, hi, rfl, List.prefix_rfl⟩

theorem Grows.trans (h : b.Grows t) (k : t.Grows u) : b.Grows u := by
  intro i instr hi
  obtain ⟨later, hlater, hkind, hops⟩ := h i instr hi
  obtain ⟨last, hlast, hkind', hops'⟩ := k i later hlater
  exact ⟨last, hlast, hkind'.trans hkind, hops.trans hops'⟩

theorem grows_extend (b : Build) (i : Nat) (vs : List Value) : b.Grows (b.extend i vs) := by
  intro j instr hj
  simp only [extend, List.getElem?_modify, hj]
  refine ⟨_, rfl, ?_⟩
  split
  · exact ⟨rfl, List.prefix_append _ _⟩
  · exact ⟨rfl, List.prefix_rfl⟩

theorem grows_create (b : Build) (instr : Instr) : b.Grows (b.create instr) := by
  intro j old hj
  have hlt := (List.getElem?_eq_some_iff.mp hj).1
  exact ⟨old, (List.getElem?_append_left hlt).trans hj, rfl, List.prefix_rfl⟩

/-- Placing an instruction takes nothing away, also when it fails. -/
theorem grows_place (b : Build) (instr : Instr) (operands : List (Option Value)) :
    b.Grows (b.place instr operands).1 := by
  have filled : b.Grows ((b.create instr).extend b.instrs.length (appended operands)) :=
    (grows_create b instr).trans (grows_extend _ _ _)
  rcases place_cases b instr operands with ⟨-, he⟩ | ⟨-, he | he⟩
  · rw [he]
    exact Grows.refl b
  · rw [he]
    exact filled
  · -- entering a block leaves the instructions alone
    rw [he]
    exact filled

/-- Every call makes a function grow, also when it fails. -/
theorem grows_perform (b : Build) (c : Call) : b.Grows (b.perform c).1 := by
  cases c with
  | newBlock => exact Grows.refl b
  | newConst name => exact Grows.refl b
  | emit block kind name operands => exact grows_place b _ operands
  | emitVoid block kind operands => exact grows_place b _ operands
  | addOperand i operand =>
    by_cases hi : i < b.instrs.length
    · simp only [perform, (addOperand_eq_extend hi operand).1]
      exact grows_extend b i _
    · simp only [perform, addOperand, if_neg hi]
      exact Grows.refl b

/-- What the engine sees of an instruction with an operand. -/
theorem Grows.mem_operands (h : b.Grows t) {i : Nat} {v : Value} (hv : v ∈ b.view.operands i) :
    v ∈ t.view.operands i ∧ t.view.kind i = b.view.kind i := by
  cases hi : b.instrs[i]? with
  | none =>
    simp only [view, hi] at hv
    cases hv
  | some instr =>
    obtain ⟨later, hlater, hkind, hops⟩ := h i instr hi
    simp only [view, hi, hlater] at hv ⊢
    exact ⟨hops.subset hv, hkind⟩

end Build

/-- Every call makes the graph of an assembly grow. -/
theorem Assembly.grows_perform (a : Assembly) (c : Call) :
    a.graph.Grows (a.perform c).1.graph := by
  cases c with
  | newFunction name params => exact Build.Grows.refl a.graph
  | newBlock function =>
    simp only [perform, newBlock]
    split
    · exact Build.Grows.refl a.graph
    · exact Build.Grows.refl a.graph
  | newConst name => exact Build.grows_perform a.graph (.newConst name)
  | emit block kind name operands =>
    exact Build.grows_perform a.graph (.emit block kind name operands)
  | emitVoid block kind operands =>
    exact Build.grows_perform a.graph (.emitVoid block kind operands)
  | addOperand instr operand => exact Build.grows_perform a.graph (.addOperand instr operand)

end ArgTaint
