/-
ArgTaint.Proofs.Build — functions whose construction never failed.

A failed call can leave an operand behind that stands for no value. When no
call failed, every operand of every instruction is a value, and so is
everything that an instruction may taint.

  §1 Operands — adding operands, up to a whole call.
  §2 Targets  — what the engine can be led to taint.
-/
import ArgTaint.Workbench

namespace ArgTaint

/-! ## §1 Operands -/

namespace Build

variable {b t : Build} {i : Nat}

/-- Every operand of every instruction is a value. -/
def HasOperands (b : Build) : Prop :=
  ∀ (i : Nat) (instr : Instr), b.instrs[i]? = some instr →
    ∀ v ∈ instr.operands, v.isAbsent = false

theorem hasOperands_new (name : String) (params : List String) :
    (Build.new name params).HasOperands := by
  intro i instr h
  rw [new, List.getElem?_nil] at h
  cases h

/-- An operand is added to an instruction that exists, and is a value. -/
theorem addOperand_eq_none {operand : Option Value} (h : b.addOperand i operand = (t, none)) :
    ∃ v, operand = some v ∧ v.isAbsent = false ∧ i < b.instrs.length ∧
      t = { b.appendOperand i v with uses := b.uses ++ [(v, i)] } := by
  simp only [addOperand] at h
  split at h
  · next hi =>
    split at h
    · cases h
    · cases h
    · next v hv =>
      cases h
      exact ⟨v, rfl, Value.isAbsent_eq_false_iff.mpr hv, hi, rfl⟩
  · cases h

/-- An operand that could be added is a value, like all before it. -/
theorem HasOperands.addOperand {operand : Option Value} (hb : b.HasOperands)
    (h : b.addOperand i operand = (t, none)) : t.HasOperands := by
  obtain ⟨v, -, hv, -, rfl⟩ := addOperand_eq_none h
  intro j instr hj
  simp only [appendOperand, List.getElem?_modify] at hj
  obtain ⟨old, hold, rfl⟩ := Option.map_eq_some_iff.mp hj
  split
  · intro w hw
    rcases List.mem_append.mp hw with hw | hw
    · exact hb j old hold w hw
    · rw [List.mem_singleton.mp hw]
      exact hv
  · exact hb j old hold

theorem HasOperands.addOperands :
    ∀ (operands : List (Option Value)) {b t : Build}, b.HasOperands →
      b.addOperands i operands = (t, none) → t.HasOperands := by
  intro operands
  induction operands with
  | nil =>
    intro b t hb h
    cases h
    exact hb
  | cons v rest ih =>
    intro b t hb h
    simp only [Build.addOperands] at h
    split at h
    · next s hs => exact ih (hb.addOperand hs) h
    · cases h

theorem HasOperands.place {instr : Instr} {operands : List (Option Value)} {k : Nat}
    (hb : b.HasOperands) (hi : instr.operands = []) (h : b.place instr operands = (t, .ok k)) :
    t.HasOperands := by
  have hnew : ({ b with instrs := b.instrs ++ [instr] } : Build).HasOperands := by
    intro j old hj
    rw [List.getElem?_append] at hj
    split at hj
    · exact hb j old hj
    · have ho : old = instr := List.mem_singleton.mp (List.mem_of_getElem? hj)
      rw [ho, hi]
      exact fun v hv => absurd hv List.not_mem_nil
  simp only [Build.place] at h
  split at h
  · split at h
    · next s hs =>
      have hfull := HasOperands.addOperands operands hnew hs
      cases h
      exact hfull
    · cases h
  · cases h

/-- A call that makes an instruction and does not fail has made it. -/
theorem map_failure?_eq_none {r : Build × Except Failure Nat}
    (h : r.map id failure? = (t, none)) : ∃ k, r = (t, .ok k) := by
  obtain ⟨s, e | k⟩ := r
  · cases h
  · cases h
    exact ⟨k, rfl⟩

/-- A call that does not fail adds values as operands only. -/
theorem HasOperands.perform {c : Call} (hb : b.HasOperands) (h : b.perform c = (t, none)) :
    t.HasOperands := by
  cases c with
  | newBlock =>
    cases h
    exact hb
  | newConst name =>
    cases h
    exact hb
  | emit block kind name operands =>
    obtain ⟨k, hk⟩ := map_failure?_eq_none h
    exact hb.place rfl hk
  | emitVoid block kind operands =>
    obtain ⟨k, hk⟩ := map_failure?_eq_none h
    exact hb.place rfl hk
  | addOperand j operand => exact hb.addOperand h

end Build

/-! ## §2 Targets -/

/-- Whatever an instruction designates to be tainted is a value. -/
def UseDef.TargetsPresent {V I : Type} (g : UseDef V I) : Prop :=
  ∀ i t, g.taints? i = some t → g.isAbsent t = false

/-- A target is the result or an operand of its instruction. -/
theorem UseDef.taints?_cases {V I : Type} {g : UseDef V I} {i : I} {t : V}
    (h : g.taints? i = some t) : g.result i = some t ∨ t ∈ g.operands i := by
  simp only [UseDef.taints?, UseDef.target?] at h
  split at h
  · exact Or.inl h
  · right
    simp only [UseDef.operand?] at h
    split at h
    · exact List.mem_of_getElem? h
    · cases h
  · cases h

/-- Targets are values when all operands are. -/
theorem Build.HasOperands.targetsPresent {b : Build} (hb : b.HasOperands) :
    b.view.TargetsPresent := by
  intro i t h
  rcases UseDef.taints?_cases h with hr | ho
  · -- a result is an instruction
    obtain ⟨instr, -, hr⟩ := Option.bind_eq_some_iff.mp hr
    split at hr <;> cases hr
    rfl
  · simp only [view] at ho
    cases hi : b.instrs[i]? with
    | none =>
      rw [hi] at ho
      exact absurd ho List.not_mem_nil
    | some instr =>
      rw [hi] at ho
      exact hb i instr hi t ho

end ArgTaint
