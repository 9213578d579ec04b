/-
ArgTaint.Proofs.Assembly.Construction — functions that were built without a
failure.

When no call fails, every operand is a value, and every instruction that was
made has entered its block, so the functions list all the instructions there
are.

  §1 Settled       — instructions enter their blocks, call by call.
  §2 Constructions — what calls that do not fail keep.
-/
import ArgTaint.Proofs.Assembly
import ArgTaint.Proofs.Build

namespace ArgTaint

/-! ## §1 Settled -/

namespace Build

variable {b t : Build}

/-- Every instruction is in a block. -/
def Settled (b : Build) : Prop := ∀ i < b.instrs.length, i ∈ b.placed

theorem settled_new (name : String) (params : List String) : (Build.new name params).Settled :=
  fun i hi => absurd hi (Nat.not_lt_zero i)

/-- An instruction whose operands could all be added enters its block. -/
theorem place_of_ok {instr : Instr} {operands : List (Option Value)} {k : Nat}
    (h : b.place instr operands = (t, .ok k)) :
    instr.block < b.blocks.length ∧
      t = ((b.create instr).extend b.instrs.length (appended operands)).enter instr.block
        b.instrs.length := by
  rcases Nat.lt_or_ge instr.block b.blocks.length with hb | hb
  · rcases place_of_lt hb operands with ⟨_, hplace⟩ | hplace
    · cases hplace.symm.trans h
    · exact ⟨hb, (congrArg Prod.fst (hplace.symm.trans h)).symm⟩
  · cases (place_of_le hb operands).symm.trans h

/-- An instruction that could be placed is in a block, like all before it. -/
theorem Settled.place {instr : Instr} {operands : List (Option Value)} {k : Nat}
    (hb : b.Settled) (h : b.place instr operands = (t, .ok k)) : t.Settled := by
  obtain ⟨hblock, rfl⟩ := place_of_ok h
  intro i hi
  have hperm := flatten_modify_perm b.blocks instr.block b.instrs.length hblock
  refine hperm.mem_iff.mpr ?_
  have hlt : i < b.instrs.length + 1 := by
    simpa [enter, create] using hi
  rcases Nat.lt_succ_iff_lt_or_eq.mp hlt with hold | rfl
  · exact List.mem_cons_of_mem _ (hb i hold)
  · exact List.mem_cons_self

/-- A call that does not fail leaves every instruction in a block. -/
theorem Settled.perform {c : Call} (hb : b.Settled) (h : b.perform c = (t, none)) :
    t.Settled := by
  cases c with
  | newBlock =>
    cases h
    intro i hi
    have hold : i ∈ b.placed := hb i hi
    simpa [placed, newBlock] using hold
  | newConst name =>
    cases h
    exact hb
  | emit block kind name operands =>
    obtain ⟨k, hk⟩ := map_failure?_eq_none h
    exact hb.place hk
  | emitVoid block kind operands =>
    obtain ⟨k, hk⟩ := map_failure?_eq_none h
    exact hb.place hk
  | addOperand j operand =>
    obtain ⟨v, -, -, -, rfl⟩ := addOperand_eq_none h
    intro i hi
    exact hb i (by simpa [appendOperand] using hi)

end Build

/-! ## §2 Constructions -/

namespace Assembly

variable {a t : Assembly}

/-- A construction is a run in which no call fails. -/
theorem run_of_construct :
    ∀ (calls : List Call) {a : Assembly}, a.construct calls = .ok t → a.run calls = t := by
  intro calls
  induction calls with
  | nil =>
    intro a h
    exact Except.ok.inj h
  | cons c rest ih =>
    intro a h
    simp only [construct] at h
    split at h
    · next s hs =>
      have hrun : a.run (c :: rest) = s.run rest := by
        rw [run, List.foldl_cons, hs]
        rfl
      exact hrun.trans (ih h)
    · cases h

/-- What new parameters and calls on a graph keep, when they do not fail, a
call keeps. -/
theorem graph_of_perform {P : Build → Prop}
    (params : ∀ (b : Build) (names : List String), P b → P { b with params := names })
    (call : ∀ (b t : Build) (c : Build.Call), P b → b.perform c = (t, none) → P t)
    {c : Call} (ha : P a.graph) (h : a.perform c = (t, none)) : P t.graph := by
  have onGraph {g : Build.Call} (h : a.onGraph g = (t, none)) : P t.graph := by
    obtain ⟨rfl, hnone⟩ := Prod.mk.inj h
    exact call a.graph _ g ha (Prod.ext rfl hnone)
  cases c with
  | newFunction name names =>
    cases h
    exact params a.graph _ ha
  | newBlock function =>
    simp only [perform, newBlock] at h
    split at h
    · cases h
    · cases h
      exact call a.graph _ .newBlock ha rfl
  | newConst name => exact onGraph h
  | emit block kind name operands => exact onGraph h
  | emitVoid block kind operands => exact onGraph h
  | addOperand instr operand => exact onGraph h

/-- What calls keep, when they do not fail, a construction keeps. -/
theorem graph_of_construct {P : Build → Prop}
    (params : ∀ (b : Build) (names : List String), P b → P { b with params := names })
    (call : ∀ (b t : Build) (c : Build.Call), P b → b.perform c = (t, none) → P t) :
    ∀ (calls : List Call) {a : Assembly}, P a.graph → a.construct calls = .ok t →
      P t.graph := by
  intro calls
  induction calls with
  | nil =>
    intro a ha h
    rw [← Except.ok.inj h]
    exact ha
  | cons c rest ih =>
    intro a ha h
    simp only [construct] at h
    split at h
    · next s hs => exact ih (graph_of_perform params call ha hs) h
    · cases h

/-- When no call failed, every operand is a value. -/
theorem hasOperands_of_construct {calls : List Call} (h : empty.construct calls = .ok t) :
    t.graph.HasOperands :=
  graph_of_construct (fun _ _ hb => hb) (fun _ _ _ hb hc => hb.perform hc) calls
    (Build.hasOperands_new "" []) h

/-- When no call failed, every instruction is in a block. -/
theorem settled_of_construct {calls : List Call} (h : empty.construct calls = .ok t) :
    t.graph.Settled :=
  graph_of_construct (fun _ _ hb => hb) (fun _ _ _ hb hc => hb.perform hc) calls
    (Build.settled_new "" []) h

theorem wellFormed_of_construct {calls : List Call} (h : empty.construct calls = .ok t) :
    t.WellFormed := by
  rw [← run_of_construct calls h]
  exact wellFormed_empty.run calls

/-- An instruction in a block is listed by the function of the block. -/
theorem WellFormed.exists_mem_instrsOf (h : a.WellFormed) {i : Nat} (hi : i ∈ a.graph.placed) :
    ∃ f ∈ a.functions, i ∈ a.instrsOf f := by
  obtain ⟨instrs, hinstrs, hi⟩ := List.mem_flatten.mp hi
  obtain ⟨number, hnumber⟩ := List.mem_iff_getElem?.mp hinstrs
  have hlt : number < a.blocks.length := by
    rw [h.length_blocks]
    exact (List.getElem?_eq_some_iff.mp hnumber).1
  obtain ⟨f, hf, hk⟩ := h.lists number _ (List.getElem?_eq_getElem hlt)
  refine ⟨f, List.mem_of_getElem? hf, List.mem_flatMap.mpr ?_⟩
  exact ⟨number, List.mem_of_getElem? hk, by rw [hnumber]; exact hi⟩

end Assembly

end ArgTaint
