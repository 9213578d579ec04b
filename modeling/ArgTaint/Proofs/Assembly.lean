/-
ArgTaint.Proofs.Assembly — functions that share one graph stay consistent.

Functions built side by side share the graph in which uses are recorded, so
that an instruction of one may use a value of another. The graph keeps uses
and operands, blocks and instructions in step, whatever the calls; what is
left to show is that each block is listed by its own function, at its index.

  §1 One function — an assembly of one function is that function.
  §2 Uses         — the uses that calls make, in the order of the calls.
  §3 Blocks       — the blocks of the graph against those of the functions.
  §4 Instructions — a function lists the instructions of its blocks once.
  §5 Runs         — the result for any calls, refused ones included.
-/
import ArgTaint.Assembly
import ArgTaint.Proofs.Build.Uses
import Mathlib.Data.List.Nodup

namespace ArgTaint

/-! ## §1 One function -/

namespace Build

def rename (b : Build) (name : String) : Build := { b with name := name }

theorem addOperand_rename (b : Build) (name : String) (i : Nat) (operand : Option Value) :
    (b.rename name).addOperand i operand = (b.addOperand i operand).map (rename · name) id := by
  have hl : (b.rename name).instrs.length = b.instrs.length := rfl
  unfold addOperand
  rw [hl]
  split
  · split <;> rfl
  · rfl

theorem addOperands_rename (name : String) (i : Nat) :
    ∀ (operands : List (Option Value)) (b : Build),
      (b.rename name).addOperands i operands =
        (b.addOperands i operands).map (rename · name) id := by
  intro operands
  induction operands with
  | nil => intro b; rfl
  | cons operand rest ih =>
    intro b
    simp only [addOperands, addOperand_rename]
    rcases b.addOperand i operand with ⟨t, _ | e⟩
    · exact ih t
    · rfl

/-- Placing an instruction does not look at the name of the function. -/
theorem place_rename (b : Build) (name : String) (instr : Instr)
    (operands : List (Option Value)) :
    (b.rename name).place instr operands = (b.place instr operands).map (rename · name) id := by
  have hb : (b.rename name).blocks.length = b.blocks.length := rfl
  have hi : (b.rename name).instrs.length = b.instrs.length := rfl
  have hc : { b.rename name with instrs := (b.rename name).instrs ++ [instr] } =
      (b.create instr).rename name := rfl
  have hc' : { b with instrs := b.instrs ++ [instr] } = b.create instr := rfl
  simp only [place, hb, hi, hc, hc', addOperands_rename]
  split
  · rcases (b.create instr).addOperands b.instrs.length operands with ⟨t, _ | e⟩ <;> rfl
  · rfl

/-- No call looks at the name of the function. -/
theorem perform_rename (b : Build) (name : String) (c : Call) :
    ((b.rename name).perform c).1 = (b.perform c).1.rename name := by
  cases c with
  | newBlock => rfl
  | newConst _ => rfl
  | emit block kind _ operands =>
    exact congrArg Prod.fst (place_rename b name ⟨_, kind, [], block, false⟩ operands)
  | emitVoid block kind operands =>
    exact congrArg Prod.fst (place_rename b name ⟨_, kind, [], block, true⟩ operands)
  | addOperand i operand => exact congrArg Prod.fst (addOperand_rename b name i operand)

end Build

namespace Assembly

/-- The call that builds the first function of an assembly. -/
def Call.ofFirst : Build.Call → Call
  | .newBlock => .newBlock 0
  | .newConst name => .newConst name
  | .emit block kind name operands => .emit block kind name operands
  | .emitVoid block kind operands => .emitVoid block kind operands
  | .addOperand instr operand => .addOperand instr operand

/-- A call to the first function changes the graph as the call itself would. -/
theorem perform_ofFirst {a : Assembly} (h : a.functions ≠ []) (c : Build.Call) :
    (a.perform (.ofFirst c)).1.graph = (a.graph.perform c).1 ∧
      (a.perform (.ofFirst c)).1.functions ≠ [] := by
  cases c with
  | newBlock =>
    obtain ⟨f, rest, hf⟩ := List.exists_cons_of_ne_nil h
    simp [Call.ofFirst, perform, newBlock, hf, Build.perform]
  | newConst name => exact ⟨rfl, h⟩
  | emit block kind name operands => exact ⟨rfl, h⟩
  | emitVoid block kind operands => exact ⟨rfl, h⟩
  | addOperand instr operand => exact ⟨rfl, h⟩

/-- Calls to the first function build its graph. -/
theorem graph_run_ofFirst (name : String) :
    ∀ (calls : List Build.Call) (a : Assembly) (b : Build), a.functions ≠ [] →
      a.graph = b.rename name →
        (a.run (calls.map .ofFirst)).graph = (b.run calls).rename name := by
  intro calls
  induction calls with
  | nil => intro a b _ he; exact he
  | cons c rest ih =>
    intro a b hne he
    obtain ⟨hg, hf⟩ := perform_ofFirst hne c
    rw [he, Build.perform_rename] at hg
    exact ih (a.perform (.ofFirst c)).1 (b.perform c).1 hf hg

/-- An assembly of one function has the graph of that function. -/
theorem graph_run_single (name : String) (params : List String) (calls : List Build.Call) :
    (empty.run (.newFunction name params :: calls.map .ofFirst)).graph =
      ((Build.new name params).run calls).rename "" :=
  graph_run_ofFirst "" calls (empty.newFunction name params) (.new name params)
    (List.cons_ne_nil _ _) rfl

/-! ## §2 Uses -/

/-- The uses that a call makes, in order. -/
def usesMade (a : Assembly) : Call → List (Build.Value × Nat)
  | .newFunction _ _ | .newBlock _ | .newConst _ => []
  | .emit block kind name operands => a.graph.usesMade (.emit block kind name operands)
  | .emitVoid block kind operands => a.graph.usesMade (.emitVoid block kind operands)
  | .addOperand instr operand => a.graph.usesMade (.addOperand instr operand)

/-- The uses that calls make, in the order in which they are made. -/
def usesDuring (a : Assembly) : List Call → List (Build.Value × Nat)
  | [] => []
  | c :: rest => a.usesMade c ++ (a.perform c).1.usesDuring rest

/-- A call records the uses that it makes, after those recorded before. -/
theorem uses_perform (a : Assembly) (c : Call) :
    (a.perform c).1.graph.uses = a.graph.uses ++ a.usesMade c := by
  cases c with
  | newFunction name params => exact (List.append_nil _).symm
  | newBlock function =>
    simp only [perform, newBlock]
    split <;> exact (List.append_nil _).symm
  | newConst name => exact (List.append_nil _).symm
  | emit block kind name operands =>
    exact Build.uses_perform a.graph (.emit block kind name operands)
  | emitVoid block kind operands =>
    exact Build.uses_perform a.graph (.emitVoid block kind operands)
  | addOperand instr operand => exact Build.uses_perform a.graph (.addOperand instr operand)

/-- Calls record the uses that they make, in their order. -/
theorem uses_run :
    ∀ (calls : List Call) (a : Assembly),
      (a.run calls).graph.uses = a.graph.uses ++ a.usesDuring calls := by
  intro calls
  induction calls with
  | nil => intro a; exact (List.append_nil _).symm
  | cons c rest ih =>
    intro a
    have hrun : a.run (c :: rest) = (a.perform c).1.run rest := rfl
    rw [hrun, ih, uses_perform, List.append_assoc, usesDuring]

/-! ## §3 Blocks -/

/-- The graph is consistent, and the blocks that a function lists are the
blocks that belong to it, at their indices. -/
structure WellFormed (a : Assembly) : Prop where
  consistent : a.graph.Consistent
  length_blocks : a.blocks.length = a.graph.blocks.length
  listed : ∀ (n : Nat) f, a.functions[n]? = some f →
    ∀ (k number : Nat), f.blocks[k]? = some number → a.blocks[number]? = some ⟨k, n⟩
  lists : ∀ (number : Nat) block, a.blocks[number]? = some block →
    ∃ f, a.functions[block.parent]? = some f ∧ f.blocks[block.index]? = some number

theorem wellFormed_empty : empty.WellFormed where
  consistent := Build.consistent_new "" []
  length_blocks := rfl
  listed n f h := by simp [empty] at h
  lists number block h := by simp [empty] at h

variable {a : Assembly}

theorem WellFormed.newFunction (h : a.WellFormed) (name : String) (params : List String) :
    (a.newFunction name params).WellFormed where
  consistent := ⟨h.consistent.recorded, h.consistent.placed.block_eq, h.consistent.placed.nodup⟩
  length_blocks := h.length_blocks
  listed n f hf k number hk := by
    rcases Build.getElem?_concat_eq_some.mp hf with hf | ⟨-, rfl⟩
    · exact h.listed n f hf k number hk
    · simp at hk
  lists number block hb := by
    obtain ⟨f, hf, hk⟩ := h.lists number block hb
    exact ⟨f, Build.getElem?_concat_eq_some.mpr (Or.inl hf), hk⟩

/-- The new block has the next number in the graph and the next index in its
function. -/
theorem newBlock_of_function {function : Nat} {f : Function}
    (hf : a.functions[function]? = some f) :
    (a.newBlock function).1 =
      { graph := a.graph.newBlock.1
        functions :=
          a.functions.set function { f with blocks := f.blocks ++ [a.graph.blocks.length] }
        blocks := a.blocks ++ [⟨f.blocks.length, function⟩] } := by
  simp only [newBlock, hf, Build.newBlock]

theorem WellFormed.newBlock (h : a.WellFormed) (function : Nat) :
    (a.newBlock function).1.WellFormed := by
  cases hf : a.functions[function]? with
  | none =>
    simp only [Assembly.newBlock, hf]
    exact h
  | some f =>
    have hlt := (List.getElem?_eq_some_iff.mp hf).1
    rw [newBlock_of_function hf]
    refine ⟨h.consistent.perform .newBlock, ?_, ?_, ?_⟩
    · simp [Build.newBlock, h.length_blocks]
    · intro n g hg k number hk
      by_cases hn : function = n
      · subst hn
        rw [List.getElem?_set_self hlt] at hg
        cases hg
        rcases Build.getElem?_concat_eq_some.mp hk with hk | ⟨rfl, rfl⟩
        · exact Build.getElem?_concat_eq_some.mpr (Or.inl (h.listed function f hf k number hk))
        · exact Build.getElem?_concat_eq_some.mpr (Or.inr ⟨h.length_blocks.symm, rfl⟩)
      · rw [List.getElem?_set_ne hn] at hg
        exact Build.getElem?_concat_eq_some.mpr (Or.inl (h.listed n g hg k number hk))
    · intro number block hb
      rcases Build.getElem?_concat_eq_some.mp hb with hb | ⟨rfl, rfl⟩
      · obtain ⟨g, hg, hk⟩ := h.lists number block hb
        by_cases hn : function = block.parent
        · rw [← hn] at hg ⊢
          rw [hf] at hg
          cases hg
          exact ⟨_, List.getElem?_set_self hlt, Build.getElem?_concat_eq_some.mpr (Or.inl hk)⟩
        · exact ⟨g, (List.getElem?_set_ne hn).trans hg, hk⟩
      · exact ⟨_, List.getElem?_set_self hlt,
          Build.getElem?_concat_eq_some.mpr (Or.inr ⟨rfl, h.length_blocks.symm⟩)⟩

theorem WellFormed.onGraph (h : a.WellFormed) {c : Build.Call} (hc : c ≠ .newBlock) :
    (a.onGraph c).1.WellFormed where
  consistent := h.consistent.perform c
  length_blocks := h.length_blocks.trans (Build.length_blocks_perform a.graph hc).symm
  listed := h.listed
  lists := h.lists

/-- Every call keeps an assembly well-formed, also when it fails. -/
theorem WellFormed.perform (h : a.WellFormed) (c : Call) : (a.perform c).1.WellFormed := by
  cases c with
  | newFunction name params => exact h.newFunction name params
  | newBlock function => exact h.newBlock function
  | newConst name => exact h.onGraph (by simp)
  | emit block kind name operands => exact h.onGraph (by simp)
  | emitVoid block kind operands => exact h.onGraph (by simp)
  | addOperand instr operand => exact h.onGraph (by simp)

theorem WellFormed.run :
    ∀ (calls : List Call) {a : Assembly}, a.WellFormed → (a.run calls).WellFormed := by
  intro calls
  induction calls with
  | nil => intro a h; exact h
  | cons c rest ih => intro a h; exact ih (h.perform c)

/-! ## §4 Instructions -/

/-- A function lists no block twice. -/
theorem WellFormed.nodup_blocks (h : a.WellFormed) {n : Nat} {f : Function}
    (hf : a.functions[n]? = some f) : f.blocks.Nodup := by
  rw [List.nodup_iff_injective_get]
  intro k l hkl
  have hk := h.listed n f hf k _ (List.getElem?_eq_getElem k.isLt)
  have hl := h.listed n f hf l _ (List.getElem?_eq_getElem l.isLt)
  have heq : f.blocks[k.val] = f.blocks[l.val] := hkl
  rw [heq, hl] at hk
  have hindex := congrArg Block.index (Option.some.inj hk)
  exact Fin.ext hindex.symm

/-- A function lists each of its instructions once. -/
theorem WellFormed.nodup_instrsOf (h : a.WellFormed) {n : Nat} {f : Function}
    (hf : a.functions[n]? = some f) : (a.instrsOf f).Nodup := by
  have placed := h.consistent.placed
  have block_of {number i : Nat} (hi : i ∈ a.graph.blocks[number]?.getD []) :
      (a.graph.instrs.map Build.Instr.block)[i]? = some number := by
    cases hb : a.graph.blocks[number]? with
    | none => rw [hb] at hi; cases hi
    | some instrs => rw [hb] at hi; exact placed.block_eq number instrs hb i hi
  refine List.nodup_flatMap.mpr ⟨fun number _ => ?_, ?_⟩
  · cases hb : a.graph.blocks[number]? with
    | none => exact List.nodup_nil
    | some instrs =>
      exact (List.nodup_flatten.mp placed.nodup).1 instrs (List.mem_of_getElem? hb)
  · refine (h.nodup_blocks hf).imp fun {k l} hne i hk hl => hne ?_
    exact Option.some.inj ((block_of hk).symm.trans (block_of hl))

/-! ## §5 Runs -/

/-- **Use-def edges are consistent** after any calls that build functions, side
by side and with values of one another, including calls that fail half-way.
An instruction occurs among the users of a value as often as the value occurs
among its operands, and the users are in the order in which the uses were
made. An instruction in a block was made for that block and occurs once among
the instructions of the function that the block belongs to; and the blocks of a
function have their positions as indices. -/
theorem useDef_consistent (calls : List Call) :
    let a := empty.run calls
    (∀ v : Build.Value, v.isAbsent = false → ∀ i instr, a.graph.instrs[i]? = some instr →
      (a.graph.users v).count i = instr.operands.count v) ∧
    (∀ v, a.graph.users v = ((empty.usesDuring calls).filter fun u => u.1 = v).map Prod.snd) ∧
    (∀ (number : Nat) instrs, a.graph.blocks[number]? = some instrs → ∀ i ∈ instrs,
      (∃ instr, a.graph.instrs[i]? = some instr ∧ instr.block = number) ∧
      ∃ block f, a.blocks[number]? = some block ∧ a.functions[block.parent]? = some f ∧
        (a.instrsOf f).count i = 1) ∧
    ∀ (n : Nat) f, a.functions[n]? = some f → ∀ (k number : Nat), f.blocks[k]? = some number →
      ∃ block, a.blocks[number]? = some block ∧ block.index = k ∧ block.parent = n := by
  intro a
  have h : a.WellFormed := wellFormed_empty.run calls
  refine ⟨?_, ?_, ?_, ?_⟩
  · intro v hv i instr hi
    rw [h.consistent.recorded.count_users hv]
    simp only [Build.view, hi, Option.map_some, Option.getD_some]
  · intro v
    rw [h.consistent.recorded.users_eq, uses_run calls empty]
    rfl
  · intro number instrs hb i hi
    have hmade := h.consistent.placed.block_eq number instrs hb i hi
    rw [List.getElem?_map, Option.map_eq_some_iff] at hmade
    have hlt : number < a.blocks.length := by
      rw [h.length_blocks]
      exact (List.getElem?_eq_some_iff.mp hb).1
    obtain ⟨f, hf, hk⟩ := h.lists number _ (List.getElem?_eq_getElem hlt)
    refine ⟨hmade, _, f, List.getElem?_eq_getElem hlt, hf, ?_⟩
    refine List.count_eq_one_of_mem (h.nodup_instrsOf hf) (List.mem_flatMap.mpr ?_)
    exact ⟨number, List.mem_of_getElem? hk, by rw [hb]; exact hi⟩
  · intro n f hf k number hk
    exact ⟨_, h.listed n f hf k number hk, rfl, rfl⟩

/-- Two functions that share a parameter, with an instruction that uses itself
and one whose second operand is missing. -/
def crossing : List Call :=
  [.newFunction "f" ["x"], .newFunction "g" ["y"], .newBlock 0, .newBlock 1, .newBlock 0,
    .emit 0 .phi "p" [some (.param 0)], .addOperand 0 (some (.instr 0)),
    .emit 1 .binaryOp "q" [some (.param 0), none, some (.param 1)],
    .emit 2 .binaryOp "r" [some (.param 0), some (.param 0)], .addOperand 0 (some (.instr 2))]

/-- The instruction that never entered a block still uses its first operand. -/
theorem useDef_consistent_crossing :
    let a := empty.run crossing
    a.graph.blocks = [[0], [], [2]] ∧
      a.graph.instrs[1]? = some ⟨"%q", .binaryOp, [.param 0], 1, false⟩ ∧
      a.graph.users (.param 0) = [0, 1, 2, 2] ∧
      (a.graph.users (.param 0)).count 1 = [Build.Value.param 0].count (.param 0) := by
  have made : (empty.run crossing).graph.instrs[1]? =
      some ⟨"%q", .binaryOp, [.param 0], 1, false⟩ := by decide
  exact ⟨by decide, made, by decide,
    (useDef_consistent crossing).1 (.param 0) (by decide) 1 _ made⟩

end Assembly

end ArgTaint
