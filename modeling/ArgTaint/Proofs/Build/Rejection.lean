/-
ArgTaint.Proofs.Build.Rejection — what a rejected call leaves behind.

A call that meets an operand that is no value is rejected. The operand is
looked at when its turn comes, so the uses of the operands in front of it are
recorded already, for an instruction that never enters a block; and an operand
that was looked up and does not exist is appended before it is rejected.

  §1 Failures  — a rejected call enters nothing into a block.
  §2 Traces    — what one rejected call adds, read off the call.
  §3 Runs      — the same after any calls, and when nothing is added.
-/
import ArgTaint.Proofs.Assembly

namespace ArgTaint

namespace Build

variable {b : Build} {e : Failure}

/-! ## §1 Failures -/

/-- The failure is about an operand, and not about a block or an instruction
that does not exist. -/
def Failure.IsOperand (e : Failure) : Prop := e = .nilOperand ∨ e = .absentOperand

instance (e : Failure) : Decidable e.IsOperand :=
  inferInstanceAs (Decidable (e = .nilOperand ∨ e = .absentOperand))

/-- An instruction that is rejected was made for a block that exists, has the
operands up to the rejected one, and is in no block. -/
theorem place_of_error {instr : Instr} {operands : List (Option Value)} (he : e.IsOperand)
    (h : (b.place instr operands).2 = .error e) :
    instr.block < b.blocks.length ∧
      (b.place instr operands).1 =
        (b.create instr).extend b.instrs.length (appended operands) := by
  rcases Nat.lt_or_ge instr.block b.blocks.length with hb | hb
  · rcases place_of_lt hb operands with ⟨_, hplace⟩ | hplace
    · exact ⟨hb, congrArg Prod.fst hplace⟩
    · rw [hplace] at h
      cases h
  · rw [place_of_le hb operands] at h
    cases h
    rcases he with he | he <;> cases he

/-- An operand that is rejected was meant for an instruction that exists. -/
theorem addOperand_of_failure {i : Nat} {operand : Option Value} (he : e.IsOperand)
    (h : (b.addOperand i operand).2 = some e) :
    i < b.instrs.length ∧ (operand = none ∨ ∃ sort, operand = some (.absent sort)) := by
  by_cases hi : i < b.instrs.length
  · refine ⟨hi, ?_⟩
    by_contra hv
    have valued : ∃ v, operand = some v ∧ v.isAbsent = false := by
      match operand with
      | none => exact absurd (Or.inl rfl) hv
      | some v =>
        exact ⟨v, rfl, Value.isAbsent_eq_false_iff.mpr fun sort ha =>
          hv (Or.inr ⟨sort, congrArg some ha⟩)⟩
    rw [(addOperand_eq_extend hi operand).2.mpr valued] at h
    cases h
  · simp only [addOperand, if_neg hi] at h
    cases h
    rcases he with he | he <;> cases he

/-! ## §2 Traces -/

/-- The operands of a rejected call whose uses are recorded: those of a new
instruction in front of the rejected one. -/
def Call.recorded : Call → List Value
  | .emit _ _ _ operands | .emitVoid _ _ operands => (appended operands).filter (!·.isAbsent)
  | _ => []

/-- The operands that a rejected call leaves at the instruction with the given
number: one that was looked up and does not exist. -/
def Call.appendedTo (i : Nat) : Call → List Value
  | .addOperand j (some (.absent sort)) => if j = i then [.absent sort] else []
  | _ => []

/-- The users of every value, the operands of every instruction and the
instructions of every block are the same. -/
structure Unchanged (b t : Build) : Prop where
  users : ∀ v, t.users v = b.users v
  operands : ∀ i < b.instrs.length, t.view.operands i = b.view.operands i
  blocks : t.blocks = b.blocks

/-- What is left behind: `t` is `b` after the rejected call `c`. The uses are
those of an instruction with the next number, which is in no block. -/
structure Leaves (b : Build) (c : Call) (t : Build) : Prop where
  users : ∀ v, t.users v =
    b.users v ++ (c.recorded.filter (· = v)).map fun _ => b.instrs.length
  operands : ∀ i < b.instrs.length,
    t.view.operands i = b.view.operands i ++ c.appendedTo i
  blocks : t.blocks = b.blocks
  unplaced : b.instrs.length ∉ t.placed

/-- A call adds the uses that it makes to the users of a value. -/
theorem users_perform (h : b.Consistent) (c : Call) (v : Value) :
    (b.perform c).1.users v =
      b.users v ++ ((b.usesMade c).filter fun u => u.1 = v).map Prod.snd := by
  rw [(h.perform c).recorded.users_eq, h.recorded.users_eq, uses_perform, List.filter_append,
    List.map_append]

/-- The uses of a value among the operands of one instruction. -/
theorem map_snd_filter_pair (vs : List Value) (v : Value) (i : Nat) :
    ((vs.map (·, i)).filter fun u => u.1 = v).map Prod.snd =
      (vs.filter (· = v)).map fun _ => i := by
  rw [List.filter_map, List.map_map]
  rfl

/-- The number that is next is in no block. -/
theorem length_notMem_placed (h : b.Consistent) : b.instrs.length ∉ b.placed :=
  fun hm => Nat.lt_irrefl _ (h.placed.lt_of_mem hm)

/-- A rejected instruction leaves the uses of the operands in front of the
rejected one. -/
theorem leaves_of_place (h : b.Consistent) {c : Call} {instr : Instr}
    {operands : List (Option Value)} (he : e.IsOperand) (hn : instr.operands = [])
    (hc : (b.perform c).1 = (b.place instr operands).1)
    (hr : (b.place instr operands).2 = .error e)
    (hm : b.usesMade c = if instr.block < b.blocks.length then
      ((appended operands).filter (!·.isAbsent)).map (·, b.instrs.length) else [])
    (hrec : c.recorded = (appended operands).filter (!·.isAbsent))
    (happ : ∀ i, c.appendedTo i = []) : b.Leaves c (b.perform c).1 := by
  obtain ⟨hb, ht⟩ := place_of_error he hr
  have hi : b.instrs.length < (b.create instr).instrs.length := by simp [create]
  have hblocks : (b.perform c).1.blocks = b.blocks := by rw [hc, ht]; rfl
  refine ⟨fun v => ?_, fun i hlt => ?_, hblocks, ?_⟩
  · rw [users_perform h, hm, if_pos hb, map_snd_filter_pair, hrec]
  · rw [hc, ht, operands_extend _ hi, operands_create _ hn, if_neg (Nat.ne_of_gt hlt), happ]
  · rw [placed, hblocks]
    exact length_notMem_placed h

/-- What a rejected call leaves behind can be read off the call. -/
theorem leaves_of_rejected (h : b.Consistent) {c : Call} (he : e.IsOperand)
    (hr : (b.perform c).2 = some e) : b.Leaves c (b.perform c).1 := by
  have rejected {r : Build × Except Failure Nat} (hr : (r.map id failure?).2 = some e) :
      r.2 = .error e := by
    obtain ⟨t, f | k⟩ := r
    · cases hr
      rfl
    · cases hr
  cases c with
  | newBlock => cases hr
  | newConst name => cases hr
  | emit block kind name operands =>
    exact leaves_of_place h he rfl rfl (rejected hr) rfl rfl fun _ => rfl
  | emitVoid block kind operands =>
    exact leaves_of_place h he rfl rfl (rejected hr) rfl rfl fun _ => rfl
  | addOperand j operand =>
    obtain ⟨hj, ho⟩ := addOperand_of_failure he hr
    have ht : (b.perform (.addOperand j operand)).1 = b.extend j (appended [operand]) :=
      (addOperand_eq_extend hj operand).1
    have hblocks : (b.perform (.addOperand j operand)).1.blocks = b.blocks := by rw [ht]; rfl
    refine ⟨fun v => ?_, fun i _ => ?_, hblocks, ?_⟩
    · have hmade : b.usesMade (.addOperand j operand) = [] := by
        rcases ho with rfl | ⟨sort, rfl⟩ <;> simp [usesMade, appended, Value.isAbsent]
      rw [users_perform h, hmade]
      rfl
    · rw [ht, operands_extend _ hj]
      rcases ho with rfl | ⟨sort, rfl⟩
      · simp [appended, Call.appendedTo]
      · rfl
    · rw [placed, hblocks]
      exact length_notMem_placed h

/-- The call is rejected before it has done anything: the first operand of a
new instruction is no value, or what is added to one is nothing at all. -/
def Call.rejectsAtOnce : Call → Bool
  | .emit _ _ _ operands | .emitVoid _ _ operands =>
    operands.head?.any fun operand => operand.all Value.isAbsent
  | .addOperand _ operand => operand.isNone
  | _ => false

/-- No use is recorded when there is no operand, or the first one is no value.
-/
theorem filter_appended_eq_nil {operands : List (Option Value)} :
    (appended operands).filter (!·.isAbsent) = [] ↔
      operands = [] ∨
        operands.head?.any (fun operand => operand.all Value.isAbsent) = true := by
  match operands with
  | [] => simp [appended]
  | none :: rest => simp [appended]
  | some v :: rest => cases hv : v.isAbsent <;> simp [appended, hv]

/-- A function is as it was when nothing was recorded and nothing appended. -/
theorem Leaves.unchanged_iff {c : Call} {t : Build} (h : b.Leaves c t) :
    b.Unchanged t ↔ c.recorded = [] ∧ ∀ i < b.instrs.length, c.appendedTo i = [] := by
  constructor
  · intro u
    refine ⟨List.eq_nil_iff_forall_not_mem.mpr fun v hv => ?_, fun i hi => ?_⟩
    · have hsame := (h.users v).symm.trans (u.users v)
      rw [List.append_right_eq_self, List.map_eq_nil_iff] at hsame
      have hmem : v ∈ c.recorded.filter (· = v) := List.mem_filter.mpr ⟨hv, by simp⟩
      rw [hsame] at hmem
      cases hmem
    · exact List.append_right_eq_self.mp ((h.operands i hi).symm.trans (u.operands i hi))
  · rintro ⟨hrec, happ⟩
    refine ⟨fun v => ?_, fun i hi => ?_, h.blocks⟩
    · rw [h.users v, hrec]
      exact List.append_nil _
    · rw [h.operands i hi, happ i hi, List.append_nil]

/-- A rejected call leaves a function as it was exactly when it is rejected at
once. -/
theorem unchanged_iff_rejectsAtOnce (h : b.Consistent) {c : Call} (he : e.IsOperand)
    (hr : (b.perform c).2 = some e) :
    b.Unchanged (b.perform c).1 ↔ c.rejectsAtOnce = true := by
  have placing {operands : List (Option Value)} (hne : operands ≠ []) :
      ((appended operands).filter (!·.isAbsent) = [] ∧
        ∀ i < b.instrs.length, ([] : List Value) = []) ↔
        operands.head?.any (fun operand => operand.all Value.isAbsent) = true := by
    rw [filter_appended_eq_nil, or_iff_right hne]
    simp
  have nonempty {instr : Instr} {operands : List (Option Value)}
      (hr : ((b.place instr operands).map id failure?).2 = some e) : operands ≠ [] := by
    rintro rfl
    simp only [place, addOperands] at hr
    split at hr
    · cases hr
    · cases hr
      rcases he with he | he <;> cases he
  rw [(leaves_of_rejected h he hr).unchanged_iff]
  cases c with
  | newBlock => cases hr
  | newConst name => cases hr
  | emit block kind name operands => exact placing (nonempty hr)
  | emitVoid block kind operands => exact placing (nonempty hr)
  | addOperand j operand =>
    obtain ⟨hj, rfl | ⟨sort, rfl⟩⟩ := addOperand_of_failure he hr
    · exact iff_of_true ⟨rfl, fun _ _ => rfl⟩ rfl
    · refine iff_of_false (fun hnil => ?_) Bool.false_ne_true
      have hself := hnil.2 j hj
      simp [Call.appendedTo] at hself

end Build

/-! ## §3 Runs -/

namespace Assembly

/-- The call on the graph that a call on the functions amounts to. -/
def Call.graphCall? : Call → Option Build.Call
  | .newFunction _ _ | .newBlock _ => none
  | .newConst name => some (.newConst name)
  | .emit block kind name operands => some (.emit block kind name operands)
  | .emitVoid block kind operands => some (.emitVoid block kind operands)
  | .addOperand instr operand => some (.addOperand instr operand)

theorem perform_of_graphCall? (a : Assembly) {c : Call} {g : Build.Call}
    (h : c.graphCall? = some g) : a.perform c = a.onGraph g := by
  cases c <;> cases h <;> rfl

/-- A call that is rejected for an operand is a call on the graph. -/
theorem exists_graphCall? {a : Assembly} {c : Call} {e : Build.Failure} (he : e.IsOperand)
    (hr : (a.perform c).2 = some e) : ∃ g, c.graphCall? = some g := by
  cases c with
  | newFunction name params => cases hr
  | newBlock function =>
    simp only [perform, newBlock] at hr
    split at hr
    · cases hr
      rcases he with he | he <;> cases he
    · cases hr
  | newConst name => exact ⟨_, rfl⟩
  | emit block kind name operands => exact ⟨_, rfl⟩
  | emitVoid block kind operands => exact ⟨_, rfl⟩
  | addOperand instr operand => exact ⟨_, rfl⟩

/-- **What a rejected call leaves behind**, after any calls, rejected ones
included: the functions and the blocks as they were, for each operand in front
of the rejected one a use by an instruction that is in no block, and at an
instruction what was looked up and does not exist, when that was to be added.
So the graph is as it was if and only if the call is rejected at once. -/
theorem rejected_unchanged_iff (calls : List Call) (c : Call) (e : Build.Failure)
    (operand : e.IsOperand) (rejected : ((empty.run calls).perform c).2 = some e) :
    let a := empty.run calls
    let t := (a.perform c).1
    ∃ g, c.graphCall? = some g ∧ t.functions = a.functions ∧ t.blocks = a.blocks ∧
      a.graph.Leaves g t.graph ∧ (a.graph.Unchanged t.graph ↔ g.rejectsAtOnce = true) := by
  intro a t
  obtain ⟨g, hg⟩ := exists_graphCall? operand rejected
  have consistent : a.graph.Consistent := (wellFormed_empty.run calls).consistent
  have ht : t = (a.onGraph g).1 := congrArg Prod.fst (perform_of_graphCall? a hg)
  have hr : (a.graph.perform g).2 = some e := by
    rw [perform_of_graphCall? _ hg] at rejected
    exact rejected
  rw [ht]
  exact ⟨g, hg, rfl, rfl, Build.leaves_of_rejected consistent operand hr,
    Build.unchanged_iff_rejectsAtOnce consistent operand hr⟩

/-- A function with one parameter and one instruction that uses it. -/
def oneLoad : List Call :=
  [.newFunction "f" ["x"], .newBlock 0, .emit 0 .load "w" [some (.param 0)]]

/-- The second instruction is rejected for its second operand, and uses the
parameter all the same. -/
theorem rejected_unchanged_secondOperand :
    let a := empty.run oneLoad
    let c : Call := .emit 0 .binaryOp "q" [some (.param 0), none]
    (a.perform c).2 = some .nilOperand ∧
      ∃ g, c.graphCall? = some g ∧ a.graph.Leaves g (a.perform c).1.graph ∧
        (a.graph.Unchanged (a.perform c).1.graph ↔ g.rejectsAtOnce = true) := by
  have failed :
      ((empty.run oneLoad).perform (.emit 0 .binaryOp "q" [some (.param 0), none])).2 =
      some .nilOperand := by decide
  obtain ⟨g, hg, -, -, leaves, unchanged⟩ :=
    rejected_unchanged_iff oneLoad _ _ (by decide) failed
  exact ⟨failed, g, hg, leaves, unchanged⟩

/-- Rejected calls can leave a user outside of all blocks, and a parameter that
does not exist as operand. -/
theorem not_unchanged_of_rejected :
    ∃ (calls : List Call) (c d : Call),
      let a := empty.run calls
      let t := (a.perform c).1.graph
      let u := (a.perform d).1.graph
      (a.perform c).2 = some .nilOperand ∧ a.graph.users (.param 0) = [0] ∧
        t.users (.param 0) = [0, 1] ∧ t.placed = [0] ∧ ¬ a.graph.Unchanged t ∧
      (a.perform d).2 = some .absentOperand ∧ a.graph.view.operands 0 = [.param 0] ∧
        u.view.operands 0 = [.param 0, .absent .param] ∧ ¬ a.graph.Unchanged u := by
  refine ⟨oneLoad, .emit 0 .binaryOp "q" [some (.param 0), none],
    .addOperand 0 (some (.absent .param)), by decide, by decide, by decide, by decide,
    fun h => ?_, by decide, by decide, by decide, fun h => ?_⟩
  · exact absurd (h.users (.param 0)) (by decide)
  · exact absurd (h.operands 0 (by decide)) (by decide)

end Assembly

end ArgTaint
