/-
ArgTaint.Proofs.Build.Uses — uses and operands are two sides of the same edges.

Adding an operand changes an instruction and then records a use, and a call
may fail in between or between two operands. Whatever the calls were, the uses
that are recorded are the operands that are values, and they are recorded in
the order in which the calls made them. Instructions enter blocks last, so a
block holds only instructions that were made for it, each one once.

  §1 Effects  — `extend`: what adding operands does, also when it is cut short.
  §2 Uses     — the uses that a call makes, read off the call.
  §3 Recorded — uses against operands.
  §4 Placed   — blocks against instructions.
  §5 Calls    — what every call keeps.
-/
import ArgTaint.Workbench
import Mathlib.Data.List.Nodup

namespace ArgTaint.Build

variable {b : Build} {i : Nat}

/-! ## §1 Effects -/

/-- The operands that are appended: those before the first one that is no
value, and that one too when it was looked up and does not exist. -/
def appended : List (Option Value) → List Value
  | [] => []
  | none :: _ => []
  | some v :: rest => if v.isAbsent then [v] else v :: appended rest

/-- The function in which an instruction has more operands; the uses of those
that are values are recorded. -/
def extend (b : Build) (i : Nat) (vs : List Value) : Build :=
  { b with
    instrs := b.instrs.modify i fun instr => { instr with operands := instr.operands ++ vs }
    uses := b.uses ++ (vs.filter (!·.isAbsent)).map (·, i) }

/-- The function with one more instruction, which is in no block yet. -/
def create (b : Build) (instr : Instr) : Build := { b with instrs := b.instrs ++ [instr] }

/-- The function in which an instruction is the last one of a block. -/
def enter (b : Build) (block i : Nat) : Build :=
  { b with blocks := b.blocks.modify block (· ++ [i]) }

theorem extend_nil (b : Build) (i : Nat) : b.extend i [] = b := by
  have hid : (fun instr : Instr => { instr with operands := instr.operands ++ [] }) = id := by
    funext instr
    rw [List.append_nil, id]
  simp only [extend, List.filter_nil, List.map_nil]
  rw [hid, List.modify_id, List.append_nil]

theorem extend_extend (b : Build) (i : Nat) (vs ws : List Value) :
    (b.extend i vs).extend i ws = b.extend i (vs ++ ws) := by
  simp only [extend, List.modify_modify_eq, List.filter_append, List.map_append,
    List.append_assoc, Function.comp_def]

@[simp] theorem length_instrs_extend (b : Build) (i : Nat) (vs : List Value) :
    (b.extend i vs).instrs.length = b.instrs.length :=
  List.length_modify _ _ _

/-- What adding one operand does, and when more can follow. -/
theorem addOperand_eq_extend (hi : i < b.instrs.length) (operand : Option Value) :
    (b.addOperand i operand).1 = b.extend i (appended [operand]) ∧
      ((b.addOperand i operand).2 = none ↔ ∃ v, operand = some v ∧ v.isAbsent = false) := by
  have valued (v : Value) (hv : v.isAbsent = false) :
      { b.appendOperand i v with uses := b.uses ++ [(v, i)] } =
        b.extend i (appended [some v]) := by
    simp [extend, appendOperand, appended, hv]
  simp only [addOperand, if_pos hi]
  match operand with
  | none => exact ⟨(extend_nil b i).symm, by simp⟩
  | some (.absent sort) =>
    exact ⟨by simp [extend, appendOperand, appended, Value.isAbsent], by simp [Value.isAbsent]⟩
  | some (.param k) => exact ⟨valued (.param k) rfl, by simp [Value.isAbsent]⟩
  | some (.const k) => exact ⟨valued (.const k) rfl, by simp [Value.isAbsent]⟩
  | some (.instr k) => exact ⟨valued (.instr k) rfl, by simp [Value.isAbsent]⟩

/-- What adding operands does, up to the first failure. -/
theorem addOperands_eq_extend :
    ∀ (operands : List (Option Value)) (b : Build), i < b.instrs.length →
      (b.addOperands i operands).1 = b.extend i (appended operands) := by
  intro operands
  induction operands with
  | nil => intro b _; exact (extend_nil b i).symm
  | cons operand rest ih =>
    intro b hi
    obtain ⟨hfst, hsnd⟩ := addOperand_eq_extend hi operand
    simp only [addOperands]
    split
    · next t ht =>
      rw [ht] at hfst hsnd
      obtain ⟨v, rfl, hv⟩ := hsnd.mp rfl
      obtain rfl : t = b.extend i (appended [some v]) := hfst
      rw [ih _ (by simpa using hi), extend_extend]
      simp [appended, hv]
    · next t e ht =>
      rw [ht] at hfst hsnd
      obtain rfl : t = b.extend i (appended [operand]) := hfst
      have failed : ¬ ∃ v, operand = some v ∧ v.isAbsent = false := fun h => nomatch hsnd.mpr h
      match operand with
      | none => rfl
      | some v =>
        have hv : v.isAbsent = true := eq_true_of_ne_false fun h => failed ⟨v, rfl, h⟩
        simp [appended, hv]

/-- Placing an instruction in a block that exists creates it and adds its
operands; it enters the block when all of them could be added. -/
theorem place_of_lt {instr : Instr} (hb : instr.block < b.blocks.length)
    (operands : List (Option Value)) :
    let filled := (b.create instr).extend b.instrs.length (appended operands)
    (∃ e, b.place instr operands = (filled, .error e)) ∨
      b.place instr operands =
        (filled.enter instr.block b.instrs.length, .ok b.instrs.length) := by
  have hi : b.instrs.length < (b.create instr).instrs.length := by simp [create]
  have hfill := addOperands_eq_extend operands (b.create instr) hi
  simp only [place, if_pos hb]
  change ((b.create instr).addOperands b.instrs.length operands).1 = _ at hfill
  split
  · next t ht =>
    have heq : t = (b.create instr).extend b.instrs.length (appended operands) := by
      rw [← hfill]
      exact congrArg Prod.fst ht.symm
    exact Or.inr (by rw [heq]; rfl)
  · next t e ht =>
    refine Or.inl ⟨e, ?_⟩
    rw [← hfill]
    exact congrArg (·, _) (congrArg Prod.fst ht).symm

/-- Nothing is made for a block that does not exist. -/
theorem place_of_le {instr : Instr} (hb : b.blocks.length ≤ instr.block)
    (operands : List (Option Value)) : b.place instr operands = (b, .error .outOfRange) := by
  simp only [place, if_neg (Nat.not_lt_of_le hb)]

/-- What placing an instruction leaves behind. -/
theorem place_cases (b : Build) (instr : Instr) (operands : List (Option Value)) :
    (b.blocks.length ≤ instr.block ∧ (b.place instr operands).1 = b) ∨
      instr.block < b.blocks.length ∧
        let filled := (b.create instr).extend b.instrs.length (appended operands)
        ((b.place instr operands).1 = filled ∨
          (b.place instr operands).1 = filled.enter instr.block b.instrs.length) := by
  rcases Nat.lt_or_ge instr.block b.blocks.length with hb | hb
  · rcases place_of_lt hb operands with ⟨e, he⟩ | he
    · exact Or.inr ⟨hb, Or.inl (congrArg Prod.fst he)⟩
    · exact Or.inr ⟨hb, Or.inr (congrArg Prod.fst he)⟩
  · exact Or.inl ⟨hb, congrArg Prod.fst (place_of_le hb operands)⟩

/-! ## §2 Uses -/

/-- The uses that a call makes, in order. -/
def usesMade (b : Build) : Call → List (Value × Nat)
  | .newBlock | .newConst _ => []
  | .emit block _ _ operands | .emitVoid block _ operands =>
    if block < b.blocks.length then
      ((appended operands).filter (!·.isAbsent)).map (·, b.instrs.length)
    else []
  | .addOperand i operand =>
    if i < b.instrs.length then ((appended [operand]).filter (!·.isAbsent)).map (·, i) else []

/-- Placing an instruction records the uses of its operands up to the first that
is no value. -/
theorem uses_place (b : Build) (instr : Instr) (operands : List (Option Value)) :
    (b.place instr operands).1.uses = b.uses ++
      if instr.block < b.blocks.length then
        ((appended operands).filter (!·.isAbsent)).map (·, b.instrs.length)
      else [] := by
  rcases place_cases b instr operands with ⟨hb, he⟩ | ⟨hb, he | he⟩
  · rw [he, if_neg (Nat.not_lt_of_le hb), List.append_nil]
  · rw [he, if_pos hb]
    rfl
  · rw [he, if_pos hb]
    rfl

/-- Every call records the uses that it makes, after those recorded before. -/
theorem uses_perform (b : Build) (c : Call) :
    (b.perform c).1.uses = b.uses ++ b.usesMade c := by
  cases c with
  | newBlock => exact (List.append_nil _).symm
  | newConst name => exact (List.append_nil _).symm
  | emit block kind name operands => exact uses_place b _ operands
  | emitVoid block kind operands => exact uses_place b _ operands
  | addOperand i operand =>
    by_cases hi : i < b.instrs.length
    · simp only [perform, usesMade, if_pos hi, (addOperand_eq_extend hi operand).1]
      rfl
    · simp only [perform, usesMade, addOperand, if_neg hi, List.append_nil]

/-! ## §3 Recorded -/

/-- An instruction is recorded as a user of a value as often as it has the
value as operand. -/
def Recorded (b : Build) : Prop :=
  ∀ v i, b.uses.count (v, i) = ((b.view.operands i).filter (!·.isAbsent)).count v

/-- Further operands come last, at their own instruction alone. -/
theorem operands_extend (b : Build) (hi : i < b.instrs.length) (vs : List Value) (j : Nat) :
    (b.extend i vs).view.operands j = b.view.operands j ++ if i = j then vs else [] := by
  simp only [view, extend, List.getElem?_modify]
  by_cases hij : i = j
  · subst hij
    simp [List.getElem?_eq_getElem hi]
  · simp [hij]

theorem operands_create (b : Build) {instr : Instr} (hn : instr.operands = []) (j : Nat) :
    (b.create instr).view.operands j = b.view.operands j := by
  simp only [view, create, List.getElem?_append]
  split
  · rfl
  · next hj =>
    rw [List.getElem?_eq_none (Nat.le_of_not_lt hj)]
    cases hk : j - b.instrs.length with
    | zero => simp [hn]
    | succ k => simp

theorem count_map_pair (vs : List Value) (v : Value) (i j : Nat) :
    (vs.map (·, i)).count (v, j) = if i = j then vs.count v else 0 := by
  induction vs with
  | nil => simp
  | cons w rest ih =>
    simp only [List.map_cons, List.count_cons, ih, Prod.mk.injEq, beq_iff_eq]
    split <;> simp_all

theorem Recorded.extend (h : b.Recorded) (hi : i < b.instrs.length) (vs : List Value) :
    (b.extend i vs).Recorded := by
  intro v j
  have huses : (b.extend i vs).uses = b.uses ++ (vs.filter (!·.isAbsent)).map (·, i) := rfl
  rw [huses, operands_extend b hi, List.count_append, h v j, count_map_pair, List.filter_append,
    List.count_append]
  split <;> simp

theorem Recorded.create (h : b.Recorded) {instr : Instr} (hn : instr.operands = []) :
    (b.create instr).Recorded := by
  intro v j
  rw [operands_create b hn]
  exact h v j

/-! ## §4 Placed -/

/-- A block holds instructions that were made for it, each one once. -/
structure Placed (b : Build) : Prop where
  block_eq : ∀ (k : Nat) instrs, b.blocks[k]? = some instrs →
    ∀ i ∈ instrs, (b.instrs.map Instr.block)[i]? = some k
  nodup : b.blocks.flatten.Nodup

theorem Placed.lt_of_mem (h : b.Placed) (hi : i ∈ b.blocks.flatten) : i < b.instrs.length := by
  obtain ⟨instrs, hb, hi⟩ := List.mem_flatten.mp hi
  obtain ⟨k, hk⟩ := List.mem_iff_getElem?.mp hb
  have := (List.getElem?_eq_some_iff.mp (h.block_eq k instrs hk i hi)).1
  rwa [List.length_map] at this

theorem blocks_of_extend (b : Build) (i : Nat) (vs : List Value) :
    (b.extend i vs).instrs.map Instr.block = b.instrs.map Instr.block := by
  apply List.ext_getElem?
  intro j
  simp only [extend, List.getElem?_map, List.getElem?_modify]
  cases b.instrs[j]? with
  | none => rfl
  | some instr => simp only [Option.map_some]; split <;> rfl

theorem Placed.extend (h : b.Placed) (i : Nat) (vs : List Value) : (b.extend i vs).Placed where
  block_eq k instrs hk j hj := by
    rw [blocks_of_extend]
    exact h.block_eq k instrs hk j hj
  nodup := h.nodup

theorem Placed.create (h : b.Placed) (instr : Instr) : (b.create instr).Placed where
  block_eq k instrs hk j hj := by
    have hold := h.block_eq k instrs hk j hj
    have hlt := (List.getElem?_eq_some_iff.mp hold).1
    simp only [Build.create, List.map_append]
    rw [List.getElem?_append_left hlt]
    exact hold
  nodup := h.nodup

/-- Entering a block adds an instruction to those of all blocks. -/
theorem flatten_modify_perm :
    ∀ (blocks : List (List Nat)) (k i : Nat), k < blocks.length →
      (blocks.modify k (· ++ [i])).flatten.Perm (i :: blocks.flatten) := by
  intro blocks
  induction blocks with
  | nil => intro k i hk; cases hk
  | cons instrs rest ih =>
    intro k i hk
    cases k with
    | zero =>
      simp only [List.modify_zero_cons, List.flatten_cons, List.append_assoc,
        List.singleton_append]
      exact List.perm_middle
    | succ k =>
      simp only [List.modify_succ_cons, List.flatten_cons]
      exact ((ih k i (Nat.lt_of_succ_lt_succ hk)).append_left instrs).trans List.perm_middle

/-- An instruction that was made for a block and is in none may enter it. -/
theorem Placed.enter (h : b.Placed) {k : Nat} (hk : k < b.blocks.length)
    (hi : (b.instrs.map Instr.block)[i]? = some k) (fresh : i ∉ b.blocks.flatten) :
    (b.enter k i).Placed where
  block_eq j instrs hj l hl := by
    simp only [Build.enter, List.getElem?_modify] at hj
    obtain ⟨old, hold, rfl⟩ := Option.map_eq_some_iff.mp hj
    split at hl
    · next hkj =>
      subst hkj
      rcases List.mem_append.mp hl with hl | hl
      · exact h.block_eq k old hold l hl
      · rw [List.mem_singleton.mp hl]
        exact hi
    · exact h.block_eq j old hold l hl
  nodup := (flatten_modify_perm b.blocks k i hk).nodup_iff.mpr
    (List.nodup_cons.mpr ⟨fresh, h.nodup⟩)

/-- What a list with one more entry has at a position. -/
theorem getElem?_concat_eq_some {γ : Type} {l : List γ} {x y : γ} {k : Nat} :
    (l ++ [x])[k]? = some y ↔ l[k]? = some y ∨ k = l.length ∧ x = y := by
  rw [List.getElem?_append]
  split
  · next hk =>
    exact ⟨Or.inl, fun h => h.resolve_right fun he => Nat.ne_of_lt hk he.1⟩
  · next hk =>
    have hnone : l[k]? = none := List.getElem?_eq_none (Nat.le_of_not_lt hk)
    rw [hnone]
    rcases Nat.lt_or_eq_of_le (Nat.le_of_not_lt hk) with hlt | rfl
    · rw [List.getElem?_eq_none (by simp only [List.length_singleton]; omega)]
      simp [Nat.ne_of_gt hlt]
    · simp

theorem Placed.newBlock (h : b.Placed) : b.newBlock.1.Placed where
  block_eq k instrs hk i hi := by
    rcases getElem?_concat_eq_some.mp hk with hk | ⟨-, rfl⟩
    · exact h.block_eq k instrs hk i hi
    · cases hi
  nodup := by
    simp only [Build.newBlock, List.flatten_append, List.flatten_cons, List.flatten_nil,
      List.append_nil]
    exact h.nodup

/-! ## §5 Calls -/

/-- Uses agree with operands, and blocks with instructions. -/
structure Consistent (b : Build) : Prop where
  recorded : b.Recorded
  placed : b.Placed

theorem consistent_new (name : String) (params : List String) :
    (Build.new name params).Consistent where
  recorded _ _ := rfl
  placed := ⟨fun _ _ hk => by simp [new] at hk, List.nodup_nil⟩

theorem Consistent.extend (h : b.Consistent) (hi : i < b.instrs.length) (vs : List Value) :
    (b.extend i vs).Consistent :=
  ⟨h.recorded.extend hi vs, h.placed.extend i vs⟩

/-- Placing an instruction keeps a function consistent, also when it fails. -/
theorem Consistent.place (h : b.Consistent) {instr : Instr} (hn : instr.operands = [])
    (operands : List (Option Value)) : (b.place instr operands).1.Consistent := by
  have hi : b.instrs.length < (b.create instr).instrs.length := by simp [create]
  have created : (b.create instr).Consistent := ⟨h.recorded.create hn, h.placed.create instr⟩
  have filled := created.extend hi (appended operands)
  rcases place_cases b instr operands with ⟨-, he⟩ | ⟨hb, he | he⟩
  · rw [he]
    exact h
  · rw [he]
    exact filled
  · rw [he]
    refine ⟨filled.recorded, filled.placed.enter hb ?_ ?_⟩
    · rw [blocks_of_extend]
      simp [create]
    · exact fun hm => Nat.lt_irrefl _ (h.placed.lt_of_mem hm)

/-- Every call keeps a function consistent, also when it fails. -/
theorem Consistent.perform (h : b.Consistent) (c : Call) : (b.perform c).1.Consistent := by
  cases c with
  | newBlock => exact ⟨h.recorded, h.placed.newBlock⟩
  | newConst name => exact ⟨h.recorded, h.placed.block_eq, h.placed.nodup⟩
  | emit block kind name operands => exact h.place rfl operands
  | emitVoid block kind operands => exact h.place rfl operands
  | addOperand i operand =>
    by_cases hi : i < b.instrs.length
    · simp only [Build.perform, (addOperand_eq_extend hi operand).1]
      exact h.extend hi _
    · simp only [Build.perform, addOperand, if_neg hi]
      exact h

/-- Only a new block adds to the blocks. -/
theorem length_blocks_perform (b : Build) {c : Call} (hc : c ≠ .newBlock) :
    (b.perform c).1.blocks.length = b.blocks.length := by
  have placing (instr : Instr) (operands : List (Option Value)) :
      (b.place instr operands).1.blocks.length = b.blocks.length := by
    rcases place_cases b instr operands with ⟨-, he⟩ | ⟨-, he | he⟩
    · rw [he]
    · rw [he]
      rfl
    · rw [he]
      exact List.length_modify _ _ _
  cases c with
  | newBlock => exact absurd rfl hc
  | newConst name => rfl
  | emit block kind name operands => exact placing _ operands
  | emitVoid block kind operands => exact placing _ operands
  | addOperand i operand =>
    by_cases hi : i < b.instrs.length
    · simp only [perform, (addOperand_eq_extend hi operand).1]
      rfl
    · simp only [perform, addOperand, if_neg hi]

/-- The users of a value are the instructions of the recorded uses. -/
theorem Recorded.users_eq (h : b.Recorded) (v : Value) :
    b.users v = (b.uses.filter fun u => u.1 = v).map Prod.snd := by
  have created : ∀ u ∈ b.uses, u.2 < b.instrs.length := by
    rintro ⟨w, i⟩ hu
    by_contra hi
    have hc := h w i
    simp only [view, List.getElem?_eq_none (Nat.le_of_not_lt hi), Option.map_none,
      Option.getD_none, List.filter_nil, List.count_nil] at hc
    exact List.count_eq_zero.mp hc hu
  rw [← List.filterMap_eq_filter, List.map_filterMap, users]
  refine List.filterMap_congr fun u hu => ?_
  by_cases hv : u.1 = v <;> simp [hv, created u hu, Option.guard]

/-- An instruction occurs among the users of a value as often as the value among
its operands. -/
theorem Recorded.count_users (h : b.Recorded) {v : Value} (hv : v.isAbsent = false) (i : Nat) :
    (b.users v).count i = (b.view.operands i).count v := by
  have hpair : (b.users v).count i = b.uses.count (v, i) := by
    rw [h.users_eq, List.count, List.countP_map, List.countP_filter, List.count]
    refine List.countP_congr fun u _ => ?_
    simp [Prod.ext_iff, and_comm]
  rw [hpair, h v i, List.count_filter (by simpa using hv)]

/-- The users of a value are the instructions that have it as operand. -/
theorem Recorded.mem_users_iff (h : b.Recorded) {v : Value} :
    i ∈ b.users v ↔ v.isAbsent = false ∧ v ∈ b.view.operands i := by
  have hused : i ∈ b.users v ↔ (v, i) ∈ b.uses := by
    rw [h.users_eq]
    simp
  rw [hused, ← List.count_pos_iff, h v i, List.count_pos_iff]
  simp [and_comm]

end ArgTaint.Build
