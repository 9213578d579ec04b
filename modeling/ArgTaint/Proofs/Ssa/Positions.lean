/-
ArgTaint.Proofs.Ssa.Positions — the position of an instruction is the nearest
one at or before it.

The walk through a block goes over all of it, from the last instruction
backwards, in two phases: it looks at nothing until it meets the instruction
that it was asked for, and from there on takes the first position that it sees.
An instruction is known by its index, so it is met once. What comes after it is
passed in the first phase and cannot count.

  §1 Walks     — the two phases.
  §2 Blocks    — the position at an index of a block.
  §3 Functions — the same for instructions by number.
-/
import ArgTaint.Ssa.Basic
import Mathlib

namespace ArgTaint.Ssa.Function

variable {f : Function} {pre post : List Instruction} {i : Instruction} {k : Nat}

/-! ## §1 Walks -/

/-- Until the instruction is met, nothing counts. -/
theorem searchBack_false_append {later : List (Instruction × Nat)} (h : ∀ e ∈ later, e.2 ≠ k)
    (rest : List (Instruction × Nat)) :
    searchBack k false (later ++ rest) = searchBack k false rest := by
  induction later with
  | nil => rfl
  | cons e later ih =>
    obtain ⟨hne, hlater⟩ := List.forall_mem_cons.mp h
    rw [List.cons_append, searchBack, if_neg hne, Bool.false_and, if_neg Bool.false_ne_true]
    exact ih hlater

/-- Once it is met, the first position counts. -/
theorem searchBack_true {earlier : List (Instruction × Nat)} (h : ∀ e ∈ earlier, e.2 ≠ k) :
    searchBack k true earlier = earlier.findSome? fun e => e.1.position := by
  induction earlier with
  | nil => rfl
  | cons e earlier ih =>
    obtain ⟨hne, hearlier⟩ := List.forall_mem_cons.mp h
    rw [searchBack, if_neg hne, Bool.true_and, List.findSome?_cons, ih hearlier]
    cases e.1.position <;> rfl

/-- The walk finds the last position before the instruction. -/
theorem searchBack_zipIdx (pre post : List Instruction) (i : Instruction) :
    searchBack pre.length false (pre ++ i :: post).zipIdx.reverse =
      pre.reverse.findSome? Instruction.position := by
  have later : ∀ e ∈ (post.zipIdx (pre.length + 1)).reverse, e.2 ≠ pre.length := by
    intro e he
    have := (List.mem_zipIdx (List.mem_reverse.mp he)).1
    omega
  have earlier : ∀ e ∈ pre.zipIdx.reverse, e.2 ≠ pre.length := by
    intro e he
    have := (List.mem_zipIdx (List.mem_reverse.mp he)).2.1
    omega
  rw [List.zipIdx_append, List.zipIdx_cons, List.reverse_append, List.reverse_cons,
    List.append_assoc, Nat.zero_add, searchBack_false_append later, List.singleton_append,
    searchBack, if_pos rfl, searchBack_true earlier]
  conv_rhs => rw [← List.zipIdx_map_fst 0 pre, ← List.map_reverse, List.findSome?_map]
  rfl

/-! ## §2 Blocks -/

/-- The position is the last one up to the instruction, or else that of the
function. -/
theorem positionIn_append (f : Function) (pre post : List Instruction) (i : Instruction) :
    f.positionIn (pre ++ i :: post) pre.length =
      ((pre ++ [i]).reverse.findSome? Instruction.position).or f.position := by
  have own : (pre ++ i :: post)[pre.length]? = some i := by
    rw [List.getElem?_append_right (Nat.le_refl _), Nat.sub_self, List.getElem?_cons_zero]
  rw [positionIn, own, Option.bind_some, searchBack_zipIdx, List.reverse_append,
    List.reverse_singleton, List.singleton_append, List.findSome?_cons]
  cases i.position with
  | some p => rfl
  | none => cases pre.reverse.findSome? Instruction.position <;> rfl

/-- The closest position before a place is found first from behind. -/
theorem findSome?_reverse_eq_some {early near : List Instruction} {j : Instruction}
    {p : Position} (hj : j.position = some p) (hnear : ∀ l ∈ near, l.position = none) :
    (early ++ j :: near).reverse.findSome? Instruction.position = some p := by
  have passed : near.reverse.findSome? Instruction.position = none :=
    List.findSome?_eq_none_iff.mpr fun l hl => hnear l (List.mem_reverse.mp hl)
  rw [List.reverse_append, List.reverse_cons, List.append_assoc, List.findSome?_append, passed,
    Option.none_or, List.singleton_append, List.findSome?_cons, hj]

/-! ## §3 Functions -/

theorem length_placedBlock (f : Function) (block : List Instruction) :
    (f.placedBlock block).length = block.length :=
  List.length_mapIdx

theorem length_flatMap_placedBlock (f : Function) (blocks : List (List Instruction)) :
    (blocks.flatMap f.placedBlock).length = blocks.flatten.length := by
  rw [List.length_flatMap, List.length_flatten]
  simp only [length_placedBlock]

/-- Instructions are numbered through the blocks, and each has its position in
its block. -/
theorem instrPosition_append {before after : List (List Instruction)} {block : List Instruction}
    (h : f.blocks = some (before ++ block :: after)) (hk : k < block.length) :
    f.instrPosition (before.flatten.length + k) = (f.positionIn block k).getD .none := by
  have placed : f.placed[before.flatten.length + k]? = (f.placedBlock block)[k]? := by
    rw [Function.placed, h, Option.getD_some, List.flatMap_append, List.flatMap_cons,
      List.getElem?_append_right (by rw [length_flatMap_placedBlock]; omega),
      length_flatMap_placedBlock, Nat.add_sub_cancel_left,
      List.getElem?_append_left (by rw [length_placedBlock]; exact hk)]
  rw [instrPosition, placed, placedBlock, List.getElem?_mapIdx, List.getElem?_eq_getElem hk]
  rfl

/-- Instructions are numbered block by block. -/
theorem instrs_getElem?_append {before after : List (List Instruction)}
    (h : f.blocks = some (before ++ (pre ++ i :: post) :: after)) :
    f.instrs[before.flatten.length + pre.length]? = some i := by
  rw [instrs, h, Option.getD_some, List.flatten_append, List.flatten_cons, List.append_assoc,
    List.getElem?_append_right (Nat.le_add_right _ _), Nat.add_sub_cancel_left,
    List.getElem?_append_right (Nat.le_refl _), Nat.sub_self, List.cons_append,
    List.getElem?_cons_zero]

/-- **The position of an instruction is the nearest one at or before it.** For
every function and every instruction of a block: when some instruction of the
block at or before it has a position, the last of these positions is the answer,
which is its own when it has one; when none has, the answer is the position of
the function. What comes after the instruction does not matter, and the position
of the instruction by its number is this one. -/
theorem positionIn_eq_nearest (f : Function) (pre post : List Instruction) (i : Instruction) :
    let found := f.positionIn (pre ++ i :: post) pre.length
    (∀ early j near p, pre ++ [i] = early ++ j :: near → j.position = some p →
      (∀ l ∈ near, l.position = none) → found = some p) ∧
    ((∀ j ∈ pre ++ [i], j.position = none) → found = f.position) ∧
    (∀ post', f.positionIn (pre ++ i :: post') pre.length = found) ∧
    ∀ before after, f.blocks = some (before ++ (pre ++ i :: post) :: after) →
      f.instrs[before.flatten.length + pre.length]? = some i ∧
        f.instrPosition (before.flatten.length + pre.length) = found.getD .none := by
  intro found
  have hfound : found = ((pre ++ [i]).reverse.findSome? Instruction.position).or f.position :=
    f.positionIn_append pre post i
  refine ⟨fun early j near p hsplit hj hnear => ?_, fun hnone => ?_, fun post' => ?_,
    fun before after h => ⟨instrs_getElem?_append h, instrPosition_append h (by simp)⟩⟩
  · rw [hfound, hsplit, findSome?_reverse_eq_some hj hnear]
    rfl
  · rw [hfound, List.findSome?_eq_none_iff.mpr fun j hj => hnone j (List.mem_reverse.mp hj)]
    rfl
  · rw [hfound, f.positionIn_append pre post' i]

/-- A jump, with or without a position. -/
def jumpAt (position : Option Position) : Instruction :=
  { operation := .jump, position := position }

/-- Two blocks in which instructions without a position stand between others. -/
def scattered : Function where
  fullName := "p.f"
  name := "f"
  position := some ⟨"p.go", 1, 6⟩
  blocks := some [[jumpAt none, jumpAt (some ⟨"p.go", 9, 2⟩)],
    [jumpAt none, jumpAt (some ⟨"p.go", 3, 2⟩), jumpAt none, jumpAt (some ⟨"p.go", 5, 2⟩)]]

/-- The third instruction of the second block has the position of the one before
it, and the first one that of the function. -/
theorem positionIn_eq_nearest_scattered :
    let block := [jumpAt none, jumpAt (some ⟨"p.go", 3, 2⟩), jumpAt none,
      jumpAt (some ⟨"p.go", 5, 2⟩)]
    scattered.positionIn block 2 = some ⟨"p.go", 3, 2⟩ ∧
      scattered.instrPosition 4 = ⟨"p.go", 3, 2⟩ ∧
      scattered.positionIn block 0 = some ⟨"p.go", 1, 6⟩ := by
  intro block
  obtain ⟨nearest, -, -, numbered⟩ := scattered.positionIn_eq_nearest
    [jumpAt none, jumpAt (some ⟨"p.go", 3, 2⟩)] [jumpAt (some ⟨"p.go", 5, 2⟩)] (jumpAt none)
  obtain ⟨-, outer, -⟩ := scattered.positionIn_eq_nearest [] block.tail (jumpAt none)
  have third : scattered.positionIn block 2 = some ⟨"p.go", 3, 2⟩ :=
    nearest [jumpAt none] (jumpAt (some ⟨"p.go", 3, 2⟩)) [jumpAt none] _ rfl rfl (by decide)
  have resolved := (numbered [[jumpAt none, jumpAt (some ⟨"p.go", 9, 2⟩)]] [] rfl).2
  refine ⟨third, resolved.trans ?_, outer (by decide)⟩
  exact congrArg (Option.getD · .none) third

end ArgTaint.Ssa.Function
