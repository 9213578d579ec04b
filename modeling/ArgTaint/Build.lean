/-
ArgTaint.Build — functions built in memory.

A function under construction has parameters, constants, basic blocks and
instructions. Values refer to each other by index, and every use is recorded
in the order in which it was made, so the users of a value are read off the
uses.

* `Build.newBlock`, `Build.newConst`, `Build.emit`, `Build.addOperand` —
  construction. A call with an operand that is no value fails; what it did
  before the failure stays. An operand that stands for a value that was looked
  up and does not exist is still appended before the call fails on it.
* `Build.text` — the function as text.
* `Build.view` — the function as the engine sees it.
-/
import ArgTaint.UseDef

namespace ArgTaint

namespace Build

/-- The sorts of values. -/
inductive ValueSort where
  | param
  | const
  | instr
  deriving DecidableEq, Repr

/-- A value of a function under construction. -/
inductive Value where
  | param (index : Nat)
  | const (index : Nat)
  /-- The instruction with this index, as a value. -/
  | instr (index : Nat)
  /-- The result of looking up a value that does not exist. There is one for
  each sort, and they are different. -/
  | absent (sort : ValueSort)
  deriving DecidableEq, Repr

def Value.isAbsent : Value → Bool
  | .absent _ => true
  | _ => false

/-- Everything but the results of failed look-ups is a value. -/
theorem Value.isAbsent_eq_false_iff {v : Value} :
    v.isAbsent = false ↔ ∀ sort, v ≠ .absent sort := by
  cases v <;> simp [Value.isAbsent]

/-- An instruction of a function under construction. -/
structure Instr where
  name : String
  kind : Kind
  operands : List Value
  block : Nat
  /-- The instruction produces no value. -/
  isVoid : Bool
  deriving DecidableEq, Repr

/-- Why a call fails. -/
inductive Failure where
  /-- An operand is no value. -/
  | nilOperand
  /-- An operand was looked up and does not exist. -/
  | absentOperand
  /-- There is no block or instruction with the given index. -/
  | outOfRange
  deriving DecidableEq, Repr

/-- The text of a failure; only a missing operand has one. -/
def Failure.message? : Failure → Option String
  | .nilOperand => some "ir: nil operand"
  | _ => none

/-- What is shown for an instruction whose text cannot be made because an
operand has no name. -/
def brokenText : String :=
  "%!s(PANIC=String method: runtime error: invalid memory address or nil pointer dereference)"

end Build

/-- A function under construction. -/
structure Build where
  name : String
  params : List String
  consts : List String := []
  /-- All the instructions ever created, also those whose construction
  failed. -/
  instrs : List Build.Instr := []
  /-- The instructions of each block, by index. -/
  blocks : List (List Nat) := []
  /-- Every use, as the value used and the index of the instruction, in the
  order in which the uses were made. -/
  uses : List (Build.Value × Nat) := []
  deriving DecidableEq, Repr

namespace Build

/-- A function with one parameter per name and no blocks. -/
def new (name : String) (params : List String) : Build where
  name := name
  params := params.map ("%" ++ ·)

/-- The parameter with the given name, which is written without its mark. -/
def paramNamed (b : Build) (name : String) : Value :=
  match b.params.findIdx? (· = "%" ++ name) with
  | some i => .param i
  | none => .absent .param

def newBlock (b : Build) : Build × Nat :=
  ({ b with blocks := b.blocks ++ [[]] }, b.blocks.length)

def newConst (b : Build) (name : String) : Build × Value :=
  ({ b with consts := b.consts ++ [name] }, .const b.consts.length)

/-- The function in which `v` is the last operand of an instruction. -/
def appendOperand (b : Build) (i : Nat) (v : Value) : Build :=
  { b with
    instrs := b.instrs.modify i fun instr => { instr with operands := instr.operands ++ [v] } }

/-- Add an operand to an instruction and record the use. -/
def addOperand (b : Build) (i : Nat) (operand : Option Value) : Build × Option Failure :=
  if i < b.instrs.length then
    match operand with
    | none => (b, some .nilOperand)
    | some (.absent sort) => (b.appendOperand i (.absent sort), some .absentOperand)
    | some v =>
      let b := b.appendOperand i v
      ({ b with uses := b.uses ++ [(v, i)] }, none)
  else (b, some .outOfRange)

/-- Add operands in order, up to the first failure. -/
def addOperands (b : Build) (i : Nat) : List (Option Value) → Build × Option Failure
  | [] => (b, none)
  | v :: rest =>
    match b.addOperand i v with
    | (b, none) => b.addOperands i rest
    | (b, some e) => (b, some e)

/-- Create an instruction in a block. It enters the block when all its
operands are in place. -/
def place (b : Build) (instr : Instr) (operands : List (Option Value)) :
    Build × Except Failure Nat :=
  if instr.block < b.blocks.length then
    let i := b.instrs.length
    match ({ b with instrs := b.instrs ++ [instr] }).addOperands i operands with
    | (b, none) => ({ b with blocks := b.blocks.modify instr.block (· ++ [i]) }, .ok i)
    | (b, some e) => (b, .error e)
  else (b, .error .outOfRange)

def emit (b : Build) (block : Nat) (kind : Kind) (name : String)
    (operands : List (Option Value)) : Build × Except Failure Nat :=
  b.place ⟨"%" ++ name, kind, [], block, false⟩ operands

def emitVoid (b : Build) (block : Nat) (kind : Kind)
    (operands : List (Option Value)) : Build × Except Failure Nat :=
  b.place ⟨"", kind, [], block, true⟩ operands

/-! ## Reading -/

/-- The instructions that use a value, once per use, in the order of the
uses. -/
def users (b : Build) (v : Value) : List Nat :=
  b.uses.filterMap fun (w, i) => if w = v ∧ i < b.instrs.length then some i else none

/-- The instructions of all the blocks, in block order. -/
def placed (b : Build) : List Nat := b.blocks.flatten

/-- The name of an instruction: that of its result, or of its kind when it
produces none. -/
def Instr.shortName (instr : Instr) : String :=
  if instr.isVoid then instr.kind.name else instr.name

/-- The name of a value; what stands for no value has none. -/
def valueName? (b : Build) : Value → Option String
  | .param i => b.params[i]?
  | .const i => b.consts[i]?
  | .instr i => b.instrs[i]?.map Instr.shortName
  | .absent _ => none

/-- The text of an instruction; none when an operand has no name. -/
def instrText? (b : Build) (instr : Instr) : Option String :=
  (instr.operands.mapM b.valueName?).map fun names =>
    let body := instr.kind.name ++ " " ++ ", ".intercalate names
    if instr.isVoid then body else instr.name ++ " = " ++ body

/-- The text of the instruction with the given index, for use inside a longer
text. -/
def shownText (b : Build) (i : Nat) : String :=
  ((b.instrs[i]?.bind b.instrText?).getD brokenText)

/-- The text of a value; none when it cannot be made. -/
def valueText? (b : Build) : Value → Option String
  | .instr i => b.instrs[i]?.bind b.instrText?
  | v => b.valueName? v

def result? (b : Build) (i : Nat) : Option Value :=
  b.instrs[i]?.bind fun instr => if instr.isVoid then none else some (.instr i)

def blockText (b : Build) (index : Nat) (instrs : List Nat) : String :=
  toString index ++ ":\n" ++ String.join (instrs.map fun i => "  " ++ b.shownText i ++ "\n")

def text (b : Build) : String :=
  "define " ++ b.name ++ "(" ++ ", ".intercalate b.params ++ ") \x7b\n" ++
    String.join (b.blocks.mapIdx b.blockText) ++ "\x7d\n"

/-! ## The engine's view -/

/-- Only instructions that were made are users. -/
theorem lt_of_mem_users {b : Build} {v : Value} {i : Nat} (h : i ∈ b.users v) :
    i < b.instrs.length := by
  simp only [users, List.mem_filterMap] at h
  obtain ⟨⟨w, j⟩, _, hj⟩ := h
  split at hj
  · next hc => exact Option.some.inj hj ▸ hc.2
  · cases hj

/-- The function as the engine sees it. -/
def view (b : Build) : UseDef Value Nat where
  instrs := List.range b.instrs.length
  users := b.users
  users_mem _ _ h := List.mem_range.2 (lt_of_mem_users h)
  kind i := (b.instrs[i]?.map Instr.kind).getD .unknown
  operands i := (b.instrs[i]?.map Instr.operands).getD []
  result := b.result?
  isAbsent := Value.isAbsent
  name v := (b.valueName? v).getD ""
  text := b.shownText

end Build

end ArgTaint
