/-
ArgTaint.Ssa.Basic — programs in static single assignment form.

A program is a list of functions and the comments of its files. The values of
a function are held in one table and referred to by index; its instructions
are numbered through all its blocks in order.

* `Ssa.Operation` — what an instruction does, as far as the analysis looks.
* `Ssa.Operation.kind` — the kind of the instructions of an operation:
  instructions that write into a location are stores, instructions that read
  from one are loads.
* `Ssa.Value`, `Ssa.Instruction`, `Ssa.Function`, `Ssa.Program`.
-/
import ArgTaint.Kind
import ArgTaint.Directive

namespace ArgTaint.Ssa

/-- What an instruction does. -/
inductive Operation where
  | alloc
  | binOp (operator : String)
  | call
  | changeInterface
  | changeType
  | convert
  | debugRef
  | deferred
  | extract
  | field
  | fieldAddr
  | index
  | indexAddr
  | jump
  | cond
  | lookup
  | makeChan
  | makeClosure
  | makeInterface
  | makeMap
  | makeSlice
  | mapUpdate
  | multiConvert
  | next
  | panic
  | phi
  | range
  | ret
  | runDefers
  | select
  | send
  | slice
  | sliceToArrayPointer
  | spawn
  | store
  | typeAssert
  | unOp (operator : String)
  /-- An operation that the analysis does not know. -/
  | other (name : String)
  deriving DecidableEq, Repr

namespace Operation

def isComparison (operator : String) : Bool :=
  ["==", "!=", "<", "<=", ">", ">="].contains operator

def kind : Operation → Kind
  | .store | .send | .mapUpdate => .store
  | .unOp operator => if operator = "*" ∨ operator = "<-" then .load else .binaryOp
  | .select => .load
  | .binOp operator => if isComparison operator then .compare else .binaryOp
  | .convert | .changeType | .changeInterface | .makeInterface | .sliceToArrayPointer
  | .multiConvert | .typeAssert | .range => .cast
  | .index | .lookup => .extractElement
  | .field | .extract | .next => .extractValue
  | .makeClosure => .insertValue
  | .fieldAddr | .indexAddr | .slice => .getElementPointer
  | .call => .call
  | .spawn | .deferred => .invoke
  | .phi => .phi
  | .ret => .ret
  | .cond | .jump => .branch
  | .panic => .unreachable
  | .runDefers => .resume
  | .alloc | .makeChan | .makeMap | .makeSlice => .alloca
  | .debugRef => .fence
  | .other _ => .unknown

end Operation

/-- A value of a function: a parameter, a free variable, the result of an
instruction, or a constant or global, which has no users here. -/
structure Value where
  name : String
  text : String
  /-- The numbers of the instructions that use the value, in order. -/
  users : List Nat := []
  /-- The number of the instruction that the value is the result of. -/
  instr : Option Nat := none
  deriving DecidableEq, Repr, Inhabited

/-- The value as text; the result of an instruction shows its definition. -/
def Value.describe (v : Value) : String :=
  if v.instr.isSome then v.name ++ " = " ++ v.text else v.text

/-- An instruction of a function. -/
structure Instruction where
  operation : Operation
  /-- The value that the instruction produces, as an index. -/
  value : Option Nat := none
  /-- The text of an instruction that produces no value. -/
  text : String := ""
  /-- The operands in the order of the host, as indices; an operand may be
  left out. -/
  operands : List (Option Nat) := []
  position : Option Position := none
  deriving DecidableEq, Repr

namespace Instruction

def kind (i : Instruction) : Kind := i.operation.kind

/-- The operands in the order of the analysis: an instruction that writes
into a location lists the value written, the location, then any key. -/
def orderedOperands (i : Instruction) : List Nat :=
  match i.operation, i.operands with
  | .store, [addr, val] => [val, addr].filterMap id
  | .send, [chan, val] => [val, chan].filterMap id
  | .mapUpdate, [location, key, val] => [val, location, key].filterMap id
  | _, operands => operands.filterMap id

end Instruction

/-- A function of a program. -/
structure Function where
  /-- The name with its package and receiver. -/
  fullName : String
  name : String
  /-- Why the function was made up, or nothing for one that was written. -/
  synthetic : String := ""
  position : Option Position := none
  package : Option String := none
  /-- The package of the generic function that this is an instance of. -/
  originPackage : Option String := none
  params : List Nat := []
  freeVars : List Nat := []
  values : List Value := []
  /-- The blocks, for a function with a body. -/
  blocks : Option (List (List Instruction)) := none
  deriving DecidableEq, Repr

namespace Function

/-- Does the function have no body? -/
def isExternal (f : Function) : Bool := f.blocks.isNone

/-- The instructions of all the blocks, in order; their positions in this
list are their numbers. -/
def instrs (f : Function) : List Instruction := (f.blocks.getD []).flatten

def value? (f : Function) (v : Nat) : Option Value := f.values[v]?

def valueName (f : Function) (v : Nat) : String := ((f.value? v).map Value.name).getD ""

def valueText (f : Function) (v : Nat) : String := ((f.value? v).map Value.describe).getD ""

/-- The name of an instruction: that of its result, or of its kind when it
produces none. -/
def instrName (f : Function) (i : Instruction) : String :=
  match i.value with
  | some v => f.valueName v
  | none => i.kind.name

def instrText (f : Function) (i : Instruction) : String :=
  match i.value with
  | some v => f.valueName v ++ " = " ++ ((f.value? v).map Value.text).getD ""
  | none => i.text

/-- The users of the value with the given index, which are instructions of
the function. -/
def users (f : Function) (v : Nat) : List Nat :=
  (((f.value? v).map Value.users).getD []).filter (· < f.instrs.length)

/-! ## Positions -/

/-- The position that a walk through a block finds, from its last instruction
backwards: that of the first instruction with one after instruction `k` is met.
The instructions that are left come with their indices; `met` says that `k` was
among those before. -/
def searchBack (k : Nat) (met : Bool) : List (Instruction × Nat) → Option Position
  | [] => none
  | (i, n) :: earlier =>
    if n = k then searchBack k true earlier
    else if met && i.position.isSome then i.position
    else searchBack k met earlier

/-- The position of the instruction at index `k` of a block: its own, or that
of the closest instruction before it that has one, or that of the function. -/
def positionIn (f : Function) (block : List Instruction) (k : Nat) : Option Position :=
  let own := block[k]?.bind Instruction.position
  let found := if own.isSome then own else searchBack k false block.zipIdx.reverse
  if found.isSome then found else f.position

/-- The instructions of a block, each with its index in the block and its
position. -/
def placedBlock (f : Function) (block : List Instruction) :
    List (Nat × Instruction × Option Position) :=
  block.mapIdx fun k i => (k, i, f.positionIn block k)

/-- The instructions of all the blocks, each with its index in its block and
its position. -/
def placed (f : Function) : List (Nat × Instruction × Option Position) :=
  (f.blocks.getD []).flatMap f.placedBlock

def instrPosition (f : Function) (n : Nat) : Position :=
  ((f.placed[n]?).bind fun p => p.2.2).getD .none

def file (f : Function) : String := (f.position.getD .none).file

/-- The package that a function counts for. -/
def countsFor (f : Function) : Option String := f.package.or f.originPackage

end Function

/-- A program. -/
structure Program where
  functions : List Function := []
  comments : List Comment := []
  deriving DecidableEq, Repr

namespace Program

def directives (p : Program) : Directives := .find p.comments

end Program

/-! ## Statistics -/

/-- Counts of the elements of a program. -/
structure Counts where
  functions : Nat := 0
  /-- The functions with at least one block. -/
  nonempty : Nat := 0
  blocks : Nat := 0
  instructions : Nat := 0
  deriving DecidableEq, Repr

def Counts.of (fs : List Function) : Counts where
  functions := fs.length
  nonempty := (fs.filter fun f => !(f.blocks.getD []).isEmpty).length
  blocks := (fs.flatMap fun f => f.blocks.getD []).length
  instructions := (fs.flatMap fun f => f.instrs).length

end ArgTaint.Ssa
