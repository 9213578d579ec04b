/-
ArgTaint.Ssa.View — functions in SSA form as the taint engine sees them.

Values are identified by their index in the value table, instructions by
their number.
-/
import ArgTaint.Ssa.Basic
import ArgTaint.UseDef

namespace ArgTaint.Ssa.Function

/-- Only instructions of the function are users. -/
theorem lt_of_mem_users {f : Function} {v i : Nat} (h : i ∈ f.users v) :
    i < f.instrs.length := by
  simpa using (List.mem_filter.1 h).2

def view (f : Function) : UseDef Nat Nat where
  instrs := List.range f.instrs.length
  users := f.users
  users_mem _ _ h := List.mem_range.2 (lt_of_mem_users h)
  kind i := (f.instrs[i]?.map Instruction.kind).getD .unknown
  operands i := (f.instrs[i]?.map Instruction.orderedOperands).getD []
  result i := f.instrs[i]?.bind Instruction.value
  isAbsent _ := false
  name := f.valueName
  text i := (f.instrs[i]?.map f.instrText).getD ""

end ArgTaint.Ssa.Function
