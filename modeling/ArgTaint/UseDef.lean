/-
ArgTaint.UseDef — the view of a function that the taint engine reads.

A host describes a function by its instructions, each with a kind and ordered
operands, and by the use-def edges from values to the instructions that use
them. Values and instructions are compared by identity; the two type
parameters are whatever the host identifies them with.

* `UseDef` — the view. `users_mem` bounds what can ever be marked.
* `UseDef.operand?` — an operand by position.
* `UseDef.target?` — the value that a policy designates.
-/
import ArgTaint.Policy

namespace ArgTaint

/-- What the engine sees of a function: values `V`, instructions `I`. -/
structure UseDef (V I : Type) where
  /-- All the instructions. -/
  instrs : List I
  /-- The instructions that use a value, once per use, in the order the uses
  were made. -/
  users : V → List I
  users_mem : ∀ v, ∀ i ∈ users v, i ∈ instrs
  kind : I → Kind
  /-- The operands in order; a store lists the stored value first and the
  location second. -/
  operands : I → List V
  /-- The value that an instruction produces, if it produces one. -/
  result : I → Option V
  /-- Does the operand stand for no value at all? -/
  isAbsent : V → Bool
  /-- The short name of a value. -/
  name : V → String
  /-- The text of an instruction. -/
  text : I → String

namespace UseDef

variable {V I : Type}

/-- The operand at a position; none when the instruction has fewer. -/
def operand? (g : UseDef V I) (i : I) (position : Int) : Option V :=
  match position with
  | .ofNat n => (g.operands i)[n]?
  | .negSucc _ => none

/-- The value of the instruction that the policy designates. -/
def target? (g : UseDef V I) (p : Policy) (i : I) : Option V :=
  match p.target with
  | .result => g.result i
  | .operand => g.operand? i p.operand
  | _ => none

/-- The value that the instruction taints, by the policy of its kind. -/
def taints? (g : UseDef V I) (i : I) : Option V := g.target? (g.kind i).policy i

end UseDef

end ArgTaint
