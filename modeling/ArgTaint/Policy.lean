/-
ArgTaint.Policy — how taint flows through one kind of instruction.

A policy says what happens when an instruction uses a tainted value, and
which value becomes tainted when the taint propagates.

* `Action`, `Policy.Target`, `Policy` — the parts of a policy; both enumerations
  have integer codes, and a code outside them is kept as it is.
* `Kind.policy` — the classification of every kind. A store taints the
  location written, not the stored value; an invoke is a call that transfers
  control; kinds whose propagation is known to be incomplete are deferred.
-/
import ArgTaint.Kind

namespace ArgTaint

/-- What happens when an instruction uses a tainted value. -/
inductive Action where
  /-- The instruction is marked and the target of the policy is tainted. -/
  | propagate
  /-- The instruction is inspected without being marked. -/
  | ignore
  /-- The propagation stops at the instruction. -/
  | opaqueSink
  /-- The kind is not classified; a diagnostic says so. -/
  | unhandled
  /-- A code outside the enumeration. -/
  | other (code : Int) (outside : code < 1 ∨ 5 ≤ code)
  deriving DecidableEq, Repr

namespace Action

def code : Action → Int
  | .propagate => 1
  | .ignore => 2
  | .opaqueSink => 3
  | .unhandled => 4
  | .other code _ => code

def ofCode (n : Int) : Action :=
  if outside : n < 1 ∨ 5 ≤ n then .other n outside
  else if n = 1 then .propagate
  else if n = 2 then .ignore
  else if n = 3 then .opaqueSink
  else .unhandled

def name : Action → String
  | .propagate => "propagate"
  | .ignore => "ignore"
  | .opaqueSink => "opaque-sink"
  | .unhandled => "unhandled"
  | .other code _ => "action(" ++ toString code ++ ")"

end Action

namespace Policy

/-- Which value of an instruction a propagating policy taints. -/
inductive Target where
  | nothing
  | result
  | operand
  /-- A code outside the enumeration; it designates nothing. -/
  | other (code : Int) (outside : code < 0 ∨ 3 ≤ code)
  deriving DecidableEq, Repr

namespace Target

def code : Target → Int
  | .nothing => 0
  | .result => 1
  | .operand => 2
  | .other code _ => code

def ofCode (n : Int) : Target :=
  if outside : n < 0 ∨ 3 ≤ n then .other n outside
  else if n = 0 then .nothing
  else if n = 1 then .result
  else .operand

end Target

end Policy

/-- How taint flows through one kind of instruction. -/
structure Policy where
  action : Action
  target : Policy.Target := .nothing
  /-- The operand position designated by the target `operand`. -/
  operand : Int := 0
  /-- The kind is ignored for now; taint may still flow through it. -/
  deferred : Bool := false
  deriving DecidableEq, Repr

namespace Policy

def describe (p : Policy) : String :=
  if p.action = .propagate then
    if p.target = .operand then "propagate(operand " ++ toString p.operand ++ ")"
    else "propagate(result)"
  else if p.deferred then p.action.name ++ " (deferred)"
  else p.action.name

/-- The instruction is marked and its result is tainted. -/
def taintsResult : Policy := { action := .propagate, target := .result }

/-- The instruction is inspected without being marked. -/
def ignored : Policy := { action := .ignore }

/-- The instruction is ignored for now. -/
def postponed : Policy := { action := .ignore, deferred := true }

/-- The propagation stops at the instruction. -/
def sink : Policy := { action := .opaqueSink }

end Policy

def Kind.policy : Kind → Policy
  | .store => { action := .propagate, target := .operand, operand := 1 }
  | .load | .cast | .binaryOp | .compare | .extractElement | .getElementPointer
  | .call | .invoke => .taintsResult
  | .phi | .ret | .branch => .ignored
  | .insertElement | .shuffleVector | .extractValue | .insertValue | .select => .postponed
  | .landingPad | .funcletPad | .catchSwitch | .resume | .unreachable | .fence
  | .atomicCompareExchange | .atomicReadModifyWrite | .alloca
  | .variableArgumentAccess => .sink
  | .unknown | .other _ _ => { action := .unhandled }

end ArgTaint
