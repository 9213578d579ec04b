/-
ArgTaint.Analysis.Stats — how much is tainted.

Counters are 64-bit and wrap around.
-/
import ArgTaint.Tally

namespace ArgTaint

/-- Statistics about the taint of one or several functions. -/
structure Stats where
  functions : Int64 := 0
  /-- The tainted values, seeds included. -/
  taintedValues : Int64 := 0
  taintedInstructions : Int64 := 0
  targets : Int64 := 0
  /-- The groups of values that influence one another. -/
  cycles : Int64 := 0
  /-- The tainted instructions by the name of their kind. -/
  kinds : Tally := []
  deriving DecidableEq, Repr

def Stats.add (a b : Stats) : Stats where
  functions := a.functions + b.functions
  taintedValues := a.taintedValues + b.taintedValues
  taintedInstructions := a.taintedInstructions + b.taintedInstructions
  targets := a.targets + b.targets
  cycles := a.cycles + b.cycles
  kinds := a.kinds.add b.kinds

end ArgTaint
