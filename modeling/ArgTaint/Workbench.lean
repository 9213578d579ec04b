/-
ArgTaint.Workbench — a function under construction beside an engine.

A function may grow while an engine is at work on it: calls that build the
function and calls to the engine come in any order. A call that fails leaves
behind what it did before the failure.

* `Build.Call`, `Build.perform`, `Build.run` — building call by call.
* `Workbench`, `Workbench.perform`, `Workbench.run` — both kinds of calls.
-/
import ArgTaint.Build
import ArgTaint.Engine.Call

namespace ArgTaint

namespace Build

/-- A call that builds a function. -/
inductive Call where
  | newBlock
  | newConst (name : String)
  | emit (block : Nat) (kind : Kind) (name : String) (operands : List (Option Value))
  | emitVoid (block : Nat) (kind : Kind) (operands : List (Option Value))
  | addOperand (instr : Nat) (operand : Option Value)
  deriving DecidableEq, Repr

def failure? : Except Failure Nat → Option Failure
  | .ok _ => none
  | .error e => some e

/-- The function that a call leaves behind, and why the call failed. -/
def perform (b : Build) : Call → Build × Option Failure
  | .newBlock => (b.newBlock.1, none)
  | .newConst name => ((b.newConst name).1, none)
  | .emit block kind name operands => (b.emit block kind name operands).map id failure?
  | .emitVoid block kind operands => (b.emitVoid block kind operands).map id failure?
  | .addOperand instr operand => b.addOperand instr operand

def run (b : Build) (calls : List Call) : Build := calls.foldl (fun b c => (b.perform c).1) b

end Build

/-- A function under construction and the store of an engine that reads it. -/
structure Workbench where
  build : Build
  store : Store Build.Value Nat := .empty
  deriving DecidableEq, Repr

namespace Workbench

/-- A call of either kind. -/
inductive Call where
  | build (call : Build.Call)
  | engine (call : EngineCall Build.Value)
  deriving DecidableEq, Repr

def new (name : String) (params : List String) : Workbench where
  build := .new name params

def perform (w : Workbench) : Call → Workbench
  | .build c => { w with build := (w.build.perform c).1 }
  | .engine c => { w with store := w.store.perform w.build.view c }

def run (w : Workbench) (calls : List Call) : Workbench := calls.foldl perform w

end Workbench

end ArgTaint
