/-
ArgTaint.Workshop — functions under construction beside an engine.

Several functions may grow while an engine is at work on the graph that they
share: calls that build functions and calls to the engine come in any order. A
call that fails leaves behind what it did before the failure.

* `Workshop`, `Workshop.perform`, `Workshop.run` — both kinds of calls.
-/
import ArgTaint.Assembly

namespace ArgTaint

/-- Functions under construction and the store of an engine that reads their
graph. -/
structure Workshop where
  assembly : Assembly
  store : Store Build.Value Nat := .empty
  deriving DecidableEq, Repr

namespace Workshop

/-- A call of either kind. -/
inductive Call where
  | build (call : Assembly.Call)
  | engine (call : EngineCall Build.Value)
  deriving DecidableEq, Repr

def empty : Workshop where
  assembly := .empty

def perform (w : Workshop) : Call → Workshop
  | .build c => { w with assembly := (w.assembly.perform c).1 }
  | .engine c => { w with store := w.store.perform w.assembly.graph.view c }

def run (w : Workshop) (calls : List Call) : Workshop := calls.foldl perform w

end Workshop

end ArgTaint
