/-
ArgTaint.Engine.Call — the engine call by call.

A host seeds and steps an engine in any order it likes. A call leaves a store
behind also when it is refused: what was seeded before the refusal stays.

* `EngineCall` — the calls; `EngineCall.seeds` is what a call hands over.
* `Store.perform`, `Store.run` — the store that one call, or a list of calls,
  leaves behind.
-/
import ArgTaint.Engine.Propagation

namespace ArgTaint

/-- A call to the engine. -/
inductive EngineCall (V : Type) where
  | seed (v : Option V)
  | seedAll (vs : List (Option V))
  | step
  | propagate
  deriving DecidableEq, Repr

/-- What a call hands over as seeds. -/
def EngineCall.seeds {V : Type} : EngineCall V → List (Option V)
  | .seed v => [v]
  | .seedAll vs => vs
  | .step | .propagate => []

namespace Store

variable {V I : Type} [DecidableEq V] [DecidableEq I]

def perform (g : UseDef V I) (s : Store V I) : EngineCall V → Store V I
  | .seed v =>
    match s.seed g v with
    | .ok p => p.store
    | .error _ => s
  | .seedAll vs => (s.seedAll g vs).1.store
  | .step =>
    match s.step? g with
    | some p => p.store
    | none => s
  | .propagate => (s.propagate g).store

def run (g : UseDef V I) (s : Store V I) (calls : List (EngineCall V)) : Store V I :=
  calls.foldl (perform g) s

end Store

end ArgTaint
