/-
ArgTaint.Engine.Flow — all the flows between tainted values.

The edges of a store explain each marked instruction by one tainted operand.
The flows list every tainted operand of every marked instruction with a
target, so they are the edges of the graph of what influences what.

* `Store.flows` — the flows, grouped by marked instruction.
* `Store.flowGraph` — the flows as a graph whose nodes are the tainted values.
* `Store.flowCycles` — the groups of values that influence one another.
-/
import ArgTaint.Engine.Propagation
import ArgTaint.LabelGraph.Cycles

namespace ArgTaint.Store

variable {V I : Type} [DecidableEq V] [DecidableEq I]

/-- The operands that flow into `t`, without repetition, in order of first
occurrence; `seen` are the operands passed already. -/
def sources (s : Store V I) (t : V) (seen : List V) : List V → List V
  | [] => []
  | op :: rest =>
    if op = t ∨ op ∈ seen ∨ op ∉ s.valueSet then s.sources t seen rest
    else op :: s.sources t (op :: seen) rest

def flowsInto (g : UseDef V I) (s : Store V I) (i : I) : List (Edge V I) :=
  match g.taints? i with
  | none => []
  | some t => (s.sources t [] (g.operands i)).map fun op => ⟨op, i, some t⟩

/-- The flows of all the marked instructions, in the order they were marked. -/
def flows (g : UseDef V I) (s : Store V I) : List (Edge V I) :=
  s.instrs.flatMap (s.flowsInto g)

/-- The graph of the flows; its first nodes are the tainted values. -/
def flowGraph (g : UseDef V I) (s : Store V I) : LabelGraph V :=
  let nodes := s.values.foldl LabelGraph.addNode .empty
  (s.flows g).foldl
    (fun h e =>
      match e.dest with
      | some t => h.addEdge e.source t
      | none => h)
    nodes

/-- The groups of values that influence one another. -/
def flowCycles (g : UseDef V I) (s : Store V I) : List (List V) :=
  (s.flowGraph g).cyclicComponents

end ArgTaint.Store
