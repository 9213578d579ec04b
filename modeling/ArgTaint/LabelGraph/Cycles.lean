/-
ArgTaint.LabelGraph.Cycles — the groups of nodes that lie on common cycles.

A component is the set of the nodes that reach one another by non-empty
paths. Nodes that lie on no cycle are in no component. The nodes of a
component are those that a node of it reaches both along the edges and
against them.

* `Adjacency` — the neighbours of each id.
* `Adjacency.reached` — what can be reached by a non-empty path.
* `LabelGraph.components` — the components, as lists of ids.
* `LabelGraph.cyclicComponents` — the same, as lists of labels.
-/
import ArgTaint.LabelGraph.Basic

namespace ArgTaint

/-- The neighbours of each id in one direction. -/
structure Adjacency where
  neighbours : Array (List Nat)
  /-- The number of all of them. -/
  size : Nat
  deriving DecidableEq, Repr

namespace Adjacency

/-- The ends of the edges, by their starts; there are `order` ids. -/
def ofEdges (order : Nat) (edges : List (Nat × Nat)) : Adjacency where
  neighbours :=
    edges.foldl (fun table e => table.modify e.1 (e.2 :: ·)) (Array.replicate order [])
  size := edges.length

/-- The ids met from a frontier, each expanded once; `bound` counts the
frontier entries that may still be looked at. -/
def search (a : Adjacency) : Nat → List Nat → Array Bool → Array Bool
  | 0, _, seen => seen
  | _ + 1, [], seen => seen
  | bound + 1, v :: frontier, seen =>
    if seen.getD v true then a.search bound frontier seen
    else a.search bound (a.neighbours.getD v [] ++ frontier) (seen.setIfInBounds v true)

/-- Which ids does a non-empty path from `v` lead to? Every edge puts at most
one entry on the frontier, and the neighbours of `v` are on it at the
start. -/
def reached (a : Adjacency) (v : Nat) : Array Bool :=
  a.search (2 * a.size + 1) (a.neighbours.getD v [])
    (Array.replicate a.neighbours.size false)

end Adjacency

namespace LabelGraph

variable {T : Type}

/-- The neighbours along the edges. -/
def forward (g : LabelGraph T) : Adjacency := .ofEdges g.order g.edges

/-- The neighbours against the edges. -/
def backward (g : LabelGraph T) : Adjacency :=
  .ofEdges g.order (g.edges.map fun e => (e.2, e.1))

/-- The ids that reach and are reached by `v`, in increasing order. -/
def onCommonCycle (forward backward : Adjacency) (v : Nat) : List Nat :=
  let after := forward.reached v
  if after.getD v false then
    let before := backward.reached v
    (List.range after.size).filter fun w => after.getD w false && before.getD w false
  else []

/-- The components, each in increasing order, by increasing first id. -/
def components (g : LabelGraph T) : List (List Nat) :=
  let forward := g.forward
  let backward := g.backward
  (List.range g.order).filterMap fun v =>
    let c := onCommonCycle forward backward v
    if c.head? = some v then some c else none

/-- The labels of the components. -/
def cyclicComponents (g : LabelGraph T) : List (List T) :=
  g.components.map fun c => c.filterMap fun v => g.labels[v]?

end LabelGraph

end ArgTaint
