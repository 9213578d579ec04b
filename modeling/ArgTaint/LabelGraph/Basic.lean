/-
ArgTaint.LabelGraph.Basic — directed graphs with labelled nodes.

A node has an id, its position among the labels in order of first mention.
Edges are pairs of ids, each held once.

* `LabelGraph.addNode`, `LabelGraph.addEdge` — building.
* `LabelGraph.id?`, `LabelGraph.hasEdge` — reading.
* `LabelGraph.stats` — sizes.
-/

namespace ArgTaint

/-- A directed graph whose nodes carry labels. -/
structure LabelGraph (T : Type) where
  labels : List T
  edges : List (Nat × Nat)
  deriving DecidableEq, Repr

namespace LabelGraph

variable {T : Type} [DecidableEq T]

def empty : LabelGraph T := ⟨[], []⟩

def id? (g : LabelGraph T) (x : T) : Option Nat := g.labels.findIdx? (· = x)

def order (g : LabelGraph T) : Nat := g.labels.length

def addNode (g : LabelGraph T) (x : T) : LabelGraph T :=
  if x ∈ g.labels then g else { g with labels := g.labels ++ [x] }

/-- The id of a label, which is the next free one for a new label. -/
def idOrNext (g : LabelGraph T) (x : T) : Nat := (g.id? x).getD g.order

def addEdge (g : LabelGraph T) (x y : T) : LabelGraph T :=
  let g := (g.addNode x).addNode y
  let e := (g.idOrNext x, g.idOrNext y)
  if e ∈ g.edges then g else { g with edges := g.edges ++ [e] }

def hasEdge (g : LabelGraph T) (v w : Nat) : Bool := decide ((v, w) ∈ g.edges)

/-- Sizes of a graph. -/
structure Stats where
  /-- The number of edges. -/
  size : Nat
  /-- The number of repeated edges; there is none. -/
  multi : Nat
  /-- The number of edges with a cost; every edge costs one. -/
  weighted : Nat
  /-- The number of edges from a node to itself. -/
  loops : Nat
  /-- The number of nodes without an outgoing edge. -/
  isolated : Nat
  deriving DecidableEq, Repr

def stats (g : LabelGraph T) : Stats where
  size := g.edges.length
  multi := 0
  weighted := g.edges.length
  loops := (g.edges.filter fun e => e.1 = e.2).length
  isolated := ((List.range g.order).filter fun v => !(g.edges.any fun e => e.1 = v)).length

def Stats.describe (s : Stats) : String :=
  "\x7bSize:" ++ toString s.size ++ " Multi:" ++ toString s.multi ++ " Weighted:" ++
    toString s.weighted ++ " Loops:" ++ toString s.loops ++ " Isolated:" ++
    toString s.isolated ++ "\x7d"

end LabelGraph

end ArgTaint
