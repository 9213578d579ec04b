/-
ArgTaint.LabelGraph.Table — labelled graphs in tables.

A table holds the labels of a graph by id, the ids by label, and for each id a
row: the map whose keys are the successors of the id. Nothing but the way it is
built keeps the three in step. An edge is written into the row of its source,
which fails where there is none.

* `GraphTable.addNode`, `GraphTable.addEdge` — building.
* `GraphTable.id?`, `GraphTable.successors`, `GraphTable.visit` — reading;
  successors come in increasing order.
-/
import ArgTaint.FiniteMap

namespace ArgTaint

/-- A labelled graph in tables. -/
structure GraphTable (T : Type) where
  /-- The labels, by id. -/
  labels : List T
  /-- The ids, by label. -/
  ids : FiniteMap T Nat
  /-- The rows, by id. -/
  rows : FiniteMap Nat (FiniteMap Nat Bool)
  deriving DecidableEq, Repr

namespace GraphTable

/-- Why an edge cannot be written. -/
inductive Fault where
  /-- The source of the edge has no row. -/
  | missingRow (id : Nat)
  deriving DecidableEq, Repr

variable {T : Type}

def empty : GraphTable T := ⟨[], .empty, .empty⟩

def order (t : GraphTable T) : Nat := t.labels.length

def row? (t : GraphTable T) : Int → Option (FiniteMap Nat Bool)
  | .ofNat v => t.rows.get? v
  | .negSucc _ => none

/-- The successors of an id, in increasing order; an id without a row has
none. -/
def successors (t : GraphTable T) (v : Int) : List Nat :=
  ((t.row? v).elim [] FiniteMap.keys).mergeSort (· ≤ ·)

/-- Hand the successors of an id to a visitor, each with the cost of its edge,
until it asks to stop. Did it? -/
def visit {m : Type → Type} [Monad m] (t : GraphTable T) (v : Int) (ask : Nat → Int → m Bool) :
    m Bool :=
  (t.successors v).anyM fun w => ask w 1

variable [DecidableEq T]

def id? (t : GraphTable T) (x : T) : Option Nat := t.ids.get? x

/-- The id of a label, and the tables with a node for it. A new label has the
next free id and an empty row. -/
def addNode (t : GraphTable T) (x : T) : Nat × GraphTable T :=
  match t.ids.get? x with
  | some id => (id, t)
  | none =>
    (t.order, ⟨t.labels ++ [x], t.ids.insert x t.order, t.rows.insert t.order .empty⟩)

def addEdge (t : GraphTable T) (x y : T) : Except Fault (GraphTable T) :=
  let (source, t) := t.addNode x
  let (target, t) := t.addNode y
  match t.rows.get? source with
  | some row => .ok { t with rows := t.rows.insert source (row.insert target true) }
  | none => .error (.missingRow source)

end GraphTable

end ArgTaint
