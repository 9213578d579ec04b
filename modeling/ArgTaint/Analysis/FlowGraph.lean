/-
ArgTaint.Analysis.FlowGraph — the taint of a function as a drawing.

The nodes are the tainted values, in the order in which they were tainted,
then the marked instructions that taint nothing. Seeds are boxes, the results
of targets are red, instructions are diamonds. The edges are the flows, each
with the kind of its instruction; a flow from a value to itself is not drawn,
and of several flows between two values the last one counts.

A drawing is built step by step. It knows the node of each item it shows, and
a new node takes the number of these as its own; an edge to or from an item
that has no node is left out.

* `FlowGraph`, `FlowGraph.Item` — a drawing, and what its nodes stand for.
* `FlowGraph.addNode`, `FlowGraph.addEdge` — the steps.
* `FunctionResult.flowGraph` — the drawing of a result, or the fault that ends it.
* `renderAll` — the text of the drawings of several results.
-/
import ArgTaint.Analysis.Function
import ArgTaint.Dot

namespace ArgTaint

/-- What a node of a drawing stands for. -/
inductive FlowGraph.Item where
  | value (v : Nat)
  | instr (i : Nat)
  deriving DecidableEq, Repr

/-- A drawing of the taint of a function. -/
structure FlowGraph where
  graph : Dot.Graph
  /-- The items that have a node, each with its node. -/
  nodes : List (FlowGraph.Item × Dot.Node) := []
  deriving DecidableEq, Repr

namespace FlowGraph

def blank (name : String) : FlowGraph := { graph := { name := name } }

def node? (g : FlowGraph) (x : Item) : Option Dot.Node := g.nodes.lookup x

/-- The drawing with a node for an item, which replaces the node that the item
had. Its number is the number of items that have a node. -/
def addNode (g : FlowGraph) (x : Item) (attributes : List Dot.Attribute) :
    Except Dot.Fault FlowGraph := do
  let node : Dot.Node := ⟨g.nodes.length, attributes⟩
  let graph ← g.graph.addNode node
  return { graph := graph, nodes := g.nodes.filter (fun e => e.1 ≠ x) ++ [(x, node)] }

/-- The drawing with an edge between the nodes of two items, if they have nodes
and are not the same. -/
def addEdge (g : FlowGraph) (source dest : Item) (kind : Kind) : Except Dot.Fault FlowGraph :=
  match g.node? source, g.node? dest with
  | some a, some b =>
    if source = dest then .ok g
    else do
      let graph ← g.graph.setEdge a b [⟨"label", kind.name⟩]
      return { g with graph := graph }
  | _, _ => .ok g

end FlowGraph

namespace FunctionResult

def targetValues (r : FunctionResult) : List Nat :=
  r.findings.filterMap fun d => r.function.view.result d.instr

def valueAttributes (r : FunctionResult) (v : Nat) : List Dot.Attribute :=
  ⟨"label", r.function.valueText v⟩ ::
    (if v ∈ r.store.seeds then [⟨"shape", "box"⟩] else []) ++
    (if v ∈ r.targetValues then [⟨"color", "red"⟩] else [])

/-- The attributes of an instruction that taints nothing. -/
def instrAttributes (r : FunctionResult) (i : Nat) : List Dot.Attribute :=
  [⟨"label", r.function.view.text i⟩, ⟨"shape", "diamond"⟩]

def drawValue (r : FunctionResult) (g : FlowGraph) (v : Nat) : Except Dot.Fault FlowGraph :=
  g.addNode (.value v) (r.valueAttributes v)

def drawFlow (r : FunctionResult) (g : FlowGraph) (e : Edge Nat Nat) :
    Except Dot.Fault FlowGraph :=
  match e.dest with
  | some t => g.addEdge (.value e.source) (.value t) (r.function.view.kind e.instr)
  | none => .ok g

/-- Draw the instruction of an edge of the store, and the edge, when the
instruction taints nothing. -/
def drawEnding (r : FunctionResult) (g : FlowGraph) (e : Edge Nat Nat) :
    Except Dot.Fault FlowGraph :=
  match e.dest with
  | some _ => .ok g
  | none => do
    let g ← if (g.node? (.instr e.instr)).isSome then .ok g
      else g.addNode (.instr e.instr) (r.instrAttributes e.instr)
    g.addEdge (.value e.source) (.instr e.instr) (r.function.view.kind e.instr)

def flowGraph (r : FunctionResult) : Except Dot.Fault FlowGraph := do
  let g ← r.store.values.foldlM r.drawValue (.blank r.function.fullName)
  let g ← (r.store.flows r.function.view).foldlM r.drawFlow g
  r.store.edges.foldlM r.drawEnding g

end FunctionResult

def renderAll (results : List FunctionResult) : Except Dot.Fault String := do
  let drawings ← results.mapM FunctionResult.flowGraph
  return String.join (drawings.map fun g => g.graph.render)

end ArgTaint
