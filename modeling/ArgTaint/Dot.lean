/-
ArgTaint.Dot — directed graphs in the DOT language.

* `Dot.Graph` — numbered nodes with attributes, and at most one edge with
  attributes from one node to another.
* `Dot.Graph.addNode`, `Dot.Graph.setEdge` — a graph with one more node or edge;
  `Dot.Fault` says why there is none.
* `Dot.id` — an identifier or a value as DOT writes it: names, numerals,
  quoted strings and markup stand as they are, everything else is quoted.
* `Dot.Graph.render` — the text of a graph.
-/
import ArgTaint.Text.Quoted

namespace ArgTaint.Dot

/-! ## Identifiers -/

def startsName (c : Char) : Bool :=
  c.isAlpha || c == '_' || (decide (0x80 ≤ c.toNat) && decide (c.toNat ≤ 0xff))

def isName : List Char → Bool
  | [] => false
  | c :: rest => startsName c && rest.all fun d => startsName d || d.isDigit

def isNumeral (cs : List Char) : Bool :=
  let cs :=
    match cs with
    | '-' :: rest => rest
    | cs => cs
  match cs with
  | '.' :: rest => !rest.isEmpty && rest.all Char.isDigit
  | cs =>
    let rest := cs.dropWhile Char.isDigit
    !(cs.takeWhile Char.isDigit).isEmpty &&
      match rest with
      | [] => true
      | '.' :: more => more.all Char.isDigit
      | _ => false

/-- Do the angle brackets of the text close one another? `depth` are open. -/
def isBalanced : Nat → List Char → Bool
  | depth, [] => depth == 0
  | depth, '<' :: rest => isBalanced (depth + 1) rest
  | 0, '>' :: _ => false
  | depth + 1, '>' :: rest => isBalanced depth rest
  | depth, _ :: rest => isBalanced depth rest

/-- Is the text markup between angle brackets? -/
def isMarkup (cs : List Char) : Bool :=
  cs.head? == some '<' && cs.getLast? == some '>' && isBalanced 0 cs

/-- Is the text a word of the language, in any case? -/
def isKeyword (cs : List Char) : Bool :=
  ["node", "edge", "graph", "digraph", "subgraph", "strict"].contains
    (String.ofList (cs.map Char.toLower))

/-- The text as an identifier or a value. -/
def id (s : String) : String :=
  let cs := s.toList
  if !isKeyword cs && (isName cs || isNumeral cs || Text.isQuoted s || isMarkup cs) then s
  else Text.quote (Text.ofString s)

/-! ## Graphs -/

/-- An attribute of a node or an edge. -/
structure Attribute where
  key : String
  value : String
  deriving DecidableEq, Repr

def Attribute.render (a : Attribute) : String := a.key ++ "=" ++ id a.value

/-- A node: its number and its attributes. -/
structure Node where
  id : Nat
  attributes : List Attribute
  deriving DecidableEq, Repr

/-- An edge between two nodes, which are given by their numbers. -/
structure Edge where
  source : Nat
  dest : Nat
  attributes : List Attribute
  deriving DecidableEq, Repr

def Edge.ends (e : Edge) : Nat × Nat := (e.source, e.dest)

/-- A directed graph. No two nodes have the same number, no edge leads back to
its own node, and there is at most one edge from one node to another. -/
structure Graph where
  name : String
  nodes : List Node := []
  edges : List Edge := []
  nodup_ids : (nodes.map Node.id).Nodup := by exact List.nodup_nil
  nodup_ends : (edges.map Edge.ends).Nodup := by exact List.nodup_nil
  source_ne_dest : ∀ e ∈ edges, e.source ≠ e.dest := by
    exact fun _ h => absurd h List.not_mem_nil
  deriving DecidableEq, Repr

/-- Why a node or an edge cannot be added to a graph. -/
inductive Fault where
  | repeatedNode (id : Nat)
  | selfEdge
  deriving DecidableEq, Repr

def Fault.message : Fault → String
  | .repeatedNode id => "simple: node ID collision: " ++ toString id
  | .selfEdge => "simple: adding self edge"

/-- The nodes with one more, which replaces the node of its number. -/
def putNode (nodes : List Node) (n : Node) : List Node :=
  if n.id ∈ nodes.map Node.id then nodes.map fun m => if m.id = n.id then n else m
  else nodes ++ [n]

/-- The edges with one more, which replaces the edge between its nodes. -/
def putEdge (edges : List Edge) (e : Edge) : List Edge :=
  edges.filter (fun f => f.ends ≠ e.ends) ++ [e]

theorem nodup_ids_concat {nodes : List Node} {n : Node} (h : (nodes.map Node.id).Nodup)
    (fresh : n.id ∉ nodes.map Node.id) : ((nodes ++ [n]).map Node.id).Nodup := by
  rw [List.map_append, List.nodup_append]
  refine ⟨h, List.nodup_cons.mpr ⟨List.not_mem_nil, List.nodup_nil⟩, fun a ha b hb he => ?_⟩
  rw [List.mem_singleton.mp hb] at he
  exact fresh (he ▸ ha)

/-- Putting a node keeps the numbers distinct. -/
theorem nodup_ids_putNode {nodes : List Node} (n : Node) (h : (nodes.map Node.id).Nodup) :
    ((putNode nodes n).map Node.id).Nodup := by
  rw [putNode]
  split
  · have same : (nodes.map fun m => if m.id = n.id then n else m).map Node.id =
        nodes.map Node.id := by
      rw [List.map_map]
      refine List.map_congr_left fun m _ => ?_
      by_cases hm : m.id = n.id
      · simp only [Function.comp_apply, hm, if_true]
      · simp only [Function.comp_apply, hm, if_false]
    rw [same]
    exact h
  · next fresh => exact nodup_ids_concat h fresh

/-- Putting an edge keeps at most one edge from a node to another. -/
theorem nodup_ends_putEdge {edges : List Edge} (e : Edge) (h : (edges.map Edge.ends).Nodup) :
    ((putEdge edges e).map Edge.ends).Nodup := by
  rw [putEdge, List.map_append, List.nodup_append]
  refine ⟨h.sublist (List.filter_sublist.map _),
    List.nodup_cons.mpr ⟨List.not_mem_nil, List.nodup_nil⟩, fun a ha b hb he => ?_⟩
  obtain ⟨f, hf, rfl⟩ := List.mem_map.mp ha
  rw [List.mem_singleton.mp hb] at he
  exact of_decide_eq_true (List.mem_filter.mp hf).2 he

theorem source_ne_dest_putEdge {edges : List Edge} {e : Edge} (he : e.source ≠ e.dest)
    (h : ∀ f ∈ edges, f.source ≠ f.dest) : ∀ f ∈ putEdge edges e, f.source ≠ f.dest := by
  intro f hf
  rcases List.mem_append.mp hf with hf | hf
  · exact h f (List.mem_filter.mp hf).1
  · rw [List.mem_singleton.mp hf]
    exact he

namespace Graph

/-- The graph with one more node, whose number must be new. -/
def addNode (g : Graph) (n : Node) : Except Fault Graph :=
  if h : n.id ∈ g.nodes.map Node.id then .error (.repeatedNode n.id)
  else .ok { g with nodes := g.nodes ++ [n], nodup_ids := nodup_ids_concat g.nodup_ids h }

/-- The graph with an edge from one node to another, which replaces an edge
between them. The nodes are put into the graph too. -/
def setEdge (g : Graph) (a b : Node) (attributes : List Attribute) : Except Fault Graph :=
  if h : a.id = b.id then .error .selfEdge
  else
    .ok
      { g with
        nodes := putNode (putNode g.nodes a) b
        edges := putEdge g.edges ⟨a.id, b.id, attributes⟩
        nodup_ids := nodup_ids_putNode b (nodup_ids_putNode a g.nodup_ids)
        nodup_ends := nodup_ends_putEdge _ g.nodup_ends
        source_ne_dest := source_ne_dest_putEdge h g.source_ne_dest }

end Graph

def nodeName (n : Nat) : String := "n" ++ toString n

def sortNodes (nodes : List Node) : List Node :=
  nodes.mergeSort fun a b => decide (a.id ≤ b.id)

def sortEdges (edges : List Edge) : List Edge :=
  edges.mergeSort fun a b =>
    decide (a.source < b.source ∨ (a.source = b.source ∧ a.dest ≤ b.dest))

/-- An element with its attributes: one stands on the line of the element,
several on lines of their own. -/
def renderElement (element : String) : List Attribute → String
  | [] => "  " ++ element ++ ";\n"
  | [a] => "  " ++ element ++ " [" ++ a.render ++ "];\n"
  | attributes =>
    "  " ++ element ++ " [\n" ++
      String.join (attributes.map fun a => "    " ++ a.render ++ "\n") ++ "  ];\n"

namespace Graph

def renderNodes (g : Graph) : String :=
  if g.nodes.isEmpty then ""
  else
    "  // Node definitions.\n" ++
      String.join ((sortNodes g.nodes).map fun n => renderElement (nodeName n.id) n.attributes)

def renderEdges (g : Graph) : String :=
  if g.edges.isEmpty then ""
  else
    "\n  // Edge definitions.\n" ++
      String.join ((sortEdges g.edges).map fun e =>
        renderElement (nodeName e.source ++ " -> " ++ nodeName e.dest) e.attributes)

def render (g : Graph) : String :=
  "strict digraph " ++ id g.name ++ " \x7b\n" ++ g.renderNodes ++ g.renderEdges ++ "\x7d\n"

def outDegree (g : Graph) (n : Nat) : Nat := (g.edges.filter fun e => e.source = n).length

def inDegree (g : Graph) (n : Nat) : Nat := (g.edges.filter fun e => e.dest = n).length

end Graph

end ArgTaint.Dot
