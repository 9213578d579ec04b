/-
ArgTaint.Proofs.Analysis.FlowGraph — drawings show what was found.

A drawing is built item by item: a new node takes the number of the items that
are there, an edge is looked up by its two items and left out when one of them
has no node, and the graph refuses a number that is taken and an edge from a
node to itself. None of this ever happens in the drawing of an analysis: the
store lists a value and an instruction once, and the flows and edges start and
end at what is tainted.

  §1 Construction — what a drawing holds after some items and edges (`Draws`).
  §2 Drawings     — the drawing of a result, with all its items and edges.
  §3 Analyses     — what the drawing of an analysis shows (`Shows`).
  §4 Labels       — the kind that an edge shows is that of the last flow.
-/
import ArgTaint.Analysis.FlowGraph
import ArgTaint.Proofs.Dot
import ArgTaint.Proofs.Engine.Flows
import ArgTaint.Proofs.Kind
import ArgTaint.Proofs.Analysis.Seeds

namespace ArgTaint

/-! ## §1 Construction -/

/-- A fold succeeds when each step does; `P` is what holds after the part of
the list that is done. -/
theorem exists_foldlM_ok {α β ε : Type} {f : β → α → Except ε β} {l : List α}
    (P : List α → β → Prop)
    (step : ∀ done x b, done ++ [x] <+: l → P done b → ∃ c, f b x = .ok c ∧ P (done ++ [x]) c)
    {b : β} (start : P [] b) : ∃ c, l.foldlM f b = .ok c ∧ P l c := by
  induction l using List.reverseRecOn with
  | nil => exact ⟨b, rfl, start⟩
  | append_singleton l x ih =>
    obtain ⟨c, hc, hp⟩ :=
      ih fun done y b hl => step done y b (hl.trans (List.prefix_append l [x]))
    obtain ⟨c', hc', hp'⟩ := step l x c List.prefix_rfl hp
    refine ⟨c', ?_, hp'⟩
    rw [List.foldlM_append, hc]
    change [x].foldlM f c = .ok c'
    rw [List.foldlM_cons, hc']
    rfl

/-- Entries that are numbered in order are found at the position of their key. -/
theorem lookup_mapIdx {α β : Type} [DecidableEq α] (y : α) :
    ∀ (xs : List α) (f : Nat → α → β), (xs.mapIdx fun k x => (x, f k x)).lookup y =
      if y ∈ xs then some (f (xs.idxOf y) y) else none := by
  intro xs
  induction xs with
  | nil => intro f; rfl
  | cons x xs ih =>
    intro f
    rw [List.mapIdx_cons, List.lookup_cons, ih fun k => f (k + 1)]
    by_cases h : y = x
    · subst h
      simp
    · have hx : (y == x) = false := beq_eq_false_iff_ne.mpr h
      simp only [hx, List.mem_cons, h, false_or, List.idxOf_cons_ne xs (Ne.symm h),
        Nat.succ_eq_add_one]

/-- In a list without repetition an entry stands at one position. -/
theorem getElem?_eq_some_iff_idxOf {α : Type} [DecidableEq α] {xs : List α} (h : xs.Nodup)
    {k : Nat} {x : α} : xs[k]? = some x ↔ x ∈ xs ∧ xs.idxOf x = k := by
  constructor
  · intro hk
    obtain ⟨hlt, rfl⟩ := List.getElem?_eq_some_iff.mp hk
    exact ⟨List.getElem_mem hlt, h.idxOf_getElem k hlt⟩
  · rintro ⟨hx, rfl⟩
    exact List.getElem?_idxOf hx

namespace FlowGraph

variable {attributes : Item → List Dot.Attribute} {xs : List Item} {es : List Dot.Edge}
  {g : FlowGraph}

/-- The drawing has the items `xs`, in this order and with the given
attributes, and the edges `es` were put into it. -/
structure Draws (attributes : Item → List Dot.Attribute) (xs : List Item) (es : List Dot.Edge)
    (g : FlowGraph) : Prop where
  nodes : g.nodes = xs.mapIdx fun k x => (x, ⟨k, attributes x⟩)
  graph_nodes : g.graph.nodes = g.nodes.map Prod.snd
  edges : g.graph.edges = es.foldl Dot.putEdge []

theorem draws_blank (name : String) : Draws attributes [] [] (blank name) := ⟨rfl, rfl, rfl⟩

namespace Draws

/-- The items have nodes, numbered in the order of drawing; nothing else has. -/
theorem node?_eq (d : Draws attributes xs es g) (x : Item) :
    g.node? x = if x ∈ xs then some ⟨xs.idxOf x, attributes x⟩ else none := by
  rw [node?, d.nodes]
  exact lookup_mapIdx x xs fun k x => Dot.Node.mk k (attributes x)

theorem node?_of_mem (d : Draws attributes xs es g) {x : Item} (hx : x ∈ xs) :
    g.node? x = some ⟨xs.idxOf x, attributes x⟩ := by
  rw [d.node?_eq, if_pos hx]

theorem graph_nodes_eq (d : Draws attributes xs es g) :
    g.graph.nodes = xs.mapIdx fun k x => ⟨k, attributes x⟩ := by
  rw [d.graph_nodes, d.nodes]
  refine List.ext_getElem (by simp) fun k _ _ => ?_
  simp

theorem ids (d : Draws attributes xs es g) :
    g.graph.nodes.map Dot.Node.id = List.range xs.length := by
  rw [d.graph_nodes_eq]
  refine List.ext_getElem (by simp) fun k _ _ => ?_
  simp

theorem mem_graph_nodes (d : Draws attributes xs es g) {x : Item} (hx : x ∈ xs) :
    (⟨xs.idxOf x, attributes x⟩ : Dot.Node) ∈ g.graph.nodes := by
  rw [d.graph_nodes_eq]
  refine List.mem_mapIdx.mpr ⟨xs.idxOf x, List.idxOf_lt_length_of_mem hx, ?_⟩
  rw [List.getElem_idxOf]

/-- A new item gets the next number. -/
theorem addNode (d : Draws attributes xs es g) {x : Item} (fresh : x ∉ xs) :
    ∃ h, g.addNode x (attributes x) = .ok h ∧ Draws attributes (xs ++ [x]) es h := by
  have length : g.nodes.length = xs.length := by rw [d.nodes, List.length_mapIdx]
  have number : g.nodes.length ∉ g.graph.nodes.map Dot.Node.id := by
    rw [d.ids, length, List.mem_range]
    exact Nat.lt_irrefl _
  have kept : g.nodes.filter (fun e => e.1 ≠ x) = g.nodes := by
    refine List.filter_eq_self.mpr fun e he => decide_eq_true fun hx => ?_
    rw [d.nodes] at he
    obtain ⟨k, hk, rfl⟩ := List.mem_mapIdx.mp he
    exact fresh (hx ▸ List.getElem_mem hk)
  obtain ⟨graph, hgraph, hnodes, hedges⟩ :=
    Dot.Graph.addNode_of_fresh (n := ⟨g.nodes.length, attributes x⟩) number
  refine ⟨{ graph := graph, nodes := g.nodes ++ [(x, ⟨g.nodes.length, attributes x⟩)] }, ?_, ?_⟩
  · rw [FlowGraph.addNode, hgraph, kept]
    rfl
  · refine ⟨?_, ?_, hedges.trans d.edges⟩
    · rw [List.mapIdx_concat, ← d.nodes, length]
    · rw [hnodes, d.graph_nodes, List.map_append]
      rfl

/-- An edge between two items that have nodes is put into the graph. -/
theorem addEdge (d : Draws attributes xs es g) {x y : Item} (hx : x ∈ xs) (hy : y ∈ xs)
    (hne : x ≠ y) (kind : Kind) :
    ∃ h, g.addEdge x y kind = .ok h ∧
      Draws attributes xs (es ++ [⟨xs.idxOf x, xs.idxOf y, [⟨"label", kind.name⟩]⟩]) h := by
  have ids : xs.idxOf x ≠ xs.idxOf y := fun he => hne ((List.idxOf_inj hx).mp he)
  obtain ⟨graph, hgraph, hnodes, hedges⟩ := Dot.Graph.setEdge_of_mem (d.mem_graph_nodes hx)
    (d.mem_graph_nodes hy) ids [⟨"label", kind.name⟩]
  refine ⟨{ g with graph := graph }, ?_, d.nodes, hnodes.trans d.graph_nodes, ?_⟩
  · simp only [FlowGraph.addEdge, d.node?_of_mem hx, d.node?_of_mem hy, if_neg hne, hgraph]
    rfl
  · rw [List.foldl_concat, ← d.edges]
    exact hedges

end Draws

end FlowGraph

/-! ## §2 Drawings -/

/-- Where an edge of a store leads: to a value, or to its own instruction. -/
def Edge.leadsTo (e : Edge Nat Nat) : FlowGraph.Item :=
  match e.dest with
  | some t => .value t
  | none => .instr e.instr

namespace FunctionResult

variable {r : FunctionResult}

/-- The edges of the store whose instruction taints nothing. -/
def endings (r : FunctionResult) : List (Edge Nat Nat) :=
  r.store.edges.filter fun e => e.dest.isNone

/-- What is to be drawn: the tainted values, then the marked instructions that
taint nothing. -/
def items (r : FunctionResult) : List FlowGraph.Item :=
  r.store.values.map .value ++ r.endings.map fun e => .instr e.instr

/-- What has been drawn when part of the edges of the store is done. -/
def itemsAfter (r : FunctionResult) (done : List (Edge Nat Nat)) : List FlowGraph.Item :=
  r.store.values.map .value ++ (done.filter fun e => e.dest.isNone).map fun e => .instr e.instr

def attributes (r : FunctionResult) : FlowGraph.Item → List Dot.Attribute
  | .value v => r.valueAttributes v
  | .instr i => r.instrAttributes i

/-- The edge that stands for a flow, or for an edge of the store. -/
def lineOf (r : FunctionResult) (e : Edge Nat Nat) : Dot.Edge :=
  ⟨r.items.idxOf (.value e.source), r.items.idxOf e.leadsTo,
    [⟨"label", (r.function.view.kind e.instr).name⟩]⟩

/-- The drawing has all items of the result, and was given the flows and then the
edges to the instructions that taint nothing. -/
abbrev IsDrawnIn (r : FunctionResult) (g : FlowGraph) : Prop :=
  g.Draws r.attributes r.items ((r.store.flows r.function.view ++ r.endings).map r.lineOf)

/-- The store is at rest, and its edges start at tainted values. -/
structure Settled (r : FunctionResult) : Prop where
  rest : Store.AtRest r.function.view r.store
  source_mem : ∀ e ∈ r.store.edges, e.source ∈ r.store.values

theorem value_mem_items {v : Nat} : .value v ∈ r.items ↔ v ∈ r.store.values := by
  simp [items]

theorem instr_mem_items {i : Nat} :
    .instr i ∈ r.items ↔ ∃ e ∈ r.store.edges, e.dest = none ∧ e.instr = i := by
  simp [items, endings, and_assoc]

/-- What has been drawn is a beginning of what is to be drawn. -/
theorem prefix_itemsAfter {done : List (Edge Nat Nat)} (h : done <+: r.store.edges) :
    r.itemsAfter done <+: r.items :=
  (List.prefix_append_right_inj _).mpr ((h.filter _).map _)

/-- The edge of a flow is drawn once both its ends are. -/
theorem exists_addLine {xs : List FlowGraph.Item} {es : List Dot.Edge} {g : FlowGraph}
    (d : g.Draws r.attributes xs es) (hxs : xs <+: r.items) {e : Edge Nat Nat}
    (hsource : .value e.source ∈ xs) (hdest : e.leadsTo ∈ xs)
    (hne : .value e.source ≠ e.leadsTo) :
    ∃ h, g.addEdge (.value e.source) e.leadsTo (r.function.view.kind e.instr) = .ok h ∧
      h.Draws r.attributes xs (es ++ [r.lineOf e]) := by
  obtain ⟨rest, hrest⟩ := hxs
  have line : r.lineOf e = ⟨xs.idxOf (.value e.source), xs.idxOf e.leadsTo,
      [⟨"label", (r.function.view.kind e.instr).name⟩]⟩ := by
    rw [lineOf, ← hrest, List.idxOf_append_of_mem hsource, List.idxOf_append_of_mem hdest]
  rw [line]
  exact d.addEdge hsource hdest hne _

namespace Settled

/-- An instruction has one edge. -/
theorem nodup_instrs (h : r.Settled) : (r.store.edges.map Edge.instr).Nodup :=
  h.rest.wellFormed.edges_instrs ▸ h.rest.wellFormed.instrs_nodup

/-- Nothing is drawn twice. -/
theorem nodup_items (h : r.Settled) : r.items.Nodup := by
  have values : (r.store.values.map FlowGraph.Item.value).Nodup :=
    h.rest.wellFormed.values_nodup.map fun _ _ he => FlowGraph.Item.value.inj he
  have endings : (r.endings.map fun e => FlowGraph.Item.instr e.instr).Nodup := by
    have kept : (r.endings.map Edge.instr).Nodup :=
      h.nodup_instrs.sublist (List.filter_sublist.map _)
    have marked :=
      kept.map (f := FlowGraph.Item.instr) fun _ _ he => FlowGraph.Item.instr.inj he
    rwa [List.map_map] at marked
  refine List.nodup_append.mpr ⟨values, endings, fun x hx y hy he => ?_⟩
  obtain ⟨v, -, rfl⟩ := List.mem_map.mp hx
  obtain ⟨e, -, rfl⟩ := List.mem_map.mp hy
  cases he

/-- Both ends of a flow are tainted, and they are not the same. -/
theorem flow_ends (h : r.Settled) {e : Edge Nat Nat} (he : e ∈ r.store.flows r.function.view) :
    ∃ t, e.dest = some t ∧ e.source ∈ r.store.values ∧ t ∈ r.store.values ∧ e.source ≠ t := by
  obtain ⟨hsource, hdest⟩ := h.rest.mem_values_of_mem_flows (fun _ _ _ => rfl) he
  obtain ⟨t, -, -, hd, -, hne, -⟩ := Store.mem_flows.mp he
  exact ⟨t, hd, hsource, hdest t hd, hne⟩

/-- The tainted values are drawn in order. -/
theorem exists_drawValues (h : r.Settled) :
    ∃ g, r.store.values.foldlM r.drawValue (.blank r.function.fullName) = .ok g ∧
      g.Draws r.attributes (r.store.values.map .value) [] := by
  refine exists_foldlM_ok
    (fun done (g : FlowGraph) => g.Draws r.attributes (done.map .value) [])
    (fun done v g hdone d => ?_) (FlowGraph.draws_blank _)
  have nodup : (done ++ [v]).Nodup := h.rest.wellFormed.values_nodup.sublist hdone.sublist
  have fresh : FlowGraph.Item.value v ∉ done.map .value := by
    intro hm
    obtain ⟨w, hw, he⟩ := List.mem_map.mp hm
    cases he
    exact (List.nodup_append.mp nodup).2.2 v hw v List.mem_cons_self rfl
  rw [List.map_append]
  exact d.addNode fresh

/-- Then every flow, from node to node. -/
theorem exists_drawFlows (h : r.Settled) {g : FlowGraph}
    (d : g.Draws r.attributes (r.store.values.map .value) []) :
    ∃ g', (r.store.flows r.function.view).foldlM r.drawFlow g = .ok g' ∧
      g'.Draws r.attributes (r.store.values.map .value)
        ((r.store.flows r.function.view).map r.lineOf) := by
  refine exists_foldlM_ok
    (fun done (g : FlowGraph) =>
      g.Draws r.attributes (r.store.values.map .value) (done.map r.lineOf))
    (fun done e g hdone d => ?_) d
  have he : e ∈ r.store.flows r.function.view :=
    hdone.sublist.subset (List.mem_append_right _ List.mem_cons_self)
  obtain ⟨t, hd, hsource, ht, hne⟩ := h.flow_ends he
  have leads : e.leadsTo = .value t := by rw [Edge.leadsTo, hd]
  have drawn : r.drawFlow g e =
      g.addEdge (.value e.source) e.leadsTo (r.function.view.kind e.instr) := by
    rw [leads, drawFlow, hd]
  rw [drawn, List.map_append]
  refine exists_addLine d (List.prefix_append _ _) (List.mem_map_of_mem hsource) ?_ ?_
  · rw [leads]
    exact List.mem_map_of_mem ht
  · rw [leads]
    exact fun he => hne (FlowGraph.Item.value.inj he)

/-- The instruction of the next edge has no node yet. -/
theorem instr_not_mem_itemsAfter (h : r.Settled) {done : List (Edge Nat Nat)} {e : Edge Nat Nat}
    (hdone : done ++ [e] <+: r.store.edges) : .instr e.instr ∉ r.itemsAfter done := by
  intro hm
  have nodup : ((done ++ [e]).map Edge.instr).Nodup :=
    h.nodup_instrs.sublist (hdone.sublist.map _)
  rw [List.map_append, List.nodup_append] at nodup
  simp only [itemsAfter, List.mem_append, List.mem_map, List.mem_filter, reduceCtorEq,
    and_false, exists_false, false_or, FlowGraph.Item.instr.injEq] at hm
  obtain ⟨f, ⟨hf, -⟩, hi⟩ := hm
  exact nodup.2.2 f.instr (List.mem_map_of_mem hf) e.instr List.mem_cons_self hi

/-- An edge of the store is passed over, or draws its instruction and itself. -/
theorem exists_drawEnding (h : r.Settled) {g : FlowGraph} {es : List Dot.Edge}
    {done : List (Edge Nat Nat)} {e : Edge Nat Nat} (hdone : done ++ [e] <+: r.store.edges)
    (d : g.Draws r.attributes (r.itemsAfter done) es) :
    ∃ g', r.drawEnding g e = .ok g' ∧ g'.Draws r.attributes (r.itemsAfter (done ++ [e]))
      (es ++ ([e].filter fun e => e.dest.isNone).map r.lineOf) := by
  cases hd : e.dest with
  | some t =>
    refine ⟨g, by rw [drawEnding, hd], ?_⟩
    simpa [itemsAfter, hd] using d
  | none =>
    have leads : e.leadsTo = .instr e.instr := by rw [Edge.leadsTo, hd]
    have he : e ∈ r.store.edges :=
      hdone.sublist.subset (List.mem_append_right _ List.mem_cons_self)
    have grown : r.itemsAfter (done ++ [e]) = r.itemsAfter done ++ [.instr e.instr] := by
      simp [itemsAfter, hd]
    have fresh := h.instr_not_mem_itemsAfter hdone
    have missing : (g.node? (.instr e.instr)).isSome = false := by
      rw [d.node?_eq, if_neg fresh]
      rfl
    obtain ⟨g₁, hg₁, d₁⟩ := d.addNode fresh
    rw [← grown] at d₁
    have hdest : e.leadsTo ∈ r.itemsAfter (done ++ [e]) := by
      rw [leads, grown]
      exact List.mem_append_right _ List.mem_cons_self
    obtain ⟨g₂, hg₂, d₂⟩ := exists_addLine d₁ (prefix_itemsAfter hdone)
      (List.mem_append_left _ (List.mem_map_of_mem (h.source_mem e he))) hdest
      (by rw [leads]; exact FlowGraph.Item.noConfusion)
    refine ⟨g₂, ?_, ?_⟩
    · rw [drawEnding, hd]
      simp only [missing, Bool.false_eq_true, if_false]
      rw [show g.addNode (.instr e.instr) (r.instrAttributes e.instr) = .ok g₁ from hg₁]
      rw [leads] at hg₂
      exact hg₂
    · simpa [hd] using d₂

/-- Then the instructions that taint nothing, each with its edge. -/
theorem exists_drawEndings (h : r.Settled) {g : FlowGraph} {es : List Dot.Edge}
    (d : g.Draws r.attributes (r.store.values.map .value) es) :
    ∃ g', r.store.edges.foldlM r.drawEnding g = .ok g' ∧
      g'.Draws r.attributes r.items (es ++ r.endings.map r.lineOf) := by
  refine exists_foldlM_ok
    (fun done (g : FlowGraph) => g.Draws r.attributes (r.itemsAfter done)
      (es ++ (done.filter fun e => e.dest.isNone).map r.lineOf))
    (fun done e g hdone d => ?_) (by simpa [itemsAfter] using d)
  rw [List.filter_append, List.map_append, ← List.append_assoc]
  exact h.exists_drawEnding hdone d

/-- **A settled result can be drawn**, with all its items and flows. -/
theorem exists_flowGraph (h : r.Settled) :
    ∃ g, r.flowGraph = .ok g ∧ r.IsDrawnIn g := by
  obtain ⟨g₁, hg₁, d₁⟩ := h.exists_drawValues
  obtain ⟨g₂, hg₂, d₂⟩ := h.exists_drawFlows d₁
  obtain ⟨g₃, hg₃, d₃⟩ := h.exists_drawEndings d₂
  refine ⟨g₃, ?_, ?_⟩
  · rw [flowGraph, hg₁]
    change ((r.store.flows r.function.view).foldlM r.drawFlow g₁ >>= _) = _
    rw [hg₂]
    exact hg₃
  · rw [IsDrawnIn, List.map_append]
    exact d₃

end Settled

end FunctionResult

/-! ## §3 Analyses -/

/-- There is an edge from one node to the other. -/
def Dot.Graph.HasEdge (g : Dot.Graph) (a b : Nat) : Prop :=
  ∃ e ∈ g.edges, e.source = a ∧ e.dest = b

theorem Dot.Graph.hasEdge_iff {g : Dot.Graph} {a b : Nat} :
    g.HasEdge a b ↔ ∃ e ∈ g.edges, e.ends = (a, b) := by
  simp only [HasEdge, Edge.ends, Prod.mk.injEq]

namespace FlowGraph

/-- The item has a node with the attribute. -/
def Bears (g : FlowGraph) (x : Item) (a : Dot.Attribute) : Prop :=
  ∃ n, g.node? x = some n ∧ a ∈ n.attributes

/-- The drawing shows a result. -/
structure Shows (g : FlowGraph) (r : FunctionResult) : Prop where
  /-- The nodes are numbered from zero, and there are as many as items. -/
  ids : g.graph.nodes.map Dot.Node.id = List.range r.items.length
  /-- The node of an item is the one whose number is the place of the item in
  the list; so nodes and items belong together one to one. -/
  node_iff : ∀ x n, g.node? x = some n ↔ n ∈ g.graph.nodes ∧ r.items[n.id]? = some x
  /-- An edge joins the ends of a flow, or a value and an instruction that is
  marked for it and taints nothing. -/
  hasEdge_iff : ∀ a b, g.graph.HasEdge a b ↔
    (∃ u t, r.store.FlowsTo r.function.view u t ∧
      r.items[a]? = some (.value u) ∧ r.items[b]? = some (.value t)) ∨
    ∃ e ∈ r.store.edges, e.dest = none ∧
      r.items[a]? = some (.value e.source) ∧ r.items[b]? = some (.instr e.instr)
  irreflexive : ∀ a, ¬ g.graph.HasEdge a a
  /-- No flow is left out for want of a node. -/
  flow_ends : ∀ u t, r.store.FlowsTo r.function.view u t →
    (g.node? (.value u)).isSome = true ∧ (g.node? (.value t)).isSome = true
  box_iff : ∀ x, g.Bears x ⟨"shape", "box"⟩ ↔ ∃ v ∈ r.store.seeds, x = .value v
  diamond_iff : ∀ x, g.Bears x ⟨"shape", "diamond"⟩ ↔
    ∃ e ∈ r.store.edges, e.dest = none ∧ x = .instr e.instr
  red_iff : ∀ x, g.Bears x ⟨"color", "red"⟩ ↔
    ∃ d ∈ r.findings, ∃ v, r.function.view.result d.instr = some v ∧ x = .value v

/-- The node of an item is the one whose number is the position of the item. -/
theorem Draws.node?_eq_some_iff {attributes : Item → List Dot.Attribute} {xs : List Item}
    {es : List Dot.Edge} {g : FlowGraph} (d : Draws attributes xs es g) (h : xs.Nodup)
    (x : Item) (n : Dot.Node) :
    g.node? x = some n ↔ n ∈ g.graph.nodes ∧ xs[n.id]? = some x := by
  rw [d.node?_eq, d.graph_nodes_eq]
  constructor
  · intro hn
    split at hn
    · next hx =>
      cases hn
      exact ⟨d.graph_nodes_eq ▸ d.mem_graph_nodes hx,
        (getElem?_eq_some_iff_idxOf h).mpr ⟨hx, rfl⟩⟩
    · cases hn
  · rintro ⟨hn, hx⟩
    obtain ⟨k, hk, rfl⟩ := List.mem_mapIdx.mp hn
    obtain ⟨hmem, hidx⟩ := (getElem?_eq_some_iff_idxOf h).mp hx
    rw [List.getElem?_eq_getElem hk] at hx
    cases hx
    rw [if_pos hmem, hidx]

/-- A node bears the attributes of its item. -/
theorem Draws.bears_iff {attributes : Item → List Dot.Attribute} {xs : List Item}
    {es : List Dot.Edge} {g : FlowGraph} (d : Draws attributes xs es g) (x : Item)
    (a : Dot.Attribute) : g.Bears x a ↔ x ∈ xs ∧ a ∈ attributes x := by
  rw [Bears, d.node?_eq]
  split
  · next hx => simp [hx]
  · next hx => simp [hx]

end FlowGraph

namespace FunctionResult

variable {r : FunctionResult}

theorem box_mem_valueAttributes {v : Nat} :
    ⟨"shape", "box"⟩ ∈ r.valueAttributes v ↔ v ∈ r.store.seeds := by
  simp [valueAttributes]

theorem red_mem_valueAttributes {v : Nat} :
    ⟨"color", "red"⟩ ∈ r.valueAttributes v ↔ v ∈ r.targetValues := by
  simp [valueAttributes]

theorem diamond_not_mem_valueAttributes {v : Nat} :
    ⟨"shape", "diamond"⟩ ∉ r.valueAttributes v := by
  simp [valueAttributes]

theorem mem_targetValues {v : Nat} :
    v ∈ r.targetValues ↔ ∃ d ∈ r.findings, r.function.view.result d.instr = some v := by
  simp [targetValues]

theorem mem_endings {e : Edge Nat Nat} : e ∈ r.endings ↔ e ∈ r.store.edges ∧ e.dest = none := by
  simp [endings]

namespace Settled

/-- What is drawn as an edge starts and ends at items. -/
theorem ends_mem_items (h : r.Settled) {e : Edge Nat Nat}
    (he : e ∈ r.store.flows r.function.view ++ r.endings) :
    .value e.source ∈ r.items ∧ e.leadsTo ∈ r.items := by
  rcases List.mem_append.mp he with he | he
  · obtain ⟨t, hd, hsource, ht, -⟩ := h.flow_ends he
    rw [Edge.leadsTo, hd]
    exact ⟨value_mem_items.mpr hsource, value_mem_items.mpr ht⟩
  · obtain ⟨hedge, hd⟩ := mem_endings.mp he
    rw [Edge.leadsTo, hd]
    exact ⟨value_mem_items.mpr (h.source_mem e hedge), instr_mem_items.mpr ⟨e, hedge, hd, rfl⟩⟩

/-- The line of an edge runs between the nodes of what the edge joins. -/
theorem ends_lineOf (h : r.Settled) {e : Edge Nat Nat}
    (he : e ∈ r.store.flows r.function.view ++ r.endings) (a b : Nat) :
    (r.lineOf e).ends = (a, b) ↔
      r.items[a]? = some (.value e.source) ∧ r.items[b]? = some e.leadsTo := by
  obtain ⟨hsource, hdest⟩ := h.ends_mem_items he
  simp only [getElem?_eq_some_iff_idxOf h.nodup_items, hsource, hdest, true_and, Dot.Edge.ends,
    lineOf, Prod.mk.injEq]

/-- Nodes are joined when one item flows into the other, or is used by the
other, an instruction that taints nothing. -/
theorem hasEdge_iff (h : r.Settled) {g : FlowGraph} (d : r.IsDrawnIn g)
    (a b : Nat) : g.graph.HasEdge a b ↔
      (∃ u t, r.store.FlowsTo r.function.view u t ∧
        r.items[a]? = some (.value u) ∧ r.items[b]? = some (.value t)) ∨
      ∃ e ∈ r.store.edges, e.dest = none ∧
        r.items[a]? = some (.value e.source) ∧ r.items[b]? = some (.instr e.instr) := by
  have joined : g.graph.HasEdge a b ↔ ∃ e ∈ r.store.flows r.function.view ++ r.endings,
      r.items[a]? = some (.value e.source) ∧ r.items[b]? = some e.leadsTo := by
    have put := Dot.exists_mem_foldl_putEdge
      ((r.store.flows r.function.view ++ r.endings).map r.lineOf) (a, b)
    rw [← d.edges] at put
    simp only [List.mem_map, exists_exists_and_eq_and] at put
    rw [Dot.Graph.hasEdge_iff]
    exact put.trans (exists_congr fun e => and_congr_right fun he => h.ends_lineOf he a b)
  rw [joined]
  constructor
  · rintro ⟨e, he, ha, hb⟩
    rcases List.mem_append.mp he with he | he
    · obtain ⟨t, hd, -⟩ := h.flow_ends he
      rw [Edge.leadsTo, hd] at hb
      exact Or.inl ⟨e.source, t, ⟨e, he, rfl, hd⟩, ha, hb⟩
    · obtain ⟨hedge, hd⟩ := mem_endings.mp he
      rw [Edge.leadsTo, hd] at hb
      exact Or.inr ⟨e, hedge, hd, ha, hb⟩
  · rintro (⟨u, t, ⟨e, he, rfl, hd⟩, ha, hb⟩ | ⟨e, he, hd, ha, hb⟩)
    · refine ⟨e, List.mem_append_left _ he, ha, ?_⟩
      rwa [Edge.leadsTo, hd]
    · refine ⟨e, List.mem_append_right _ (mem_endings.mpr ⟨he, hd⟩), ha, ?_⟩
      rwa [Edge.leadsTo, hd]

/-- The drawing of a settled result shows it, when the results of its targets
are tainted. -/
theorem shows (h : r.Settled) (targets : ∀ v ∈ r.targetValues, v ∈ r.store.values)
    {g : FlowGraph} (d : r.IsDrawnIn g) : g.Shows r where
  ids := d.ids
  node_iff := d.node?_eq_some_iff h.nodup_items
  hasEdge_iff := h.hasEdge_iff d
  irreflexive a := by
    rintro ⟨e, he, hs, hd⟩
    exact g.graph.source_ne_dest e he (hs.trans hd.symm)
  flow_ends u t := by
    rintro ⟨e, he, rfl, hd⟩
    obtain ⟨hsource, hdest⟩ := h.ends_mem_items (List.mem_append_left _ he)
    rw [Edge.leadsTo, hd] at hdest
    rw [d.node?_of_mem hsource, d.node?_of_mem hdest]
    exact ⟨rfl, rfl⟩
  box_iff x := by
    rw [d.bears_iff]
    cases x with
    | value v =>
      simp only [attributes, box_mem_valueAttributes, value_mem_items,
        FlowGraph.Item.value.injEq, exists_eq_right']
      exact and_iff_right_of_imp fun hv => h.rest.wellFormed.seeds_sublist.subset hv
    | instr i => simp [attributes, instrAttributes]
  diamond_iff x := by
    rw [d.bears_iff]
    cases x with
    | value v => simp [attributes, diamond_not_mem_valueAttributes]
    | instr i =>
      rw [instr_mem_items]
      simp only [attributes, instrAttributes, List.mem_cons, true_or, or_true, and_true,
        FlowGraph.Item.instr.injEq, eq_comm]
  red_iff x := by
    rw [d.bears_iff]
    cases x with
    | value v =>
      simp only [attributes, red_mem_valueAttributes, value_mem_items,
        FlowGraph.Item.value.injEq, exists_eq_right']
      rw [← mem_targetValues]
      exact and_iff_right_of_imp (targets v)
    | instr i => simp [attributes, instrAttributes]

end Settled

end FunctionResult

/-- A propagating instruction taints its result, unless it is a store. -/
theorem Kind.target_of_propagate {k : Kind} (h : k.policy.action = .propagate) :
    k = .store ∨ k.policy.target = .result := by
  cases k with
  | store => exact Or.inl rfl
  | load | cast | binaryOp | compare | extractElement | getElementPointer | call | invoke =>
    exact Or.inr rfl
  | _ => cases h

namespace Ssa.Function

/-- What the host promises about writes: an instruction that writes into a
location produces no value. -/
def WritesYieldNothing (f : Function) : Prop := ∀ i ∈ f.instrs, i.kind = .store → i.value = none

instance (f : Function) : Decidable f.WritesYieldNothing :=
  inferInstanceAs (Decidable (∀ i ∈ f.instrs, i.kind = .store → i.value = none))

/-- The analysis of a function ends at rest. -/
theorem settled_analyze (f : Function) (o : Options) : (f.analyze o).1.Settled where
  rest := f.atRest_taint o
  source_mem _ he :=
    (Store.explained_run [.seedAll (f.seeds o), .propagate]).source_mem_values he

/-- The result of a marked instruction is tainted. -/
theorem result_mem_values {f : Function} (host : f.WritesYieldNothing) (o : Options) {n v : Nat}
    (hn : n ∈ (f.taint o).store.instrs) (hv : f.view.result n = some v) :
    v ∈ (f.taint o).store.values := by
  have rest := f.atRest_taint o
  obtain ⟨i, hi, hiv⟩ := Option.bind_eq_some_iff.mp hv
  have kind : f.view.kind n = i.kind := by
    simp only [view, hi, Option.map_some, Option.getD_some]
  rcases Kind.target_of_propagate ((rest.mem_instrs_iff n).mp hn).1 with hstore | hresult
  · rw [host i (List.mem_of_getElem? hi) (kind ▸ hstore)] at hiv
    cases hiv
  · refine rest.justified.targets n hn v ⟨?_, rfl⟩
    rw [UseDef.taints?, UseDef.target?, hresult]
    exact hv

/-- **The drawing of an analysis.** It is built without a fault. Its nodes are
the tainted values and then the marked instructions that taint nothing, numbered
in this order; its edges are the flows and the edges to these instructions, none
of which is missing and none of which is a loop; boxes are the seeds, diamonds
the instructions, and red are the results of targets. -/
theorem analyze_flowGraph_shows (f : Function) (o : Options) (host : f.WritesYieldNothing) :
    ∃ g, (f.analyze o).1.flowGraph = .ok g ∧ g.Shows (f.analyze o).1 := by
  have settled := f.settled_analyze o
  obtain ⟨g, hg, d⟩ := settled.exists_flowGraph
  refine ⟨g, hg, settled.shows ?_ d⟩
  intro v hv
  obtain ⟨t, ht, hr⟩ := FunctionResult.mem_targetValues.mp hv
  rw [findings_analyze] at ht
  obtain ⟨n, hn, -, rfl⟩ := mem_findings.mp ht
  exact result_mem_values host o hn hr

/-- A function that adds its second parameter to what its first one points to,
hands it to another thread, and compares it with the sum. -/
def increment : Function where
  fullName := "example.com/main.flow"
  name := "flow"
  package := some "example.com/main"
  params := [0, 1]
  values :=
    [{ name := "p", text := "parameter p : *int", users := [0, 2, 4] },
      { name := "k", text := "parameter k : int", users := [1, 3, 5] },
      { name := "t0", text := "*p", users := [1], instr := some 0 },
      { name := "t1", text := "t0 + k", users := [2], instr := some 1 },
      { name := "sink", text := "example.com/main.sink" },
      { name := "t2", text := "*p", users := [5], instr := some 4 },
      { name := "t3", text := "t2 > k", users := [6], instr := some 5 }]
  blocks := some
    [[{ operation := .unOp "*", value := some 2, operands := [some 0] },
      { operation := .binOp "+", value := some 3, operands := [some 2, some 1] },
      { operation := .store, text := "*p = t1", operands := [some 0, some 3] },
      { operation := .spawn, text := "go sink(k)", operands := [some 4, some 1] },
      { operation := .unOp "*", value := some 5, operands := [some 0] },
      { operation := .binOp ">", value := some 6, operands := [some 5, some 1] },
      { operation := .ret, text := "return t3", operands := [some 6] }]]

/-- The sum flows back into the pointer, the thread is a diamond that the
second parameter leads to, and the comparison is red. -/
theorem analyze_flowGraph_shows_increment :
    increment.WritesYieldNothing ∧ ∃ g, (increment.analyze comparisons).1.flowGraph = .ok g ∧
      g.graph.nodes.map Dot.Node.id = [0, 1, 2, 3, 4, 5, 6] ∧
      g.graph.HasEdge 4 0 ∧ g.graph.HasEdge 1 6 ∧
      g.Bears (.instr 3) ⟨"shape", "diamond"⟩ ∧ g.Bears (.value 6) ⟨"color", "red"⟩ := by
  have host : increment.WritesYieldNothing := by decide
  obtain ⟨g, hg, shown⟩ := increment.analyze_flowGraph_shows comparisons host
  refine ⟨host, g, hg, shown.ids, ?_, ?_, ?_, ?_⟩
  · refine (shown.hasEdge_iff 4 0).mpr (Or.inl ⟨3, 0, ⟨⟨3, 2, some 0⟩, ?_, rfl, rfl⟩, ?_, ?_⟩)
    · decide
    · decide
    · decide
  · refine (shown.hasEdge_iff 1 6).mpr (Or.inr ⟨⟨1, 3, none⟩, ?_, rfl, ?_, ?_⟩)
    · decide
    · decide
    · decide
  · exact (shown.diamond_iff _).mpr ⟨⟨1, 3, none⟩, by decide, rfl, rfl⟩
  · exact (shown.red_iff _).mpr
      ⟨increment.finding comparisons.helper 5, by decide, 6, by decide, rfl⟩

end Ssa.Function

/-! ## §4 Labels -/

/-- An edge between the nodes of two items has the label. -/
def FlowGraph.Labels (g : FlowGraph) (x y : Item) (label : String) : Prop :=
  ∃ a b, g.node? x = some a ∧ g.node? y = some b ∧
    ∃ d ∈ g.graph.edges, d.ends = (a.id, b.id) ∧ ⟨"label", label⟩ ∈ d.attributes

theorem Edge.leadsTo_eq_value_iff {e : Edge Nat Nat} {t : Nat} :
    e.leadsTo = .value t ↔ e.dest = some t := by
  cases h : e.dest <;> simp [Edge.leadsTo, h]

namespace FunctionResult

variable {r : FunctionResult}

def lastFlow? (r : FunctionResult) (u t : Nat) : Option (Edge Nat Nat) :=
  ((r.store.flows r.function.view).filter fun e => e.source = u ∧ e.dest = some t).getLast?

/-- Where there is a flow between two values, there is a last one. -/
theorem exists_lastFlow? {e : Edge Nat Nat} {t : Nat} (he : e ∈ r.store.flows r.function.view)
    (hd : e.dest = some t) : ∃ last, r.lastFlow? e.source t = some last := by
  have hne : (r.store.flows r.function.view).filter
      (fun f => f.source = e.source ∧ f.dest = some t) ≠ [] :=
    List.ne_nil_of_mem (List.mem_filter.mpr ⟨he, decide_eq_true ⟨rfl, hd⟩⟩)
  exact ⟨_, List.getLast?_eq_some_getLast hne⟩

namespace Settled

/-- Of all that is drawn between two values the last flow comes last: edges to
instructions end elsewhere. -/
theorem lastBetween_lines (h : r.Settled) {u t : Nat} (hu : u ∈ r.store.values)
    (ht : t ∈ r.store.values) :
    Dot.lastBetween ((r.store.flows r.function.view ++ r.endings).map r.lineOf)
        (r.items.idxOf (.value u), r.items.idxOf (.value t)) =
      (r.lastFlow? u t).map r.lineOf := by
  have between : ∀ e ∈ r.store.flows r.function.view ++ r.endings,
      (r.lineOf e).ends = (r.items.idxOf (.value u), r.items.idxOf (.value t)) ↔
        e.source = u ∧ e.dest = some t := by
    intro e he
    rw [h.ends_lineOf he, List.getElem?_idxOf (value_mem_items.mpr hu),
      List.getElem?_idxOf (value_mem_items.mpr ht), ← Edge.leadsTo_eq_value_iff]
    simp only [Option.some_inj, FlowGraph.Item.value.injEq, eq_comm]
  have flows : (r.store.flows r.function.view ++ r.endings).filter
        (fun e => (r.lineOf e).ends = (r.items.idxOf (.value u), r.items.idxOf (.value t))) =
      (r.store.flows r.function.view).filter fun e => e.source = u ∧ e.dest = some t := by
    have none : r.endings.filter (fun e => e.source = u ∧ e.dest = some t) = [] := by
      refine List.filter_eq_nil_iff.mpr fun e he => ?_
      simp [(mem_endings.mp he).2]
    rw [List.filter_congr fun e he => decide_eq_decide.mpr (between e he), List.filter_append,
      none, List.append_nil]
  rw [Dot.lastBetween, List.filter_map, List.getLast?_map, lastFlow?]
  exact congrArg (fun l => l.getLast?.map r.lineOf) flows

/-- The label between two values is the kind of the last flow between them. -/
theorem labels_iff (h : r.Settled) {g : FlowGraph} (d : r.IsDrawnIn g)
    {u t : Nat} (hu : u ∈ r.store.values) (ht : t ∈ r.store.values) (label : String) :
    g.Labels (.value u) (.value t) label ↔
      ∃ last, r.lastFlow? u t = some last ∧ label = (r.function.view.kind last.instr).name := by
  have edge : ∀ l, l ∈ g.graph.edges ∧
      l.ends = (r.items.idxOf (.value u), r.items.idxOf (.value t)) ↔
        (r.lastFlow? u t).map r.lineOf = some l := by
    intro l
    rw [← h.lastBetween_lines hu ht, d.edges, Dot.mem_foldl_putEdge]
    constructor
    · rintro ⟨hl, hends⟩
      rw [← hends]
      exact hl
    · intro hl
      have hends := (Dot.ends_of_lastBetween hl).2
      exact ⟨hends ▸ hl, hends⟩
  constructor
  · rintro ⟨a, b, ha, hb, l, hl, hends, hlabel⟩
    rw [d.node?_of_mem (value_mem_items.mpr hu)] at ha
    rw [d.node?_of_mem (value_mem_items.mpr ht)] at hb
    cases ha
    cases hb
    obtain ⟨last, hlast, rfl⟩ := Option.map_eq_some_iff.mp ((edge l).mp ⟨hl, hends⟩)
    refine ⟨last, hlast, ?_⟩
    simpa [lineOf] using hlabel
  · rintro ⟨last, hlast, rfl⟩
    obtain ⟨hl, hends⟩ := (edge (r.lineOf last)).mpr (by rw [hlast]; rfl)
    refine ⟨_, _, d.node?_of_mem (value_mem_items.mpr hu),
      d.node?_of_mem (value_mem_items.mpr ht), _, hl, hends, ?_⟩
    exact List.mem_cons_self

/-- A flow is drawn with its kind exactly when this is the kind of the last flow
between the same values. -/
theorem labels_flow (h : r.Settled) {g : FlowGraph} (d : r.IsDrawnIn g)
    {e : Edge Nat Nat} (he : e ∈ r.store.flows r.function.view) :
    ∃ t last, e.dest = some t ∧ r.lastFlow? e.source t = some last ∧
      (∀ label, g.Labels (.value e.source) (.value t) label ↔
        label = (r.function.view.kind last.instr).name) ∧
      (g.Labels (.value e.source) (.value t) (r.function.view.kind e.instr).name ↔
        r.function.view.kind e.instr = r.function.view.kind last.instr) := by
  obtain ⟨t, hd, hsource, ht, -⟩ := h.flow_ends he
  obtain ⟨last, hlast⟩ := exists_lastFlow? he hd
  have labels : ∀ label, g.Labels (.value e.source) (.value t) label ↔
      label = (r.function.view.kind last.instr).name := by
    intro label
    rw [h.labels_iff d hsource ht]
    constructor
    · rintro ⟨last', hlast', rfl⟩
      cases hlast.symm.trans hlast'
      rfl
    · exact fun hl => ⟨last, hlast, hl⟩
  exact ⟨t, last, hd, hlast, labels, (labels _).trans Kind.name_injective.eq_iff⟩

end Settled

end FunctionResult

namespace Ssa.Function

/-- **Between two values the last flow is shown.** Every flow of an analysis is
drawn as an edge between its two values. The label of this edge is the kind of
the last flow between them; so a flow is drawn with its own kind exactly when
the last flow between the same values has the same kind. -/
theorem analyze_label_eq_lastFlow (f : Function) (o : Options) :
    ∃ g, (f.analyze o).1.flowGraph = .ok g ∧
      ∀ e ∈ (f.analyze o).1.store.flows f.view, ∃ t last,
        e.dest = some t ∧ (f.analyze o).1.lastFlow? e.source t = some last ∧
        (∀ label, g.Labels (.value e.source) (.value t) label ↔
          label = (f.view.kind last.instr).name) ∧
        (g.Labels (.value e.source) (.value t) (f.view.kind e.instr).name ↔
          f.view.kind e.instr = f.view.kind last.instr) := by
  have settled := f.settled_analyze o
  obtain ⟨g, hg, d⟩ := settled.exists_flowGraph
  exact ⟨g, hg, fun e he => settled.labels_flow d he⟩

/-- A function that stores an index at its own place in a slice. -/
def selfIndexed : Function where
  fullName := "example.com/p.put"
  name := "put"
  package := some "example.com/p"
  params := [0, 1]
  values :=
    [{ name := "a", text := "parameter a : []int", users := [0] },
      { name := "i", text := "parameter i : int", users := [0, 1] },
      { name := "t0", text := "&a[i]", users := [1], instr := some 0 }]
  blocks := some
    [[{ operation := .indexAddr, value := some 2, operands := [some 0, some 1] },
      { operation := .store, text := "*t0 = i", operands := [some 2, some 1] },
      { operation := .ret, text := "return" }]]

/-- The index flows into the address twice: by the address, which is not shown,
and by the store, which is. -/
theorem analyze_label_eq_lastFlow_selfIndexed :
    ⟨1, 0, some 2⟩ ∈ (selfIndexed.analyze comparisons).1.store.flows selfIndexed.view ∧
      ∃ g, (selfIndexed.analyze comparisons).1.flowGraph = .ok g ∧
        ¬ g.Labels (.value 1) (.value 2) Kind.getElementPointer.name ∧
        g.Labels (.value 1) (.value 2) Kind.store.name := by
  have flow :
      ⟨1, 0, some 2⟩ ∈ (selfIndexed.analyze comparisons).1.store.flows selfIndexed.view := by
    decide
  obtain ⟨g, hg, shown⟩ := selfIndexed.analyze_label_eq_lastFlow comparisons
  obtain ⟨t, last, hd, hlast, labels, -⟩ := shown _ flow
  cases hd
  have store : some ⟨1, 1, some 2⟩ = some last := Eq.trans (by decide) hlast
  cases store
  refine ⟨flow, g, hg, ?_, ?_⟩
  · rw [labels]
    decide
  · rw [labels]
    decide

/-- Not every flow is drawn with its kind: the flow of an index into the address
of its place is lost when the index is stored there. -/
theorem not_flow_labelled_selfIndexed :
    ¬ ∀ (f : Function) (o : Options) (g : FlowGraph), f.blocks.isSome = true →
      f.ListsReferrers → f.WritesYieldNothing → (f.analyze o).1.flowGraph = .ok g →
      ∀ e ∈ (f.analyze o).1.store.flows f.view, ∀ t, e.dest = some t →
        g.Labels (.value e.source) (.value t) (f.view.kind e.instr).name := by
  intro claimed
  have settled := selfIndexed.settled_analyze comparisons
  obtain ⟨g, hg, d⟩ := settled.exists_flowGraph
  have drawn := claimed selfIndexed comparisons g rfl (by decide) (by decide) hg
    ⟨1, 0, some 2⟩ (by decide) 2 rfl
  obtain ⟨last, hlast, hlabel⟩ :=
    (settled.labels_iff d (u := 1) (t := 2) (by decide) (by decide) _).mp drawn
  have store : some ⟨1, 1, some 2⟩ = some last := Eq.trans (by decide) hlast
  cases store
  exact absurd hlabel (by decide)

end Ssa.Function

end ArgTaint
