/-
ArgTaint.Proofs.LabelGraph.Construction — what building a graph does to it.

Labels have one id each, edges stay between ids of the graph, and the ids are
a matter of the representation only: which labels an edge joins
(`LabelGraph.Joins`) can be said without them.

  §1 Well-formed — distinct labels, edges between ids; the id of a label.
  §2 Nodes       — `addNode` keeps ids and edges.
  §3 Edges       — `addEdge` joins its two labels and no others.
-/
import ArgTaint.LabelGraph.Basic
import Mathlib.Data.List.Nodup

namespace ArgTaint.LabelGraph

variable {T : Type} {g : LabelGraph T} {x y : T} {v w : Nat}

/-! ## §1 Well-formed -/

/-- The labels are distinct and edges run between ids. -/
structure WellFormed (g : LabelGraph T) : Prop where
  nodup : g.labels.Nodup
  edges_lt : ∀ v w, (v, w) ∈ g.edges → v < g.order ∧ w < g.order

/-- There is an edge from the node of one label to that of another. -/
def Joins (g : LabelGraph T) (x y : T) : Prop :=
  ∃ v w, g.labels[v]? = some x ∧ g.labels[w]? = some y ∧ (v, w) ∈ g.edges

theorem order_of_getElem? (hv : g.labels[v]? = some x) : v < g.order :=
  (List.getElem?_eq_some_iff.mp hv).1

/-- A label has one id. -/
theorem WellFormed.id_unique (h : g.WellFormed) (hv : g.labels[v]? = some x)
    (hw : g.labels[w]? = some x) : v = w :=
  (List.getElem?_inj (order_of_getElem? hv) h.nodup).mp (hv.trans hw.symm)

variable [DecidableEq T]

theorem getElem?_of_id? (hv : g.id? x = some v) : g.labels[v]? = some x := by
  obtain ⟨hlt, hx, -⟩ := List.findIdx?_eq_some_iff_getElem.mp hv
  rw [List.getElem?_eq_getElem hlt, of_decide_eq_true hx]

theorem exists_id? (hx : x ∈ g.labels) : ∃ v, g.id? x = some v := by
  refine Option.isSome_iff_exists.mp ?_
  rw [id?, List.findIdx?_isSome, List.any_eq_true]
  exact ⟨x, hx, decide_eq_true rfl⟩

theorem getElem?_idOrNext (hx : x ∈ g.labels) : g.labels[g.idOrNext x]? = some x := by
  obtain ⟨v, hv⟩ := exists_id? hx
  rw [idOrNext, hv, Option.getD_some]
  exact getElem?_of_id? hv

/-! ## §2 Nodes -/

theorem addNode_of_mem (hx : x ∈ g.labels) : g.addNode x = g := if_pos hx

theorem addNode_of_not_mem (hx : x ∉ g.labels) :
    g.addNode x = { g with labels := g.labels ++ [x] } := if_neg hx

theorem edges_addNode : (g.addNode x).edges = g.edges := by
  rw [addNode]
  split <;> rfl

/-- A new node is the only new label. -/
theorem mem_labels_addNode : y ∈ (g.addNode x).labels ↔ y ∈ g.labels ∨ y = x := by
  by_cases hx : x ∈ g.labels
  · rw [addNode_of_mem hx]
    refine ⟨Or.inl, ?_⟩
    rintro (hy | rfl)
    · exact hy
    · exact hx
  · rw [addNode_of_not_mem hx, List.mem_append, List.mem_singleton]

/-- After the labels `base`, further labels stand where they were mentioned
first. -/
theorem labels_addNode_eraseDups (base : List T) {mentioned : List T}
    (h : g.labels = base ++ mentioned.eraseDups) (hx : x ∉ base) :
    (g.addNode x).labels = base ++ (mentioned ++ [x]).eraseDups := by
  have known : x ∈ g.labels ↔ x ∈ mentioned := by
    rw [h, List.mem_append, or_iff_right hx, List.mem_eraseDups]
  rw [List.eraseDups_append]
  by_cases hm : x ∈ mentioned
  · rw [addNode_of_mem (known.mpr hm), h]
    simp [List.removeAll, hm]
  · rw [addNode_of_not_mem (mt known.mp hm), h]
    simp [List.removeAll, hm, List.eraseDups_cons]

theorem getElem?_addNode (hv : v < g.order) : (g.addNode x).labels[v]? = g.labels[v]? := by
  by_cases hx : x ∈ g.labels
  · rw [addNode_of_mem hx]
  · rw [addNode_of_not_mem hx]
    exact List.getElem?_append_left hv

theorem order_le_addNode : g.order ≤ (g.addNode x).order := by
  by_cases hx : x ∈ g.labels
  · exact Nat.le_of_eq (congrArg order (addNode_of_mem hx).symm)
  · rw [addNode_of_not_mem hx, order, order, List.length_append]
    exact Nat.le_add_right _ _

/-- A new node keeps a graph well-formed. -/
theorem WellFormed.addNode (h : g.WellFormed) (x : T) : (g.addNode x).WellFormed where
  nodup := by
    by_cases hx : x ∈ g.labels
    · rw [addNode_of_mem hx]
      exact h.nodup
    · rw [addNode_of_not_mem hx]
      rw [← List.concat_eq_append]
      exact h.nodup.concat hx
  edges_lt v w he := by
    rw [edges_addNode] at he
    obtain ⟨hv, hw⟩ := h.edges_lt v w he
    exact ⟨Nat.lt_of_lt_of_le hv order_le_addNode, Nat.lt_of_lt_of_le hw order_le_addNode⟩

/-- A new node joins nothing. -/
theorem WellFormed.joins_addNode (h : g.WellFormed) (z : T) :
    (g.addNode z).Joins x y ↔ g.Joins x y := by
  simp only [Joins, edges_addNode]
  constructor
  · rintro ⟨v, w, hv, hw, he⟩
    obtain ⟨hlv, hlw⟩ := h.edges_lt v w he
    rw [getElem?_addNode hlv] at hv
    rw [getElem?_addNode hlw] at hw
    exact ⟨v, w, hv, hw, he⟩
  · rintro ⟨v, w, hv, hw, he⟩
    rw [← getElem?_addNode (x := z) (order_of_getElem? hv)] at hv
    rw [← getElem?_addNode (x := z) (order_of_getElem? hw)] at hw
    exact ⟨v, w, hv, hw, he⟩

/-- Distinct new labels become nodes in their order. -/
theorem foldl_addNode :
    ∀ (xs : List T) (g : LabelGraph T), (g.labels ++ xs).Nodup →
      xs.foldl addNode g = { g with labels := g.labels ++ xs } := by
  intro xs
  induction xs with
  | nil => intro g _; rw [List.foldl_nil, List.append_nil]
  | cons x rest ih =>
    intro g h
    have hx : x ∉ g.labels :=
      fun hx => List.disjoint_of_nodup_append h hx List.mem_cons_self
    rw [List.append_cons] at h
    rw [List.foldl_cons, addNode_of_not_mem hx, ih _ h, List.append_assoc,
      List.singleton_append]

/-! ## §3 Edges -/

theorem labels_addEdge : (g.addEdge x y).labels = ((g.addNode x).addNode y).labels := by
  rw [addEdge]
  split <;> rfl

theorem labels_addEdge_of_mem (hx : x ∈ g.labels) (hy : y ∈ g.labels) :
    (g.addEdge x y).labels = g.labels := by
  rw [labels_addEdge, addNode_of_mem hx, addNode_of_mem hy]

theorem mem_edges_addEdge {e : Nat × Nat} :
    e ∈ (g.addEdge x y).edges ↔
      e ∈ g.edges ∨ e = (((g.addNode x).addNode y).idOrNext x,
        ((g.addNode x).addNode y).idOrNext y) := by
  have hedges : ((g.addNode x).addNode y).edges = g.edges := edges_addNode.trans edges_addNode
  rw [addEdge]
  split
  · next hm =>
    rw [hedges] at hm ⊢
    refine ⟨Or.inl, ?_⟩
    rintro (he | rfl)
    · exact he
    · exact hm
  · rw [List.mem_append, List.mem_singleton, hedges]

/-- Once an edge has been added, the ids of its ends are those of the labels. -/
theorem getElem?_ends :
    ((g.addNode x).addNode y).labels[((g.addNode x).addNode y).idOrNext x]? = some x ∧
      ((g.addNode x).addNode y).labels[((g.addNode x).addNode y).idOrNext y]? = some y :=
  ⟨getElem?_idOrNext (mem_labels_addNode.mpr (Or.inl (mem_labels_addNode.mpr (Or.inr rfl)))),
    getElem?_idOrNext (mem_labels_addNode.mpr (Or.inr rfl))⟩

/-- A new edge keeps a graph well-formed. -/
theorem WellFormed.addEdge (h : g.WellFormed) (x y : T) : (g.addEdge x y).WellFormed where
  nodup := by
    rw [labels_addEdge]
    exact ((h.addNode x).addNode y).nodup
  edges_lt v w he := by
    rw [order, labels_addEdge]
    rcases mem_edges_addEdge.mp he with he | he
    · refine ((h.addNode x).addNode y).edges_lt v w ?_
      rw [edges_addNode, edges_addNode]
      exact he
    · cases he
      exact ⟨order_of_getElem? getElem?_ends.1, order_of_getElem? getElem?_ends.2⟩

/-- An added edge joins its two labels; whatever else is joined was joined
before. -/
theorem WellFormed.joins_addEdge (h : g.WellFormed) {a b : T} :
    (g.addEdge a b).Joins x y ↔ g.Joins x y ∨ (x = a ∧ y = b) := by
  rw [← h.joins_addNode a, ← (h.addNode a).joins_addNode b]
  simp only [Joins, labels_addEdge, mem_edges_addEdge, edges_addNode]
  constructor
  · rintro ⟨v, w, hv, hw, he | he⟩
    · exact Or.inl ⟨v, w, hv, hw, he⟩
    · cases he
      rw [getElem?_ends.1] at hv
      rw [getElem?_ends.2] at hw
      exact Or.inr ⟨(Option.some.inj hv).symm, (Option.some.inj hw).symm⟩
  · rintro (⟨v, w, hv, hw, he⟩ | ⟨rfl, rfl⟩)
    · exact ⟨v, w, hv, hw, Or.inl he⟩
    · exact ⟨_, _, getElem?_ends.1, getElem?_ends.2, Or.inr rfl⟩

end ArgTaint.LabelGraph
