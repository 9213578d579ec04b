/-
ArgTaint.Proofs.Dot — graphs after several additions.

A graph keeps one edge for each pair of nodes, and the edge that is put last
takes the place of those before it. So when edges are put into a graph one
after the other, those that stay are each the last one between its two nodes.

  §1 Edges — which edges stay (`mem_foldl_putEdge`).
  §2 Steps — a new node, and an edge between two nodes that are there.
-/
import ArgTaint.Dot
import Mathlib.Data.List.Nodup
import Mathlib.Data.List.Induction

namespace ArgTaint.Dot

/-! ## §1 Edges -/

def lastBetween (es : List Edge) (p : Nat × Nat) : Option Edge :=
  (es.filter fun e => e.ends = p).getLast?

theorem lastBetween_concat (es : List Edge) (d : Edge) (p : Nat × Nat) :
    lastBetween (es ++ [d]) p = if d.ends = p then some d else lastBetween es p := by
  rw [lastBetween, List.filter_append]
  split
  · next h => rw [List.filter_singleton, decide_eq_true h, cond_true, List.getLast?_concat]
  · next h =>
    rw [List.filter_singleton, decide_eq_false h, cond_false, List.append_nil, lastBetween]

theorem ends_of_lastBetween {es : List Edge} {p : Nat × Nat} {e : Edge}
    (h : lastBetween es p = some e) : e ∈ es ∧ e.ends = p := by
  obtain ⟨he, hp⟩ := List.mem_filter.mp (List.mem_of_getLast? h)
  exact ⟨he, of_decide_eq_true hp⟩

/-- An edge that was put into a graph has a last one between its ends. -/
theorem exists_lastBetween {es : List Edge} {e : Edge} (he : e ∈ es) :
    ∃ d, lastBetween es e.ends = some d := by
  have hne : es.filter (fun f => f.ends = e.ends) ≠ [] :=
    List.ne_nil_of_mem (List.mem_filter.mpr ⟨he, decide_eq_true rfl⟩)
  exact ⟨_, List.getLast?_eq_some_getLast hne⟩

theorem mem_putEdge {es : List Edge} {d e : Edge} :
    e ∈ putEdge es d ↔ e ∈ es ∧ e.ends ≠ d.ends ∨ e = d := by
  simp [putEdge]

/-- Of the edges that are put between two nodes, the last one stays. -/
theorem mem_foldl_putEdge (es : List Edge) (e : Edge) :
    e ∈ es.foldl putEdge [] ↔ lastBetween es e.ends = some e := by
  induction es using List.reverseRecOn with
  | nil => simp [lastBetween]
  | append_singleton es d ih =>
    rw [List.foldl_concat, mem_putEdge, ih, lastBetween_concat]
    split
    · next h =>
      rw [Option.some_inj]
      constructor
      · rintro (⟨-, hne⟩ | rfl)
        · exact absurd h.symm hne
        · rfl
      · exact fun he => Or.inr he.symm
    · next h =>
      constructor
      · rintro (⟨he, -⟩ | rfl)
        · exact he
        · exact absurd rfl h
      · exact fun he => Or.inl ⟨he, fun hd => h hd.symm⟩

/-- Two nodes are joined when an edge was put between them. -/
theorem exists_mem_foldl_putEdge (es : List Edge) (p : Nat × Nat) :
    (∃ e ∈ es.foldl putEdge [], e.ends = p) ↔ ∃ e ∈ es, e.ends = p := by
  constructor
  · rintro ⟨e, he, hp⟩
    exact ⟨e, (ends_of_lastBetween ((mem_foldl_putEdge es e).mp he)).1, hp⟩
  · rintro ⟨e, he, rfl⟩
    obtain ⟨d, hd⟩ := exists_lastBetween he
    have hends := (ends_of_lastBetween hd).2
    exact ⟨d, (mem_foldl_putEdge es d).mpr (hends.symm ▸ hd), hends⟩

/-! ## §2 Steps -/

/-- A node that is there already takes its own place. -/
theorem putNode_of_mem {nodes : List Node} {n : Node} (h : (nodes.map Node.id).Nodup)
    (hn : n ∈ nodes) : putNode nodes n = nodes := by
  rw [putNode, if_pos (List.mem_map_of_mem hn)]
  have same : ∀ m ∈ nodes, (if m.id = n.id then n else m) = m := by
    intro m hm
    split
    · next he => exact (List.inj_on_of_nodup_map h hm hn he).symm
    · rfl
  exact (List.map_congr_left same).trans (List.map_id _)

namespace Graph

/-- A node with a new number is added at the end. -/
theorem addNode_of_fresh {g : Graph} {n : Node} (fresh : n.id ∉ g.nodes.map Node.id) :
    ∃ h, g.addNode n = .ok h ∧ h.nodes = g.nodes ++ [n] ∧ h.edges = g.edges := by
  rw [addNode, dif_neg fresh]
  exact ⟨_, rfl, rfl, rfl⟩

/-- An edge between two nodes of a graph replaces the one that was there. -/
theorem setEdge_of_mem {g : Graph} {a b : Node} (ha : a ∈ g.nodes) (hb : b ∈ g.nodes)
    (hne : a.id ≠ b.id) (attributes : List Attribute) :
    ∃ h, g.setEdge a b attributes = .ok h ∧ h.nodes = g.nodes ∧
      h.edges = putEdge g.edges ⟨a.id, b.id, attributes⟩ := by
  rw [setEdge, dif_neg hne]
  refine ⟨_, rfl, ?_, rfl⟩
  change putNode (putNode g.nodes a) b = g.nodes
  rw [putNode_of_mem g.nodup_ids ha, putNode_of_mem g.nodup_ids hb]

end Graph

end ArgTaint.Dot
