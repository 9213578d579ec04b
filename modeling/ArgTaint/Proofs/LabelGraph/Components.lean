/-
ArgTaint.Proofs.LabelGraph.Components — components are the classes of mutual
reachability.

Two nodes are mutually reachable (`Mutual`) when a non-empty path leads from
each to the other; a node is mutually reachable with itself when it lies on a
cycle. The ids of the graph serve to compute components and to put them in
order; in the end nothing but labels and joined labels is spoken of.

  §1 Paths      — mutual reachability, and the two searches from an id.
  §2 Components — of ids: they are disjoint, cover every cycle, and stand in
                  the order of their least ids.
  §3 Labels     — paths between ids are paths between labels.
  §4 Cycles     — the same of the components as lists of labels.
-/
import ArgTaint.Proofs.LabelGraph.Construction
import ArgTaint.Proofs.LabelGraph.Search

namespace ArgTaint

open Relation (TransGen)

/-! ## §1 Paths -/

/-- A non-empty path leads from each of the two to the other. -/
def Mutual {α : Type} (r : α → α → Prop) (x y : α) : Prop := TransGen r x y ∧ TransGen r y x

namespace Mutual

variable {α : Type} {r : α → α → Prop} {x y z : α}

theorem symm (h : Mutual r x y) : Mutual r y x := ⟨h.2, h.1⟩

theorem trans (h : Mutual r x y) (k : Mutual r y z) : Mutual r x z :=
  ⟨h.1.trans k.1, k.2.trans h.2⟩

theorem self (h : Mutual r x y) : Mutual r x x := h.trans h.symm

/-- Where nothing is related to itself, a cycle has a second element. -/
theorem exists_ne (hr : ∀ a b, r a b → a ≠ b) (h : Mutual r x x) :
    ∃ y, y ≠ x ∧ Mutual r x y := by
  obtain ⟨y, hxy, hyx⟩ := TransGen.head'_iff.mp h.1
  have hne : x ≠ y := hr x y hxy
  rcases Relation.reflTransGen_iff_eq_or_transGen.mp hyx with he | hp
  · exact absurd he hne
  · exact ⟨y, hne.symm, TransGen.single hxy, hp⟩

end Mutual

namespace LabelGraph

variable {T : Type} {g : LabelGraph T} {u v w : Nat} {c : List Nat}

def Linked (g : LabelGraph T) (v w : Nat) : Prop := (v, w) ∈ g.edges

/-- Searching forward marks what can be reached. -/
theorem WellFormed.getElem?_forward (h : g.WellFormed) :
    (g.forward.reached v)[w]? = some true ↔ TransGen g.Linked v w :=
  Adjacency.getElem?_reached_ofEdges h.edges_lt v w

/-- Searching backward marks what can be reached from. -/
theorem WellFormed.getElem?_backward (h : g.WellFormed) :
    (g.backward.reached v)[w]? = some true ↔ TransGen g.Linked w v := by
  have hmem : ∀ u t, (u, t) ∈ g.edges.map (fun e => (e.2, e.1)) ↔ g.Linked t u := by
    intro u t
    rw [List.mem_map]
    constructor
    · rintro ⟨e, he, heq⟩
      cases heq
      exact he
    · intro he
      exact ⟨(t, u), he, rfl⟩
  have hlt : ∀ u t, (u, t) ∈ g.edges.map (fun e => (e.2, e.1)) → u < g.order ∧ t < g.order :=
    fun u t he => (h.edges_lt t u ((hmem u t).mp he)).symm
  rw [backward, Adjacency.getElem?_reached_ofEdges hlt, ← Relation.transGen_swap]
  simp only [hmem]

theorem getD_false_eq_true {seen : Array Bool} :
    seen.getD v false = true ↔ seen[v]? = some true := by
  rw [Array.getD_eq_getD_getElem?]
  cases seen[v]? <;> simp

/-- The ids on a common cycle with `v` are those that reach it and are
reached. -/
theorem WellFormed.mem_onCommonCycle (h : g.WellFormed) :
    w ∈ onCommonCycle g.forward g.backward v ↔ Mutual g.Linked v w := by
  rw [onCommonCycle]
  split
  · rw [List.mem_filter, Bool.and_eq_true, getD_false_eq_true, getD_false_eq_true,
      h.getElem?_forward, h.getElem?_backward]
    refine ⟨And.right, fun hm => ⟨?_, hm⟩⟩
    exact List.mem_range.mpr (Array.getElem?_eq_some_iff.mp (h.getElem?_forward.mpr hm.1)).1
  · next hn =>
    rw [getD_false_eq_true, h.getElem?_forward] at hn
    exact ⟨fun hw => absurd hw List.not_mem_nil, fun hm => absurd hm.self.1 hn⟩

/-- Ids come in increasing order. -/
theorem onCommonCycle_sublist_range (forward backward : Adjacency) (v : Nat) :
    ∃ n, (onCommonCycle forward backward v).Sublist (List.range n) := by
  rw [onCommonCycle]
  split
  · exact ⟨_, List.filter_sublist⟩
  · exact ⟨0, List.Sublist.refl []⟩

/-! ## §2 Components -/

/-- A component is found at its first id. -/
theorem mem_components :
    c ∈ g.components ↔
      ∃ v, v < g.order ∧ onCommonCycle g.forward g.backward v = c ∧ c.head? = some v := by
  simp only [components, List.mem_filterMap, List.mem_range, Option.ite_none_right_eq_some,
    Option.some.injEq]
  constructor
  · rintro ⟨v, hv, hh, rfl⟩
    exact ⟨v, hv, rfl, hh⟩
  · rintro ⟨v, hv, rfl, hh⟩
    exact ⟨v, hv, hh, rfl⟩

theorem pairwise_lt_onCommonCycle (forward backward : Adjacency) (v : Nat) :
    (onCommonCycle forward backward v).Pairwise (· < ·) := by
  obtain ⟨n, hn⟩ := onCommonCycle_sublist_range forward backward v
  exact List.pairwise_lt_range.sublist hn

/-- The first id of an increasing list is its least. -/
theorem head_le {m : Nat} (hc : c.Pairwise (· < ·)) (hm : c.head? = some m) (hw : w ∈ c) :
    m ≤ w := by
  cases c with
  | nil => exact absurd hw List.not_mem_nil
  | cons a rest =>
    cases hm
    rcases List.mem_cons.mp hw with rfl | hw
    · exact Nat.le_refl w
    · exact Nat.le_of_lt (List.rel_of_pairwise_cons hc hw)

/-- A component is the class of each of its ids. -/
theorem WellFormed.mem_component (h : g.WellFormed) (hc : c ∈ g.components) (hu : u ∈ c) :
    v ∈ c ↔ Mutual g.Linked u v := by
  obtain ⟨r, -, rfl, -⟩ := mem_components.mp hc
  rw [h.mem_onCommonCycle] at hu ⊢
  exact ⟨hu.symm.trans, hu.trans⟩

/-- Every cycle is in a component, the one of the least id that is mutually
reachable with it. -/
theorem WellFormed.exists_component (h : g.WellFormed) (hm : Mutual g.Linked u v) :
    ∃ c ∈ g.components, u ∈ c ∧ v ∈ c := by
  have hu : u ∈ onCommonCycle g.forward g.backward u := h.mem_onCommonCycle.mpr hm.self
  obtain ⟨m, hhead⟩ : ∃ m, (onCommonCycle g.forward g.backward u).head? = some m :=
    Option.isSome_iff_exists.mp (List.isSome_head?.mpr (List.ne_nil_of_mem hu))
  have hum : Mutual g.Linked u m := h.mem_onCommonCycle.mp (List.mem_of_mem_head? hhead)
  have hmm : m ∈ onCommonCycle g.forward g.backward m := h.mem_onCommonCycle.mpr hum.symm.self
  obtain ⟨k, hk⟩ : ∃ k, (onCommonCycle g.forward g.backward m).head? = some k :=
    Option.isSome_iff_exists.mp (List.isSome_head?.mpr (List.ne_nil_of_mem hmm))
  -- `m` is least in the class of `u`, which is its own
  have hmk : Mutual g.Linked m k := h.mem_onCommonCycle.mp (List.mem_of_mem_head? hk)
  have hle : k ≤ m := head_le (pairwise_lt_onCommonCycle _ _ m) hk hmm
  have hge : m ≤ k := head_le (pairwise_lt_onCommonCycle _ _ u) hhead
    (h.mem_onCommonCycle.mpr (hum.trans hmk))
  obtain rfl : k = m := Nat.le_antisymm hle hge
  have hlt : k < g.order := by
    obtain ⟨w, hw, -⟩ := TransGen.head'_iff.mp hmk.1
    exact (h.edges_lt k w hw).1
  exact ⟨_, mem_components.mpr ⟨k, hlt, rfl, hk⟩, h.mem_onCommonCycle.mpr hum.symm,
    h.mem_onCommonCycle.mpr (hum.symm.trans hm)⟩

/-- Components are ordered by their first ids. -/
theorem components_pairwise_head :
    g.components.Pairwise fun c d => ∀ u ∈ c.head?, ∀ v ∈ d.head?, u < v := by
  refine List.Pairwise.filterMap _ ?_ List.pairwise_lt_range
  intro v w hlt c hc d hd
  simp only [Option.ite_none_right_eq_some, Option.some.injEq] at hc hd
  obtain ⟨hv, rfl⟩ := hc
  obtain ⟨hw, rfl⟩ := hd
  intro a ha b hb
  rw [Option.mem_def, hv] at ha
  rw [Option.mem_def, hw] at hb
  cases ha
  cases hb
  exact hlt

/-- Components have no ids in common. -/
theorem WellFormed.components_disjoint (h : g.WellFormed) :
    g.components.Pairwise List.Disjoint := by
  refine List.Pairwise.imp_of_mem ?_ components_pairwise_head
  intro c d hc hd hlt x hxc hxd
  obtain ⟨v, -, hcv, hv⟩ := mem_components.mp hc
  obtain ⟨w, -, hdw, hw⟩ := mem_components.mp hd
  have hvw : Mutual g.Linked v w :=
    ((h.mem_component hc (List.mem_of_mem_head? hv)).mp hxc).trans
      ((h.mem_component hd (List.mem_of_mem_head? hw)).mp hxd).symm
  have hvd : v ∈ d := (h.mem_component hd (List.mem_of_mem_head? hw)).mpr hvw.symm
  have hle : w ≤ v := head_le (hdw ▸ pairwise_lt_onCommonCycle _ _ w) hw hvd
  exact absurd (hlt v hv w hw) (Nat.not_lt.mpr hle)

/-! ## §3 Labels -/

variable {x y : T} {C : List T}

/-- Labels are connected when their ids are. -/
theorem WellFormed.transGen_joins_iff (h : g.WellFormed) :
    TransGen g.Joins x y ↔
      ∃ v w, g.labels[v]? = some x ∧ g.labels[w]? = some y ∧ TransGen g.Linked v w := by
  constructor
  · intro hp
    induction hp with
    | single he =>
      obtain ⟨v, w, hv, hw, he⟩ := he
      exact ⟨v, w, hv, hw, TransGen.single he⟩
    | tail _ he ih =>
      obtain ⟨v, w, hv, hw, hp⟩ := ih
      obtain ⟨w', t, hw', ht, he⟩ := he
      rw [h.id_unique hw' hw] at he
      exact ⟨v, t, hv, ht, hp.tail he⟩
  · rintro ⟨v, w, hv, hw, hp⟩
    induction hp generalizing y with
    | single he => exact TransGen.single ⟨v, _, hv, hw, he⟩
    | @tail u t _ he ih =>
      -- the ids on the way have labels, being ends of edges
      have hu := List.getElem?_eq_getElem (h.edges_lt u t he).1
      exact (ih hu).tail ⟨u, t, hu, hw, he⟩

/-- Labels reach each other when their ids do. -/
theorem WellFormed.mutual_joins_iff (h : g.WellFormed) (hv : g.labels[v]? = some x)
    (hw : g.labels[w]? = some y) : Mutual g.Joins x y ↔ Mutual g.Linked v w := by
  have path : ∀ {a b : Nat} {p q : T}, g.labels[a]? = some p → g.labels[b]? = some q →
      (TransGen g.Joins p q ↔ TransGen g.Linked a b) := by
    intro a b p q ha hb
    rw [h.transGen_joins_iff]
    constructor
    · rintro ⟨a', b', ha', hb', hp⟩
      rw [← h.id_unique ha' ha, ← h.id_unique hb' hb]
      exact hp
    · intro hp
      exact ⟨a, b, ha, hb, hp⟩
  rw [Mutual, Mutual, path hv hw, path hw hv]

theorem filterMap_range_getElem? (l : List T) :
    ∀ n, (List.range n).filterMap (fun v => l[v]?) = l.take n := by
  intro n
  induction n with
  | zero => rfl
  | succ n ih =>
    rw [List.range_succ, List.filterMap_append, ih, List.take_add_one]
    cases h : l[n]? <;> simp [h]

/-! ## §4 Cycles -/

theorem mem_cyclicComponents :
    C ∈ g.cyclicComponents ↔ ∃ c ∈ g.components, c.filterMap (fun v => g.labels[v]?) = C :=
  List.mem_map

/-- Labels stand in a component as they do in the graph. -/
theorem sublist_labels (hC : C ∈ g.cyclicComponents) : C.Sublist g.labels := by
  obtain ⟨c, hc, rfl⟩ := mem_cyclicComponents.mp hC
  obtain ⟨v, -, rfl, -⟩ := mem_components.mp hc
  obtain ⟨n, hn⟩ := onCommonCycle_sublist_range g.forward g.backward v
  refine (hn.filterMap _).trans ?_
  rw [filterMap_range_getElem?]
  exact List.take_sublist n g.labels

/-- The first label of a component is that of its first id. -/
theorem head?_labels (hc : c ∈ g.components) :
    ∃ v x, c.head? = some v ∧ g.labels[v]? = some x ∧
      (c.filterMap fun w => g.labels[w]?).head? = some x := by
  obtain ⟨v, hv, -, hhead⟩ := mem_components.mp hc
  have hx := List.getElem?_eq_getElem hv
  refine ⟨v, _, hhead, hx, ?_⟩
  cases c with
  | nil => cases hhead
  | cons a rest =>
    cases hhead
    rw [List.filterMap_cons_some hx, List.head?_cons]

theorem ne_nil_of_mem_cyclicComponents (hC : C ∈ g.cyclicComponents) : C ≠ [] := by
  obtain ⟨c, hc, rfl⟩ := mem_cyclicComponents.mp hC
  obtain ⟨v, x, -, -, hx⟩ := head?_labels hc
  exact List.ne_nil_of_mem (List.mem_of_mem_head? hx)

/-- A component is the class of each of its labels. -/
theorem WellFormed.mem_cyclicComponent (h : g.WellFormed) (hC : C ∈ g.cyclicComponents)
    (hx : x ∈ C) : y ∈ C ↔ Mutual g.Joins x y := by
  obtain ⟨c, hc, rfl⟩ := mem_cyclicComponents.mp hC
  obtain ⟨v, hv, hvx⟩ := List.mem_filterMap.mp hx
  rw [List.mem_filterMap]
  constructor
  · rintro ⟨w, hw, hwy⟩
    exact (h.mutual_joins_iff hvx hwy).mpr ((h.mem_component hc hv).mp hw)
  · intro hm
    obtain ⟨-, w, -, hwy, -⟩ := h.transGen_joins_iff.mp hm.1
    exact ⟨w, (h.mem_component hc hv).mpr ((h.mutual_joins_iff hvx hwy).mp hm), hwy⟩

/-- Labels that reach each other share a component. -/
theorem WellFormed.exists_cyclicComponent (h : g.WellFormed) (hm : Mutual g.Joins x y) :
    ∃ C ∈ g.cyclicComponents, x ∈ C ∧ y ∈ C := by
  obtain ⟨v, w, hv, hw, -⟩ := h.transGen_joins_iff.mp hm.1
  obtain ⟨c, hc, hvc, hwc⟩ := h.exists_component ((h.mutual_joins_iff hv hw).mp hm)
  exact ⟨_, mem_cyclicComponents.mpr ⟨c, hc, rfl⟩, List.mem_filterMap.mpr ⟨v, hvc, hv⟩,
    List.mem_filterMap.mpr ⟨w, hwc, hw⟩⟩

/-- Components have no labels in common. -/
theorem WellFormed.cyclicComponents_disjoint (h : g.WellFormed) :
    g.cyclicComponents.Pairwise List.Disjoint := by
  refine List.pairwise_map.mpr (h.components_disjoint.imp ?_)
  intro c d hcd x hxc hxd
  obtain ⟨v, hv, hvx⟩ := List.mem_filterMap.mp hxc
  obtain ⟨w, hw, hwx⟩ := List.mem_filterMap.mp hxd
  rw [h.id_unique hwx hvx] at hw
  exact hcd hv hw

/-- Components stand in the order in which their first labels stand in the
graph. -/
theorem WellFormed.cyclicComponents_pairwise_head [DecidableEq T] (h : g.WellFormed) :
    g.cyclicComponents.Pairwise fun C D =>
      ∀ x ∈ C.head?, ∀ y ∈ D.head?, g.labels.idxOf x < g.labels.idxOf y := by
  have idxOf_eq : ∀ {v : Nat} {x : T}, g.labels[v]? = some x → g.labels.idxOf x = v := by
    intro v x hv
    obtain ⟨hlt, rfl⟩ := List.getElem?_eq_some_iff.mp hv
    exact h.nodup.idxOf_getElem v hlt
  refine List.pairwise_map.mpr (List.Pairwise.imp_of_mem ?_ components_pairwise_head)
  intro c d hc hd hlt x hx y hy
  obtain ⟨v, x', hv, hvx, hx'⟩ := head?_labels hc
  obtain ⟨w, y', hw, hwy, hy'⟩ := head?_labels hd
  rw [Option.mem_def, hx'] at hx
  rw [Option.mem_def, hy'] at hy
  cases hx
  cases hy
  rw [idxOf_eq hvx, idxOf_eq hwy]
  exact hlt v hv w hw

end LabelGraph

end ArgTaint
