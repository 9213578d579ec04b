/-
ArgTaint.Proofs.LabelGraph.StrongComponents — the cyclic components of any
graph that calls can build.

Nodes and edges may be asked for in any order and more than once. In the end
two labels are joined exactly when an edge between them was asked for, so
cycles can be spoken of without ids. The components can also be had from the
strong components of the graph, whatever the order in which these are listed:
a strong component holds a cycle when it has two ids, or one id with an edge
to itself.

  §1 Calls     — the graph that calls build.
  §2 Ids       — labels in the order of their ids.
  §3 Selection — the cyclic ones among the strong components, put in order.
  §4 Cycles    — the components after any calls.
-/
import ArgTaint.Proofs.LabelGraph.Components
import Mathlib

namespace ArgTaint.LabelGraph

open Relation (ReflTransGen TransGen)

variable {T : Type} {g : LabelGraph T} {x y : T} {u v w : Nat}

/-! ## §1 Calls -/

/-- A call that builds a graph. -/
inductive Call (T : Type) where
  | addNode (x : T)
  | addEdge (x y : T)
  deriving DecidableEq, Repr

section Calls

variable [DecidableEq T]

def perform (g : LabelGraph T) : Call T → LabelGraph T
  | .addNode x => g.addNode x
  | .addEdge x y => g.addEdge x y

def run (g : LabelGraph T) (calls : List (Call T)) : LabelGraph T := calls.foldl perform g

omit [DecidableEq T] in
theorem wellFormed_empty : (empty : LabelGraph T).WellFormed :=
  ⟨List.nodup_nil, fun _ _ he => absurd he List.not_mem_nil⟩

theorem WellFormed.perform (h : g.WellFormed) (c : Call T) : (g.perform c).WellFormed := by
  cases c with
  | addNode x => exact h.addNode x
  | addEdge x y => exact h.addEdge x y

/-- A call joins the two labels of its edge, if it has one. -/
theorem WellFormed.joins_perform (h : g.WellFormed) (c : Call T) :
    (g.perform c).Joins x y ↔ g.Joins x y ∨ c = .addEdge x y := by
  cases c with
  | addNode z =>
    simp only [LabelGraph.perform, h.joins_addNode, reduceCtorEq, or_false]
  | addEdge a b =>
    simp only [LabelGraph.perform, h.joins_addEdge, Call.addEdge.injEq, eq_comm]

/-- Labels are joined when they were joined before or a call joins them. -/
theorem WellFormed.run :
    ∀ (calls : List (Call T)) {g : LabelGraph T}, g.WellFormed →
      (g.run calls).WellFormed ∧
        ∀ x y, (g.run calls).Joins x y ↔ g.Joins x y ∨ Call.addEdge x y ∈ calls := by
  intro calls
  induction calls with
  | nil => intro g h; exact ⟨h, fun x y => by simp [LabelGraph.run]⟩
  | cons c rest ih =>
    intro g h
    obtain ⟨hw, hjoins⟩ := ih (h.perform c)
    refine ⟨hw, fun x y => (hjoins x y).trans ?_⟩
    rw [h.joins_perform, List.mem_cons, or_assoc, eq_comm (a := c)]

theorem wellFormed_run_empty (calls : List (Call T)) :
    ((empty : LabelGraph T).run calls).WellFormed :=
  (WellFormed.run calls wellFormed_empty).1

/-- Labels are joined by the edges that were asked for. -/
theorem joins_run_empty (calls : List (Call T)) :
    ((empty : LabelGraph T).run calls).Joins = fun x y => Call.addEdge x y ∈ calls := by
  funext x y
  refine propext (((WellFormed.run calls wellFormed_empty).2 x y).trans ⟨?_, Or.inr⟩)
  rintro (⟨v, w, -, -, he⟩ | hc)
  · exact absurd he List.not_mem_nil
  · exact hc

end Calls

/-! ## §2 Ids -/

section Ids

variable [DecidableEq T]

/-- The node of `x` has a smaller id than that of `y`. -/
def Before (g : LabelGraph T) (x y : T) : Prop :=
  ∃ v w, g.id? x = some v ∧ g.id? y = some w ∧ v < w

theorem WellFormed.id?_eq_some_iff (h : g.WellFormed) :
    g.id? x = some v ↔ g.labels[v]? = some x := by
  refine ⟨getElem?_of_id?, fun hv => ?_⟩
  obtain ⟨w, hw⟩ := exists_id? (List.mem_of_getElem? hv)
  rw [hw, h.id_unique (getElem?_of_id? hw) hv]

theorem WellFormed.before_of_idxOf_lt (h : g.WellFormed) (hx : x ∈ g.labels) (hy : y ∈ g.labels)
    (hlt : g.labels.idxOf x < g.labels.idxOf y) : g.Before x y :=
  ⟨_, _, h.id?_eq_some_iff.mpr (List.getElem?_idxOf hx),
    h.id?_eq_some_iff.mpr (List.getElem?_idxOf hy), hlt⟩

/-- Labels stand in the order of their ids. -/
theorem WellFormed.labels_pairwise_before (h : g.WellFormed) : g.labels.Pairwise g.Before := by
  refine List.pairwise_iff_getElem.mpr fun i j hi hj hij => ?_
  exact ⟨i, j, h.id?_eq_some_iff.mpr (List.getElem?_eq_getElem hi),
    h.id?_eq_some_iff.mpr (List.getElem?_eq_getElem hj), hij⟩

/-- Components stand in the order of their first nodes. -/
theorem WellFormed.cyclicComponents_pairwise_before (h : g.WellFormed) :
    g.cyclicComponents.Pairwise fun C D =>
      ∃ x y, C.head? = some x ∧ D.head? = some y ∧ g.Before x y := by
  have first :
      ∀ {C : List T}, C ∈ g.cyclicComponents → ∃ x, C.head? = some x ∧ x ∈ g.labels := by
    intro C hC
    obtain ⟨x, hx⟩ := Option.isSome_iff_exists.mp
      (List.isSome_head?.mpr (ne_nil_of_mem_cyclicComponents hC))
    exact ⟨x, hx, (sublist_labels hC).subset (List.mem_of_mem_head? hx)⟩
  refine h.cyclicComponents_pairwise_head.imp_of_mem fun {C D} hC hD hlt => ?_
  obtain ⟨x, hx, hxl⟩ := first hC
  obtain ⟨y, hy, hyl⟩ := first hD
  exact ⟨x, y, hx, hy, h.before_of_idxOf_lt hxl hyl (hlt x hx y hy)⟩

end Ids

/-! ## §3 Selection -/

/-- The strong components of the graph, listed in any order: every id is in
one of them, and two ids are in the same one when each is reached from the
other. -/
structure IsStrongPartition (g : LabelGraph T) (parts : List (List Nat)) : Prop where
  perm_range : parts.flatten.Perm (List.range g.order)
  ne_nil : ∀ c ∈ parts, c ≠ []
  mem_iff : ∀ c ∈ parts, ∀ v ∈ c, ∀ w < g.order,
    w ∈ c ↔ ReflTransGen g.Linked v w ∧ ReflTransGen g.Linked w v

/-- Does a strong component hold a cycle? -/
def isCyclic (g : LabelGraph T) : List Nat → Bool
  | [] => false
  | [v] => g.hasEdge v v
  | _ :: _ :: _ => true

def firstId (c : List Nat) : Nat := c.headD 0

/-- The cyclic ones among strong components, each in increasing order, by
increasing first id. -/
def selectCyclic (g : LabelGraph T) (parts : List (List Nat)) : List (List Nat) :=
  ((parts.filter g.isCyclic).map fun c => c.mergeSort (· ≤ ·)).mergeSort
    fun c d => decide (firstId c ≤ firstId d)

section Selection

variable {parts : List (List Nat)} {c d p : List Nat}

/-- Strong components have no ids in common, and none twice. -/
theorem IsStrongPartition.nodup_flatten (hp : g.IsStrongPartition parts) :
    parts.flatten.Nodup :=
  hp.perm_range.nodup_iff.mpr List.nodup_range

theorem IsStrongPartition.lt_order (hp : g.IsStrongPartition parts) (hc : p ∈ parts)
    (hv : v ∈ p) : v < g.order :=
  List.mem_range.mp (hp.perm_range.mem_iff.mp (List.mem_flatten.mpr ⟨p, hc, hv⟩))

theorem IsStrongPartition.exists_mem (hp : g.IsStrongPartition parts) (hv : v < g.order) :
    ∃ p ∈ parts, v ∈ p :=
  List.mem_flatten.mp (hp.perm_range.mem_iff.mpr (List.mem_range.mpr hv))

/-- Other ids of its strong component put an id on a cycle. -/
theorem IsStrongPartition.mutual_of_ne (hp : g.IsStrongPartition parts) (hc : p ∈ parts)
    (hv : v ∈ p) (hw : w ∈ p) (hne : v ≠ w) : Mutual g.Linked v w := by
  obtain ⟨hvw, hwv⟩ := (hp.mem_iff p hc v hv w (hp.lt_order hc hw)).mp hw
  constructor
  · exact (Relation.reflTransGen_iff_eq_or_transGen.mp hvw).resolve_left hne.symm
  · exact (Relation.reflTransGen_iff_eq_or_transGen.mp hwv).resolve_left hne

/-- The id after `v` on a cycle is in the strong component of `v`. -/
theorem IsStrongPartition.exists_linked (hp : g.IsStrongPartition parts) (h : g.WellFormed)
    (hc : p ∈ parts) (hv : v ∈ p) (hm : Mutual g.Linked v v) : ∃ w ∈ p, g.Linked v w := by
  obtain ⟨w, hvw, hwv⟩ := TransGen.head'_iff.mp hm.1
  refine ⟨w, ?_, hvw⟩
  exact (hp.mem_iff p hc v hv w (h.edges_lt v w hvw).2).mpr ⟨ReflTransGen.single hvw, hwv⟩

/-- A strong component is cyclic when one of its ids, and so each, lies on a
cycle. -/
theorem IsStrongPartition.isCyclic_iff (hp : g.IsStrongPartition parts) (h : g.WellFormed)
    (hc : p ∈ parts) (hv : v ∈ p) : g.isCyclic p = true ↔ Mutual g.Linked v v := by
  match p, hc, hv with
  | [a], hc, hv =>
    rw [List.mem_singleton.mp hv, isCyclic, hasEdge, decide_eq_true_iff]
    constructor
    · intro he
      exact ⟨TransGen.single he, TransGen.single he⟩
    · intro hm
      obtain ⟨w, hw, he⟩ := hp.exists_linked h hc List.mem_cons_self hm
      rw [List.mem_singleton.mp hw] at he
      exact he
  | a :: b :: rest, hc, hv =>
    refine ⟨fun _ => ?_, fun _ => rfl⟩
    have hab : a ≠ b := by
      have hd := (List.nodup_flatten.mp hp.nodup_flatten).1 _ hc
      exact fun he => (List.nodup_cons.mp hd).1 (he ▸ List.mem_cons_self)
    -- one of the first two ids is another one
    by_cases hva : v = a
    · exact (hp.mutual_of_ne hc hv (List.mem_cons_of_mem a List.mem_cons_self) (hva ▸ hab)).self
    · exact (hp.mutual_of_ne hc hv List.mem_cons_self hva).self

/-- A component and a strong component that have an id in common are the same,
but for the order. -/
theorem IsStrongPartition.mergeSort_eq (hp : g.IsStrongPartition parts) (h : g.WellFormed)
    (hpart : p ∈ parts) (hc : c ∈ g.components) (hvp : v ∈ p) (hvc : v ∈ c) :
    p.mergeSort (· ≤ ·) = c := by
  have hm : Mutual g.Linked v v := (h.mem_component hc hvc).mp hvc
  have mem : ∀ w, w ∈ p.mergeSort (· ≤ ·) ↔ w ∈ c := by
    intro w
    rw [List.mem_mergeSort, h.mem_component hc hvc]
    constructor
    · intro hw
      by_cases he : v = w
      · exact he ▸ hm
      · exact hp.mutual_of_ne hpart hvp hw he
    · intro hvw
      obtain ⟨t, ht, -⟩ := TransGen.head'_iff.mp hvw.2
      exact (hp.mem_iff p hpart v hvp w (h.edges_lt w t ht).1).mpr
        ⟨hvw.1.to_reflTransGen, hvw.2.to_reflTransGen⟩
  have sorted : (p.mergeSort (· ≤ ·)).SortedLT := by
    have hd := (List.nodup_flatten.mp hp.nodup_flatten).1 p hpart
    exact List.sortedLE_mergeSort.sortedLT_of_nodup ((List.mergeSort_perm p _).nodup_iff.mpr hd)
  have sorted' : c.SortedLT := by
    obtain ⟨r, -, rfl, -⟩ := mem_components.mp hc
    exact (pairwise_lt_onCommonCycle _ _ r).sortedLT
  exact sorted.eq_of_mem_iff sorted' mem

/-- The cyclic ones among the strong components are the components. -/
theorem IsStrongPartition.mem_selectCyclic (hp : g.IsStrongPartition parts) (h : g.WellFormed) :
    c ∈ g.selectCyclic parts ↔ c ∈ g.components := by
  rw [selectCyclic, List.mem_mergeSort, List.mem_map]
  simp only [List.mem_filter]
  constructor
  · rintro ⟨p, ⟨hpart, hcyc⟩, rfl⟩
    obtain ⟨v, hv⟩ := List.exists_mem_of_ne_nil p (hp.ne_nil p hpart)
    obtain ⟨c, hc, hvc, -⟩ := h.exists_component ((hp.isCyclic_iff h hpart hv).mp hcyc)
    rw [hp.mergeSort_eq h hpart hc hv hvc]
    exact hc
  · intro hc
    obtain ⟨v, hlt, -, hhead⟩ := mem_components.mp hc
    have hvc : v ∈ c := List.mem_of_mem_head? hhead
    obtain ⟨p, hpart, hvp⟩ := hp.exists_mem hlt
    exact ⟨p, ⟨hpart, (hp.isCyclic_iff h hpart hvp).mpr ((h.mem_component hc hvc).mp hvc)⟩,
      hp.mergeSort_eq h hpart hc hvp hvc⟩

theorem firstId_mem (hc : c ≠ []) : firstId c ∈ c := by
  cases c with
  | nil => exact absurd rfl hc
  | cons a rest => exact List.mem_cons_self

/-- Selected components stand in the order of their first ids, and no two of
them have the same. -/
theorem IsStrongPartition.selectCyclic_pairwise (hp : g.IsStrongPartition parts) :
    (g.selectCyclic parts).Pairwise fun c d => firstId c < firstId d := by
  have ne_nil : ∀ c ∈ g.selectCyclic parts, c ≠ [] := by
    intro c hc
    rw [selectCyclic, List.mem_mergeSort, List.mem_map] at hc
    obtain ⟨p, hpart, rfl⟩ := hc
    rw [← List.length_pos_iff, List.length_mergeSort, List.length_pos_iff]
    exact hp.ne_nil p (List.mem_filter.mp hpart).1
  have apart : (g.selectCyclic parts).Pairwise List.Disjoint := by
    refine (List.Perm.pairwise_iff List.Disjoint.symm (List.mergeSort_perm _ _)).mpr ?_
    refine List.pairwise_map.mpr ?_
    refine ((List.nodup_flatten.mp hp.nodup_flatten).2.filter _).imp ?_
    intro p q hpq v hv hv'
    exact hpq (List.mem_mergeSort.mp hv) (List.mem_mergeSort.mp hv')
  have ordered : (g.selectCyclic parts).Pairwise fun c d => firstId c ≤ firstId d := by
    refine (List.pairwise_mergeSort ?_ ?_ _).imp of_decide_eq_true
    · intro a b c hab hbc
      exact decide_eq_true ((of_decide_eq_true hab).trans (of_decide_eq_true hbc))
    · intro a b
      rw [Bool.or_eq_true, decide_eq_true_iff, decide_eq_true_iff]
      exact Nat.le_total _ _
  refine (ordered.and apart).imp_of_mem fun {c d} hc hd hcd => ?_
  refine Nat.lt_of_le_of_ne hcd.1 fun he => ?_
  exact hcd.2 (firstId_mem (ne_nil c hc)) (he ▸ firstId_mem (ne_nil d hd))

/-- Components stand in the order of their first ids. -/
theorem components_pairwise_firstId :
    g.components.Pairwise fun c d => firstId c < firstId d := by
  have first : ∀ {c : List Nat}, c ∈ g.components → c.head? = some (firstId c) := by
    intro c hc
    obtain ⟨v, -, -, hhead⟩ := mem_components.mp hc
    rw [firstId, List.headD_eq_head?_getD, hhead, Option.getD_some]
  refine components_pairwise_head.imp_of_mem fun {c d} hc hd hlt => ?_
  exact hlt _ (first hc) _ (first hd)

/-- The cyclic ones among the strong components, put in order, are the
components, in whatever order the strong ones are listed. -/
theorem IsStrongPartition.selectCyclic_eq_components (hp : g.IsStrongPartition parts)
    (h : g.WellFormed) : g.selectCyclic parts = g.components := by
  have distinct : ∀ {l : List (List Nat)}, (l.Pairwise fun c d => firstId c < firstId d) →
      l.Nodup := by
    intro l hl
    refine List.Pairwise.imp (fun {c d} hlt he => ?_) hl
    rw [he] at hlt
    exact Nat.lt_irrefl _ hlt
  refine List.Perm.eq_of_pairwise (fun _ _ _ _ hlt hgt => absurd hgt (Nat.lt_asymm hlt))
    hp.selectCyclic_pairwise components_pairwise_firstId ?_
  exact (List.perm_ext_iff_of_nodup (distinct hp.selectCyclic_pairwise)
    (distinct components_pairwise_firstId)).mpr fun c => hp.mem_selectCyclic h

end Selection

/-! ## §4 Cycles -/

/-- A label on a cycle is listed once. -/
theorem WellFormed.count_flatten_cyclicComponents [DecidableEq T] (h : g.WellFormed)
    (hx : x ∈ g.cyclicComponents.flatten) : g.cyclicComponents.flatten.count x = 1 := by
  refine List.count_eq_one_of_mem (List.nodup_flatten.mpr ⟨fun C hC => ?_, ?_⟩) hx
  · exact (sublist_labels hC).nodup h.nodup
  · exact h.cyclicComponents_disjoint

variable [DecidableEq T]

/-- **Cyclic components are the classes of mutual reachability**, in every
graph that calls can build. A label is in a component exactly when a
non-empty path leads from it back to it, and is then listed once; two labels
are in the same component exactly when non-empty paths lead from each to the
other. Components list their labels in the order of their ids and stand in
the order of their first ids. They are the strong components that have two
ids or an edge from an id to itself, in whatever order the strong components
are given. -/
theorem cyclicComponents_run_eq_classes (calls : List (Call T)) :
    let g := (empty : LabelGraph T).run calls
    let linked : T → T → Prop := fun x y => Call.addEdge x y ∈ calls
    let cycles := g.cyclicComponents
    (∀ x, x ∈ cycles.flatten ↔ TransGen linked x x) ∧
    (∀ x ∈ cycles.flatten, cycles.flatten.count x = 1) ∧
    (∀ x y, (∃ C ∈ cycles, x ∈ C ∧ y ∈ C) ↔ TransGen linked x y ∧ TransGen linked y x) ∧
    (∀ C ∈ cycles, C ≠ [] ∧ C.Pairwise g.Before) ∧
    (cycles.Pairwise fun C D => ∃ x y, C.head? = some x ∧ D.head? = some y ∧ g.Before x y) ∧
    ∀ parts, g.IsStrongPartition parts →
      cycles = (g.selectCyclic parts).map fun c => c.filterMap fun v => g.labels[v]? := by
  intro g linked cycles
  have h : g.WellFormed := wellFormed_run_empty calls
  have hjoins : g.Joins = linked := joins_run_empty calls
  have same : ∀ x y, (∃ C ∈ cycles, x ∈ C ∧ y ∈ C) ↔ Mutual linked x y := by
    intro x y
    rw [← hjoins]
    constructor
    · rintro ⟨C, hC, hx, hy⟩
      exact (h.mem_cyclicComponent hC hx).mp hy
    · exact h.exists_cyclicComponent
  refine ⟨fun x => ?_, fun x hx => h.count_flatten_cyclicComponents hx, same, fun C hC => ?_,
    h.cyclicComponents_pairwise_before, fun parts hp => ?_⟩
  · rw [List.mem_flatten, ← and_self_iff (a := TransGen linked x x)]
    refine Iff.trans ?_ (same x x)
    simp only [and_self]
  · exact ⟨ne_nil_of_mem_cyclicComponents hC,
      h.labels_pairwise_before.sublist (sublist_labels hC)⟩
  · rw [hp.selectCyclic_eq_components h]
    rfl

/-- A cycle with a way in and a way on to a loop, and a node apart; an edge is
asked for twice. -/
def Call.chained : List (Call String) :=
  [.addEdge "a" "b", .addEdge "b" "c", .addNode "e", .addEdge "c" "b", .addEdge "c" "d",
    .addEdge "d" "d", .addEdge "b" "c"]

/-- The strong components of this graph may be listed last id first. -/
theorem cyclicComponents_run_chained :
    let g := (empty : LabelGraph String).run Call.chained
    let linked : String → String → Prop := fun x y => Call.addEdge x y ∈ Call.chained
    g.IsStrongPartition [[4], [3], [2, 1], [0]] ∧
      g.cyclicComponents = (g.selectCyclic [[4], [3], [2, 1], [0]]).map
        (fun c => c.filterMap fun v => g.labels[v]?) ∧
      (TransGen linked "c" "b" ∧ TransGen linked "b" "c") ∧ ¬ TransGen linked "a" "a" := by
  intro g linked
  have strong : g.IsStrongPartition [[4], [3], [2, 1], [0]] := by
    refine ⟨by decide, by decide, ?_⟩
    have h : g.WellFormed := wellFormed_run_empty _
    simp only [Relation.reflTransGen_iff_eq_or_transGen, ← h.getElem?_forward]
    decide
  obtain ⟨cyclic, -, same, -, -, selected⟩ := cyclicComponents_run_eq_classes Call.chained
  refine ⟨strong, selected _ strong, (same "c" "b").mp ?_, fun ha => ?_⟩
  · exact ⟨["b", "c"], by decide, by decide, by decide⟩
  · exact absurd ((cyclic "a").mpr ha) (by decide)

end ArgTaint.LabelGraph
