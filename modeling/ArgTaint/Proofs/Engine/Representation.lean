/-
ArgTaint.Proofs.Engine.Representation — the fields of a store stay in step.

A store says the same thing in several fields: the tainted values are a list
and a set, the marked instructions are a list, a set and a list of edges, and
the pending values are a part of the tainted values that is also a queue.

`Store.WellFormed` is what holds between the fields. The one clause that is
written nowhere in the engine is `queue`: from the head on, the queue is the
last part of the tainted values. So the tainted values fall into those that
have been popped (`Store.visited`) and those that are pending, in this order.

  §1 The invariant — `WellFormed`, `Extends`, `visited`.
  §2 Tainting, marking, seeding — each keeps the invariant.
  §3 Popping       — what it does to the queue, and that it keeps the
                     invariant although the queue is cleared and starts over.
-/
import ArgTaint.Engine.Store
import Mathlib.Data.List.DropRight
import Mathlib.Data.List.Nodup

namespace ArgTaint.Store

variable {V I : Type}

/-! ## §1 The invariant -/

/-- The relations between the fields of a store. -/
structure WellFormed (s : Store V I) : Prop where
  values_nodup : s.values.Nodup
  mem_valueSet : ∀ v, v ∈ s.valueSet ↔ v ∈ s.values
  instrs_nodup : s.instrs.Nodup
  mem_instrSet : ∀ i, i ∈ s.instrSet ↔ i ∈ s.instrs
  /-- The slots from the head on hold the last tainted values, in order. -/
  queue : s.worklist.drop s.head = (s.values.rtake s.pendingCount).map some
  head_le : s.head ≤ s.worklist.length
  head_eq_zero : s.pendingCount = 0 → s.head = 0
  edges_instrs : s.edges.map Edge.instr = s.instrs
  seeds_sublist : s.seeds.Sublist s.values

/-- A later store: nothing that was listed is lost, moved or preceded. -/
structure Extends (s t : Store V I) : Prop where
  values : s.values <+: t.values
  instrs : s.instrs <+: t.instrs
  edges : s.edges <+: t.edges
  seeds : s.seeds <+: t.seeds

/-- The values that have been popped: the tainted ones that are not pending. -/
def visited (s : Store V I) : List V := s.values.rdrop s.pendingCount

theorem wellFormed_empty : (empty : Store V I).WellFormed where
  values_nodup := List.nodup_nil
  mem_valueSet _ := Iff.rfl
  instrs_nodup := List.nodup_nil
  mem_instrSet _ := Iff.rfl
  queue := rfl
  head_le := Nat.le_refl _
  head_eq_zero _ := rfl
  edges_instrs := rfl
  seeds_sublist := List.Sublist.refl _

theorem Extends.refl (s : Store V I) : s.Extends s :=
  ⟨List.prefix_rfl, List.prefix_rfl, List.prefix_rfl, List.prefix_rfl⟩

theorem Extends.trans {s t u : Store V I} (h : s.Extends t) (k : t.Extends u) :
    s.Extends u :=
  ⟨h.values.trans k.values, h.instrs.trans k.instrs, h.edges.trans k.edges,
    h.seeds.trans k.seeds⟩

/-- The tainted values are those visited, then those pending. -/
theorem visited_append_pending {s : Store V I} (h : s.WellFormed) :
    s.visited ++ s.pending = s.values := by
  have hp : s.pending = s.values.rtake s.pendingCount := by
    rw [pending, h.queue, List.filterMap_map]
    exact List.filterMap_some
  rw [hp, visited, List.rdrop, List.rtake, List.take_append_drop]

theorem visited_eq_values {s : Store V I} (h : s.pendingCount = 0) :
    s.visited = s.values := by
  rw [visited, h, List.rdrop_zero]

theorem mem_values_of_mem_visited {s : Store V I} {v : V} (h : v ∈ s.visited) :
    v ∈ s.values :=
  List.mem_of_mem_take h

/-- The set of tainted values agrees with their list. -/
theorem isTainted_iff [DecidableEq V] {s : Store V I} (h : s.WellFormed) (v : V) :
    s.isTainted v = true ↔ v ∈ s.values := by
  rw [isTainted, decide_eq_true_iff]
  exact h.mem_valueSet v

/-- The set of marked instructions agrees with their list. -/
theorem isMarked_iff [DecidableEq I] {s : Store V I} (h : s.WellFormed) (i : I) :
    s.isMarked i = true ↔ i ∈ s.instrs := by
  rw [isMarked, decide_eq_true_iff]
  exact h.mem_instrSet i

/-! ## §2 Tainting, marking, seeding -/

theorem pendingCount_withValue {s : Store V I} (h : s.WellFormed) (v : V) :
    (s.withValue v).pendingCount = s.pendingCount + 1 := by
  have := h.head_le
  simp only [pendingCount, withValue, List.length_append, List.length_singleton]
  omega

/-- Tainting a value leaves what has been popped alone. -/
theorem visited_withValue {s : Store V I} (h : s.WellFormed) (v : V) :
    (s.withValue v).visited = s.visited := by
  rw [visited, pendingCount_withValue h]
  exact List.rdrop_concat_succ _ _ _

/-- Tainting a new value keeps a store well-formed. -/
theorem WellFormed.withValue {s : Store V I} (h : s.WellFormed) {v : V}
    (fresh : v ∉ s.valueSet) : (s.withValue v).WellFormed where
  values_nodup := by
    have hv : v ∉ s.values := fun hm => fresh ((h.mem_valueSet v).mpr hm)
    simpa only [Store.withValue, List.concat_eq_append] using
      List.Nodup.concat hv h.values_nodup
  mem_valueSet w := by
    simp only [Store.withValue, List.mem_cons, List.mem_append, List.not_mem_nil,
      or_false, h.mem_valueSet w]
    exact or_comm
  instrs_nodup := h.instrs_nodup
  mem_instrSet := h.mem_instrSet
  queue := by
    rw [pendingCount_withValue h]
    simp only [Store.withValue]
    rw [List.drop_append_of_le_length h.head_le, h.queue, List.rtake_concat_succ,
      List.map_append, List.map_singleton]
  head_le := by
    have := h.head_le
    simp only [Store.withValue, List.length_append]
    omega
  head_eq_zero h0 := by
    rw [pendingCount_withValue h] at h0
    omega
  edges_instrs := h.edges_instrs
  seeds_sublist := h.seeds_sublist.trans (List.sublist_append_left _ _)

/-- Only a value that was tainted last can become a seed: the seeds stay in
the order of the values. -/
theorem WellFormed.withValue_withSeed {s : Store V I} (h : s.WellFormed) {v : V}
    (fresh : v ∉ s.valueSet) : ((s.withValue v).withSeed v).WellFormed :=
  { h.withValue fresh with
    seeds_sublist := h.seeds_sublist.append (List.Sublist.refl [v]) }

/-- Marking a new instruction keeps a store well-formed. -/
theorem WellFormed.withEdge {s : Store V I} (h : s.WellFormed) {e : Edge V I}
    (fresh : e.instr ∉ s.instrSet) : (s.withEdge e).WellFormed :=
  { h with
    instrs_nodup := by
      have hi : e.instr ∉ s.instrs := fun hm => fresh ((h.mem_instrSet _).mpr hm)
      simpa only [Store.withEdge, List.concat_eq_append] using
        List.Nodup.concat hi h.instrs_nodup
    mem_instrSet := by
      intro i
      simp only [Store.withEdge, List.mem_cons, List.mem_append, List.not_mem_nil,
        or_false, h.mem_instrSet i]
      exact or_comm
    edges_instrs := by
      simp only [Store.withEdge, List.map_append, List.map_singleton, h.edges_instrs] }

theorem extends_withValue (s : Store V I) (v : V) : s.Extends (s.withValue v) :=
  ⟨List.prefix_append _ _, List.prefix_rfl, List.prefix_rfl, List.prefix_rfl⟩

theorem extends_withSeed (s : Store V I) (v : V) : s.Extends (s.withSeed v) :=
  ⟨List.prefix_rfl, List.prefix_rfl, List.prefix_rfl, List.prefix_append _ _⟩

theorem extends_withEdge (s : Store V I) (e : Edge V I) : s.Extends (s.withEdge e) :=
  ⟨List.prefix_rfl, List.prefix_append _ _, List.prefix_append _ _, List.prefix_rfl⟩

/-! ## §3 Popping -/

/-- What popping does: only the queue and its head change, and the queue from
the head on loses its first slot. -/
theorem pop?_eq_some {s t : Store V I} {v : V} (h : s.pop? = some (v, t)) :
    s.worklist.drop s.head = some v :: t.worklist.drop t.head ∧
      t.head ≤ t.worklist.length ∧ (t.pendingCount = 0 → t.head = 0) ∧
      t = { s with worklist := t.worklist, head := t.head } := by
  unfold pop? at h
  split at h
  · next w hw =>
    obtain ⟨hlt, hget⟩ := List.getElem?_eq_some_iff.mp hw
    have hdrop : s.worklist.drop s.head = some w :: s.worklist.drop (s.head + 1) := by
      rw [← hget]
      exact List.drop_eq_getElem_cons hlt
    split at h
    · next hlast =>
      cases h
      refine ⟨?_, Nat.le_refl _, fun _ => rfl, rfl⟩
      rw [hdrop, List.drop_eq_nil_of_le (Nat.le_of_eq hlast.symm), List.drop_nil]
    · next hlast =>
      cases h
      refine ⟨?_, ?_, ?_, rfl⟩
      · rw [hdrop, List.drop_set_of_lt (Nat.lt_succ_self _)]
      · rw [List.length_set]
        exact hlt
      · intro h0
        simp only [pendingCount, List.length_set] at h0
        omega
  · cases h

theorem pendingCount_pop? {s t : Store V I} {v : V} (h : s.pop? = some (v, t)) :
    s.pendingCount = t.pendingCount + 1 := by
  have hl := congrArg List.length (pop?_eq_some h).1
  simpa only [pendingCount, List.length_drop, List.length_cons] using hl

/-- The last `n` elements and the ones before them, when the element in
between is known. -/
theorem rtake_rdrop_of_rtake_succ {l r : List V} {a : V} (h : l.rtake (r.length + 1) = a :: r) :
    l.rtake r.length = r ∧ l.rdrop r.length = l.rdrop (r.length + 1) ++ [a] := by
  have hl : l.rdrop (r.length + 1) ++ [a] ++ r = l := by
    rw [List.append_assoc, List.singleton_append, ← h, List.rdrop, List.rtake,
      List.take_append_drop]
  have hd : l.rdrop r.length = l.rdrop (r.length + 1) ++ [a] := by
    conv_lhs => rw [← hl]
    exact List.rdrop_append_length
  refine ⟨?_, hd⟩
  have hs : l.rdrop r.length ++ l.rtake r.length = l := List.take_append_drop _ _
  rw [hd] at hs
  exact List.append_cancel_left (hs.trans hl.symm)

/-- The popped value is the oldest of the pending values. -/
theorem rtake_pendingCount_of_pop? {s t : Store V I} {v : V} (h : s.WellFormed)
    (hp : s.pop? = some (v, t)) :
    t.worklist.drop t.head = (s.values.rtake t.pendingCount).map some ∧
      s.values.rdrop t.pendingCount = s.visited ++ [v] := by
  have hq := (pop?_eq_some hp).1
  rw [h.queue] at hq
  obtain ⟨a, r, hr, ha, hrest⟩ := List.map_eq_cons_iff.mp hq
  cases ha
  have hlen : r.length = t.pendingCount := by
    rw [pendingCount, ← List.length_drop, ← hrest, List.length_map]
  rw [pendingCount_pop? hp, ← hlen] at hr
  obtain ⟨h1, h2⟩ := rtake_rdrop_of_rtake_succ hr
  rw [visited, pendingCount_pop? hp, ← hlen, h1, hrest]
  exact ⟨rfl, h2⟩

/-- Taking a pending value keeps a store well-formed. -/
theorem WellFormed.pop? {s t : Store V I} {v : V} (h : s.WellFormed)
    (hp : s.pop? = some (v, t)) : t.WellFormed := by
  have hq := (rtake_pendingCount_of_pop? h hp).1
  obtain ⟨-, hle, hzero, ht⟩ := pop?_eq_some hp
  rw [ht] at hq ⊢
  exact { h with queue := hq, head_le := hle, head_eq_zero := hzero }

/-- Popping moves one value from the pending ones to the popped ones. -/
theorem visited_pop? {s t : Store V I} {v : V} (h : s.WellFormed)
    (hp : s.pop? = some (v, t)) : t.visited = s.visited ++ [v] := by
  have hv : t.values = s.values := by rw [(pop?_eq_some hp).2.2.2]
  rw [visited, hv]
  exact (rtake_pendingCount_of_pop? h hp).2

/-- The value that is popped is the last one of the popped values. -/
theorem getLast?_visited_pop? {s t : Store V I} {v : V} (h : s.WellFormed)
    (hp : s.pop? = some (v, t)) : t.visited.getLast? = some v := by
  rw [visited_pop? h hp, List.getLast?_concat]

theorem extends_pop? {s t : Store V I} {v : V} (h : s.pop? = some (v, t)) : s.Extends t := by
  rw [(pop?_eq_some h).2.2.2]
  exact ⟨List.prefix_rfl, List.prefix_rfl, List.prefix_rfl, List.prefix_rfl⟩

/-- Nothing can be popped only when nothing is pending. -/
theorem pop?_eq_none {s : Store V I} (h : s.WellFormed) (hp : s.pop? = none) :
    s.pendingCount = 0 := by
  by_contra hne
  have hlt : s.head < s.worklist.length := by
    simp only [pendingCount] at hne
    omega
  have hmem : s.worklist[s.head] ∈ s.worklist.drop s.head := by
    rw [List.drop_eq_getElem_cons hlt]
    exact List.mem_cons_self
  rw [h.queue] at hmem
  obtain ⟨v, -, hv⟩ := List.mem_map.mp hmem
  have hget : s.worklist[s.head]? = some (some v) := by
    rw [List.getElem?_eq_getElem hlt, hv]
  simp only [Store.pop?, hget] at hp
  split at hp <;> cases hp

end ArgTaint.Store
