/-
ArgTaint.Proofs.Engine.FlowCycles — which tainted values influence one another.

At rest the flows run between tainted values, so the nodes of the flow graph
are the tainted values in the order in which they were tainted. No value flows
into itself; hence whatever lies on a cycle shares it with another value.

  §1 Flows      — what flows into what, said by marked instructions.
  §2 Flow graph — its labels, and which of them are joined.
  §3 Cycles     — mutual influence without self-influence.
-/
import ArgTaint.Engine.Flow
import ArgTaint.Proofs.Build
import ArgTaint.Proofs.Engine.Closure
import ArgTaint.Proofs.LabelGraph.Components

namespace ArgTaint

namespace Store

variable {V I : Type} [DecidableEq V] {g : UseDef V I} {s : Store V I}

/-! ## §1 Flows -/

/-- One of the flows leads from `u` to `t`. -/
def FlowsTo (g : UseDef V I) (s : Store V I) (u t : V) : Prop :=
  ∃ e ∈ s.flows g, e.source = u ∧ e.dest = some t

/-- The operands that flow are tainted, not the target, and not passed
already. -/
theorem mem_sources {t u : V} :
    ∀ (operands seen : List V),
      u ∈ s.sources t seen operands ↔ u ∈ operands ∧ u ≠ t ∧ u ∉ seen ∧ u ∈ s.valueSet := by
  intro operands
  induction operands with
  | nil => intro seen; simp [sources]
  | cons op rest ih =>
    intro seen
    rw [sources]
    split
    · next hskip =>
      rw [ih, List.mem_cons]
      constructor
      · rintro ⟨hu, h⟩
        exact ⟨Or.inr hu, h⟩
      · rintro ⟨rfl | hu, hne, hseen, hv⟩
        · rcases hskip with h | h | h
          · exact absurd h hne
          · exact absurd h hseen
          · exact absurd hv h
        · exact ⟨hu, hne, hseen, hv⟩
    · next hkeep =>
      obtain ⟨hne, hseen, hv⟩ : op ≠ t ∧ op ∉ seen ∧ op ∈ s.valueSet := by
        simpa only [not_or, not_not] using hkeep
      rw [List.mem_cons, ih, List.mem_cons, List.mem_cons]
      constructor
      · rintro (rfl | ⟨hu, hut, hus, huv⟩)
        · exact ⟨Or.inl rfl, hne, hseen, hv⟩
        · exact ⟨Or.inr hu, hut, fun h => hus (Or.inr h), huv⟩
      · rintro ⟨hu, hut, hus, huv⟩
        by_cases he : u = op
        · exact Or.inl he
        · refine Or.inr ⟨hu.resolve_left he, hut, ?_, huv⟩
          rintro (h | h)
          · exact he h
          · exact hus h

/-- The flows into the target of an instruction come from its other tainted
operands. -/
theorem mem_flowsInto {e : Edge V I} {i : I} :
    e ∈ s.flowsInto g i ↔
      ∃ t, e.instr = i ∧ g.taints? i = some t ∧ e.dest = some t ∧
        e.source ∈ g.operands i ∧ e.source ≠ t ∧ e.source ∈ s.valueSet := by
  rw [flowsInto]
  constructor
  · intro he
    split at he
    · exact absurd he List.not_mem_nil
    · next t ht =>
      obtain ⟨u, hu, rfl⟩ := List.mem_map.mp he
      obtain ⟨hop, hne, -, hv⟩ := (mem_sources _ _).mp hu
      exact ⟨t, rfl, ht, rfl, hop, hne, hv⟩
  · rintro ⟨t, rfl, ht, hd, hop, hne, hv⟩
    simp only [ht]
    refine List.mem_map.mpr ⟨e.source,
      (mem_sources _ _).mpr ⟨hop, hne, List.not_mem_nil, hv⟩, ?_⟩
    rw [← hd]

/-- The flows come from the tainted operands of marked instructions. -/
theorem mem_flows {e : Edge V I} :
    e ∈ s.flows g ↔
      ∃ t, e.instr ∈ s.instrs ∧ g.taints? e.instr = some t ∧ e.dest = some t ∧
        e.source ∈ g.operands e.instr ∧ e.source ≠ t ∧ e.source ∈ s.valueSet := by
  rw [flows, List.mem_flatMap]
  constructor
  · rintro ⟨i, hi, he⟩
    obtain ⟨t, rfl, h⟩ := mem_flowsInto.mp he
    exact ⟨t, hi, h⟩
  · rintro ⟨t, hi, h⟩
    exact ⟨e.instr, hi, mem_flowsInto.mpr ⟨t, rfl, h⟩⟩

/-- A value does not flow into itself. -/
theorem FlowsTo.ne {u t : V} (h : s.FlowsTo g u t) : u ≠ t := by
  obtain ⟨e, he, rfl, hd⟩ := h
  obtain ⟨t', -, -, hd', -, hne, -⟩ := mem_flows.mp he
  rw [hd] at hd'
  cases hd'
  exact hne

/-- Flows run between tainted values. -/
theorem AtRest.mem_values_of_mem_flows (r : AtRest g s)
    (present : g.TargetsPresent) {e : Edge V I}
    (he : e ∈ s.flows g) : e.source ∈ s.values ∧ ∀ t, e.dest = some t → t ∈ s.values := by
  obtain ⟨t, hi, ht, hd, -, -, hv⟩ := mem_flows.mp he
  refine ⟨(r.wellFormed.mem_valueSet e.source).mp hv, ?_⟩
  intro u hu
  rw [hd] at hu
  cases hu
  exact r.justified.targets e.instr hi t ⟨ht, present e.instr t ht⟩

/-! ## §2 Flow graph -/

/-- The graph with the edge of a flow. -/
def addFlow (h : LabelGraph V) (e : Edge V I) : LabelGraph V :=
  match e.dest with
  | some t => h.addEdge e.source t
  | none => h

/-- Flows between nodes of a graph add edges and no nodes. -/
theorem foldl_addFlow :
    ∀ (es : List (Edge V I)) (h : LabelGraph V), h.WellFormed →
      (∀ e ∈ es, e.source ∈ h.labels ∧ ∀ t, e.dest = some t → t ∈ h.labels) →
      (es.foldl addFlow h).WellFormed ∧ (es.foldl addFlow h).labels = h.labels ∧
      ∀ x y, (es.foldl addFlow h).Joins x y ↔
        h.Joins x y ∨ ∃ e ∈ es, e.source = x ∧ e.dest = some y := by
  intro es
  induction es with
  | nil => intro h hw _; exact ⟨hw, rfl, fun x y => by simp⟩
  | cons e rest ih =>
    intro h hw ends
    obtain ⟨hsource, hdest⟩ := ends e List.mem_cons_self
    have hrest : ∀ f ∈ rest, f.source ∈ h.labels ∧ ∀ t, f.dest = some t → t ∈ h.labels :=
      fun f hf => ends f (List.mem_cons_of_mem e hf)
    rw [List.foldl_cons]
    cases hd : e.dest with
    | none =>
      obtain ⟨hwf, hlabels, hjoins⟩ := ih h hw hrest
      simp only [addFlow, hd]
      refine ⟨hwf, hlabels, fun x y => (hjoins x y).trans ?_⟩
      simp [hd]
    | some t =>
      have hlabels' := LabelGraph.labels_addEdge_of_mem hsource (hdest t hd)
      obtain ⟨hwf, hlabels, hjoins⟩ :=
        ih (h.addEdge e.source t) (hw.addEdge e.source t) (by rw [hlabels']; exact hrest)
      simp only [addFlow, hd]
      refine ⟨hwf, hlabels.trans hlabels', fun x y => (hjoins x y).trans ?_⟩
      rw [hw.joins_addEdge]
      simp only [List.exists_mem_cons_iff, hd, Option.some.injEq, or_assoc, eq_comm]

/-- The flow graph starts from the tainted values, in their order. -/
theorem WellFormed.flowGraph_eq_foldl (h : s.WellFormed) :
    s.flowGraph g = (s.flows g).foldl addFlow ⟨s.values, []⟩ := by
  have hnodes : s.values.foldl LabelGraph.addNode .empty = ⟨s.values, []⟩ :=
    LabelGraph.foldl_addNode s.values .empty h.values_nodup
  rw [Store.flowGraph, hnodes]
  rfl

/-- The flow graph represents the flows: its labels are the tainted values, and
its edges join what flows into what. -/
theorem AtRest.flowGraph_represents (r : AtRest g s)
    (present : g.TargetsPresent) :
    (s.flowGraph g).WellFormed ∧ (s.flowGraph g).labels = s.values ∧
      (s.flowGraph g).Joins = s.FlowsTo g := by
  have hw : (⟨s.values, []⟩ : LabelGraph V).WellFormed :=
    ⟨r.wellFormed.values_nodup, fun v w h => absurd h List.not_mem_nil⟩
  obtain ⟨hwf, hlabels, hjoins⟩ := foldl_addFlow (s.flows g) ⟨s.values, []⟩ hw
    fun e he => r.mem_values_of_mem_flows present he
  rw [r.wellFormed.flowGraph_eq_foldl]
  refine ⟨hwf, hlabels, ?_⟩
  funext x y
  refine propext ((hjoins x y).trans ⟨?_, Or.inr⟩)
  rintro (⟨v, w, -, -, he⟩ | h)
  · exact absurd he List.not_mem_nil
  · exact h

/-! ## §3 Cycles -/

/-- A cycle is the class of each of its values. -/
theorem AtRest.mem_flowCycle (r : AtRest g s) (present : g.TargetsPresent) {c : List V}
    {u v : V} (hc : c ∈ s.flowCycles g) (hu : u ∈ c) : v ∈ c ↔ Mutual (s.FlowsTo g) u v := by
  obtain ⟨hw, -, hjoins⟩ := r.flowGraph_represents present
  rw [hw.mem_cyclicComponent hc hu, hjoins]

/-- Two values share a cycle when they flow into each other. -/
theorem AtRest.exists_flowCycle_iff (r : AtRest g s) (present : g.TargetsPresent) {u v : V} :
    (∃ c ∈ s.flowCycles g, u ∈ c ∧ v ∈ c) ↔ Mutual (s.FlowsTo g) u v := by
  obtain ⟨hw, -, hjoins⟩ := r.flowGraph_represents present
  constructor
  · rintro ⟨c, hc, hu, hv⟩
    exact (r.mem_flowCycle present hc hu).mp hv
  · intro hm
    rw [← hjoins] at hm
    exact hw.exists_cyclicComponent hm

/-- The values of a cycle stand in the order of tainting. -/
theorem AtRest.sublist_values (r : AtRest g s)
    (present : g.TargetsPresent) {c : List V}
    (hc : c ∈ s.flowCycles g) : c.Sublist s.values := by
  obtain ⟨-, hlabels, -⟩ := r.flowGraph_represents present
  have hsub := LabelGraph.sublist_labels hc
  rw [hlabels] at hsub
  exact hsub

/-- On a cycle are the values that flow into another value and back. -/
theorem AtRest.exists_flowCycle_iff_exists_ne (r : AtRest g s)
    (present : g.TargetsPresent) {v : V} :
    (∃ c ∈ s.flowCycles g, v ∈ c) ↔ ∃ w, w ≠ v ∧ Mutual (s.FlowsTo g) v w := by
  constructor
  · rintro ⟨c, hc, hv⟩
    have hself := (r.exists_flowCycle_iff present).mp ⟨c, hc, hv, hv⟩
    exact hself.exists_ne fun _ _ h => h.ne
  · rintro ⟨w, -, hm⟩
    obtain ⟨c, hc, hv, -⟩ := (r.exists_flowCycle_iff present).mpr hm
    exact ⟨c, hc, hv⟩

theorem AtRest.flowCycles_disjoint (r : AtRest g s)
    (present : g.TargetsPresent) :
    (s.flowCycles g).Pairwise List.Disjoint := by
  obtain ⟨hw, -, -⟩ := r.flowGraph_represents present
  exact hw.cyclicComponents_disjoint

/-- Cycles stand in the order in which their first values were tainted. -/
theorem AtRest.flowCycles_pairwise_head (r : AtRest g s)
    (present : g.TargetsPresent) :
    (s.flowCycles g).Pairwise fun c d =>
      ∀ u ∈ c.head?, ∀ v ∈ d.head?, s.values.idxOf u < s.values.idxOf v := by
  obtain ⟨hw, hlabels, -⟩ := r.flowGraph_represents present
  have hpair := hw.cyclicComponents_pairwise_head
  rw [hlabels] at hpair
  exact hpair

/-- A cycle has at least two values, since no value flows into itself. -/
theorem AtRest.two_le_length_of_mem_flowCycles (r : AtRest g s)
    (present : g.TargetsPresent) {c : List V}
    (hc : c ∈ s.flowCycles g) : 2 ≤ c.length := by
  have hne := LabelGraph.ne_nil_of_mem_cyclicComponents hc
  match c, hc, hne with
  | [v], hc, _ =>
    have hv : v ∈ [v] := List.mem_singleton.mpr rfl
    obtain ⟨w, hwv, hm⟩ := (r.exists_flowCycle_iff_exists_ne present).mp ⟨[v], hc, hv⟩
    have hw : w ∈ [v] := (r.mem_flowCycle present hc hv).mpr hm
    exact absurd (List.mem_singleton.mp hw) hwv
  | _ :: _ :: rest, _, _ => exact Nat.le_add_left 2 rest.length

end Store

end ArgTaint
