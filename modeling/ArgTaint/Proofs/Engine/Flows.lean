/-
ArgTaint.Proofs.Engine.Flows — the list of flows, entry by entry.

Flows are listed by marked instruction and, for one instruction, by operand, so
each occurs once. Every edge of a store is one of its flows, unless it leads
nowhere or back to its own source. An engine never taints what is no value;
but an operand that is no value may be a target, and then it is an end of
flows, and a node of the flow graph, without being tainted.

  §1 Order   — `Precedes`; the flows are listed in this order.
  §2 Present — tainted values are values.
  §3 Edges   — the flows at rest, and the edges among them.
  §4 Ends    — which ends of flows are tainted, and the nodes of the flow graph.
  §5 Runs    — what holds after any calls on one function.
-/
import ArgTaint.Proofs.Engine.FlowCycles
import ArgTaint.Proofs.Engine.Provenance

namespace ArgTaint

open Relation (ReflTransGen)

/-- The users of a value are the instructions that have it as operand. -/
def UseDef.Mirrored {V I : Type} (g : UseDef V I) : Prop :=
  ∀ v, g.isAbsent v = false → ∀ i, i ∈ g.users v ↔ v ∈ g.operands i

namespace Store

variable {V I : Type} {g : UseDef V I} {s t : Store V I}

/-! ## §1 Order -/

section Order

variable [DecidableEq V]

theorem pairwise_idxOf_cons {op : V} {rest l : List V}
    (h : l.Pairwise fun u v => rest.idxOf u < rest.idxOf v) (hne : ∀ u ∈ l, u ≠ op) :
    l.Pairwise fun u v => (op :: rest).idxOf u < (op :: rest).idxOf v := by
  refine h.imp_of_mem fun {u v} hu hv hlt => ?_
  rw [List.idxOf_cons_ne rest (hne u hu).symm, List.idxOf_cons_ne rest (hne v hv).symm]
  exact Nat.succ_lt_succ hlt

/-- Operands that flow are listed where they occur first. -/
theorem pairwise_sources {t : V} :
    ∀ (operands seen : List V), (s.sources t seen operands).Pairwise fun u v =>
      operands.idxOf u < operands.idxOf v := by
  intro operands
  induction operands with
  | nil => intro seen; exact List.Pairwise.nil
  | cons op rest ih =>
    intro seen
    rw [sources]
    split
    · next hskip =>
      refine pairwise_idxOf_cons (ih seen) fun u hu he => ?_
      obtain ⟨-, hne, hseen, hv⟩ := (mem_sources rest seen).mp hu
      rw [he] at hne hseen hv
      rcases hskip with h | h | h
      · exact hne h
      · exact hseen h
      · exact h hv
    · have hne : ∀ u ∈ s.sources t (op :: seen) rest, u ≠ op := fun u hu he =>
        ((mem_sources rest (op :: seen)).mp hu).2.2.1 (he ▸ List.mem_cons_self)
      refine List.Pairwise.cons (fun v hv => ?_) (pairwise_idxOf_cons (ih (op :: seen)) hne)
      rw [List.idxOf_cons_self, List.idxOf_cons_ne rest (hne v hv).symm]
      exact Nat.succ_pos _

theorem instr_of_mem_flowsInto {e : Edge V I} {i : I} (he : e ∈ s.flowsInto g i) :
    e.instr = i := by
  obtain ⟨-, hi, -⟩ := mem_flowsInto.mp he
  exact hi

variable [DecidableEq I]

/-- A flow comes before another when its instruction was marked before, or when
they have the instruction in common and its source is an earlier operand. -/
def Precedes (g : UseDef V I) (s : Store V I) (e f : Edge V I) : Prop :=
  s.instrs.idxOf e.instr < s.instrs.idxOf f.instr ∨
    e.instr = f.instr ∧
      (g.operands e.instr).idxOf e.source < (g.operands e.instr).idxOf f.source

theorem not_precedes_self (e : Edge V I) : ¬ s.Precedes g e e := by
  rintro (h | ⟨-, h⟩)
  · exact Nat.lt_irrefl _ h
  · exact Nat.lt_irrefl _ h

/-- The flows of one instruction stand in the order of its operands. -/
theorem flowsInto_pairwise (i : I) : (s.flowsInto g i).Pairwise (s.Precedes g) := by
  rw [flowsInto]
  split
  · exact List.Pairwise.nil
  · exact List.pairwise_map.mpr ((pairwise_sources _ _).imp fun h => Or.inr ⟨rfl, h⟩)

/-- Entries of a list without repetition stand in the order of their positions. -/
theorem pairwise_idxOf_of_nodup {α : Type} [DecidableEq α] {l : List α} (h : l.Nodup) :
    l.Pairwise fun x y => l.idxOf x < l.idxOf y := by
  refine List.pairwise_iff_getElem.mpr fun i j hi hj hij => ?_
  rw [h.idxOf_getElem i hi, h.idxOf_getElem j hj]
  exact hij

/-- Flows stand in the order of marking, then in that of the operands. -/
theorem flows_pairwise (h : s.WellFormed) : (s.flows g).Pairwise (s.Precedes g) := by
  refine List.pairwise_flatMap.mpr ⟨fun i _ => flowsInto_pairwise i, ?_⟩
  refine (pairwise_idxOf_of_nodup h.instrs_nodup).imp fun {i j} hlt e he f hf => Or.inl ?_
  rw [instr_of_mem_flowsInto he, instr_of_mem_flowsInto hf]
  exact hlt

/-- No flow is listed twice. -/
theorem nodup_flows (h : s.WellFormed) : (s.flows g).Nodup := by
  refine (flows_pairwise h).imp fun {e f} hp he => ?_
  rw [← he] at hp
  exact not_precedes_self e hp

end Order

/-! ## §2 Present -/

/-- What is tainted is a value. -/
def ValuesPresent (g : UseDef V I) (s : Store V I) : Prop :=
  ∀ v ∈ s.values, g.isAbsent v = false

theorem ValuesPresent.not_mem {x : V} (present : ValuesPresent g s)
    (absent : g.isAbsent x = true) : x ∉ s.values := by
  intro hx
  rw [present x hx] at absent
  cases absent

theorem ValuesPresent.append {v : V} (h : ValuesPresent g s) (hv : g.isAbsent v = false) :
    ∀ w ∈ s.values ++ [v], g.isAbsent w = false := by
  intro w hw
  rcases List.mem_append.mp hw with hw | hw
  · exact h w hw
  · rw [List.mem_singleton.mp hw]
    exact hv

/-- No move taints what is no value. -/
theorem Move.valuesPresent (m : Move g s t) (h : ValuesPresent g s) : ValuesPresent g t := by
  cases m with
  | seed present _ => exact h.append present
  | pop popped =>
    rw [(pop?_eq_some popped).2.2.2]
    exact h
  | mark _ _ _ _ _ => exact h
  | spread _ _ _ _ _ present _ => exact h.append present

theorem valuesPresent_of_moves (m : ReflTransGen (Move g) s t) (h : ValuesPresent g s) :
    ValuesPresent g t := by
  induction m with
  | refl => exact h
  | tail _ m ih => exact m.valuesPresent ih

/-! ## §3 Edges -/

variable [DecidableEq V]

/-- At rest, a flow is an operand that is tainted and the target of a
propagating instruction. -/
theorem AtRest.mem_flows_iff (r : AtRest g s) (present : ValuesPresent g s)
    (mirrored : g.Mirrored) {e : Edge V I} :
    e ∈ s.flows g ↔
      ∃ t, g.Propagates e.instr ∧ g.taints? e.instr = some t ∧ e.dest = some t ∧
        e.source ∈ g.operands e.instr ∧ e.source ∈ s.values ∧ e.source ≠ t := by
  rw [mem_flows]
  constructor
  · rintro ⟨t, hi, ht, hd, hop, hne, hv⟩
    exact ⟨t, ((r.mem_instrs_iff e.instr).mp hi).1, ht, hd, hop,
      (r.wellFormed.mem_valueSet e.source).mp hv, hne⟩
  · rintro ⟨t, hp, ht, hd, hop, hv, hne⟩
    have use : e.instr ∈ g.users e.source :=
      (mirrored e.source (present e.source hv) e.instr).mpr hop
    exact ⟨t, (r.mem_instrs_iff e.instr).mpr ⟨hp, e.source, hv, use⟩, ht, hd, hop, hne,
      (r.wellFormed.mem_valueSet e.source).mpr hv⟩

/-- An edge that leads on from its source is a flow. -/
theorem AtRest.mem_flows_of_mem_edges (r : AtRest g s) (present : ValuesPresent g s)
    (mirrored : g.Mirrored) (x : Explained g s)
    (recorded : ∀ e ∈ s.edges, e.dest = g.taints? e.instr ∧ e.instr ∈ g.users e.source)
    {e : Edge V I} {t : V} (he : e ∈ s.edges) (hd : e.dest = some t) (hne : e.source ≠ t) :
    e ∈ s.flows g := by
  obtain ⟨htarget, huse⟩ := recorded e he
  have hv : e.source ∈ s.values := x.source_mem_values he
  have hi : e.instr ∈ s.instrs := by
    rw [← r.wellFormed.edges_instrs]
    exact List.mem_map_of_mem he
  refine (r.mem_flows_iff present mirrored).mpr
    ⟨t, ((r.mem_instrs_iff e.instr).mp hi).1, ?_, hd,
    (mirrored e.source (present e.source hv) e.instr).mp huse, hv, hne⟩
  rw [← htarget]
  exact hd

/-! ## §4 Ends -/

/-- The source of a flow is tainted, and so is its target when that is a value. -/
theorem AtRest.ends_of_mem_flows (r : AtRest g s) (present : ValuesPresent g s) {e : Edge V I}
    (he : e ∈ s.flows g) :
    e.source ∈ s.values ∧ ∃ t, e.dest = some t ∧ (t ∈ s.values ↔ g.isAbsent t = false) := by
  obtain ⟨t, hi, ht, hd, -, -, hv⟩ := mem_flows.mp he
  exact ⟨(r.wellFormed.mem_valueSet e.source).mp hv, t, hd, present t,
    fun ha => r.justified.targets e.instr hi t ⟨ht, ha⟩⟩

/-- A marked instruction whose target is no value has a flow into it. -/
theorem AtRest.exists_mem_flowsInto (r : AtRest g s) (present : ValuesPresent g s)
    (mirrored : g.Mirrored) {i : I} {x : V} (hi : i ∈ s.instrs) (ht : g.taints? i = some x)
    (absent : g.isAbsent x = true) : ∃ e ∈ s.flowsInto g i, e.dest = some x := by
  obtain ⟨-, v, hv, huse⟩ := (r.mem_instrs_iff i).mp hi
  have hne : v ≠ x := ne_of_mem_of_not_mem hv (present.not_mem absent)
  have hop : v ∈ g.operands i := (mirrored v (present v hv) i).mp huse
  exact ⟨⟨v, i, some x⟩, mem_flowsInto.mpr
    ⟨x, rfl, ht, rfl, hop, hne, (r.wellFormed.mem_valueSet v).mpr hv⟩, rfl⟩

/-- The targets of flows are all tainted when no marked instruction has a target
that is no value. -/
theorem AtRest.targets_mem_values_iff (r : AtRest g s) (present : ValuesPresent g s)
    (mirrored : g.Mirrored) :
    (∀ e ∈ s.flows g, ∀ t, e.dest = some t → t ∈ s.values) ↔
      ∀ i ∈ s.instrs, ∀ t, g.taints? i = some t → g.isAbsent t = false := by
  constructor
  · intro tainted i hi t ht
    refine eq_false_of_ne_true fun absent => ?_
    obtain ⟨e, he, hd⟩ := r.exists_mem_flowsInto present mirrored hi ht absent
    exact present.not_mem absent (tainted e (List.mem_flatMap.mpr ⟨i, hi, he⟩) t hd)
  · intro valued e he t hd
    obtain ⟨u, hi, hu, hd', -⟩ := mem_flows.mp he
    rw [hd] at hd'
    cases hd'
    exact r.justified.targets e.instr hi t ⟨hu, valued e.instr hi t hu⟩

/-- Flows from nodes into one target add the node of the target. -/
theorem labels_foldl_addFlow {t : V} :
    ∀ (es : List (Edge V I)) (h : LabelGraph V),
      (∀ e ∈ es, e.source ∈ h.labels ∧ e.dest = some t) →
      (es.foldl addFlow h).labels = if es = [] then h.labels else (h.addNode t).labels := by
  intro es
  induction es with
  | nil => intro h _; rfl
  | cons e rest ih =>
    intro h ends
    obtain ⟨hsource, hd⟩ := ends e List.mem_cons_self
    have hlabels : (addFlow h e).labels = (h.addNode t).labels := by
      simp only [addFlow, hd]
      rw [LabelGraph.labels_addEdge, LabelGraph.addNode_of_mem hsource]
    have hmem : t ∈ (addFlow h e).labels := by
      rw [hlabels]
      exact LabelGraph.mem_labels_addNode.mpr (Or.inr rfl)
    have hrest : ∀ f ∈ rest, f.source ∈ (addFlow h e).labels ∧ f.dest = some t := by
      intro f hf
      obtain ⟨hs, hf⟩ := ends f (List.mem_cons_of_mem e hf)
      rw [hlabels]
      exact ⟨LabelGraph.mem_labels_addNode.mpr (Or.inl hs), hf⟩
    rw [List.foldl_cons, ih _ hrest, LabelGraph.addNode_of_mem hmem, ite_self, hlabels,
      if_neg (List.cons_ne_nil e rest)]

/-- The flows of a marked instruction add a node when its target is no value;
`seen` are the targets before that are no values. -/
theorem AtRest.labels_flowsInto (r : AtRest g s) (present : ValuesPresent g s)
    (mirrored : g.Mirrored) {i : I} (hi : i ∈ s.instrs) {h : LabelGraph V} {seen : List V}
    (hl : h.labels = s.values ++ seen.eraseDups) :
    ((s.flowsInto g i).foldl addFlow h).labels =
      s.values ++ (seen ++ (g.taints? i).toList.filter g.isAbsent).eraseDups := by
  have known : ∀ v ∈ s.values, v ∈ h.labels := fun v hv => by
    rw [hl]
    exact List.mem_append_left _ hv
  cases ht : g.taints? i with
  | none => simpa [flowsInto, ht] using hl
  | some t =>
    have ends : ∀ e ∈ s.flowsInto g i, e.source ∈ h.labels ∧ e.dest = some t := by
      intro e he
      obtain ⟨u, -, hu, hd, -, -, hv⟩ := mem_flowsInto.mp he
      rw [ht] at hu
      cases hu
      exact ⟨known _ ((r.wellFormed.mem_valueSet _).mp hv), hd⟩
    rw [labels_foldl_addFlow _ h ends]
    cases absent : g.isAbsent t with
    | false =>
      have hv : t ∈ s.values := r.justified.targets i hi t ⟨ht, absent⟩
      simpa [LabelGraph.addNode_of_mem (known t hv), absent] using hl
    | true =>
      obtain ⟨e, he, -⟩ := r.exists_mem_flowsInto present mirrored hi ht absent
      rw [if_neg (List.ne_nil_of_mem he),
        LabelGraph.labels_addNode_eraseDups s.values hl (present.not_mem absent)]
      simp [absent]

/-- The flows of marked instructions add their targets that are no values. -/
theorem AtRest.labels_flatMap_flowsInto (r : AtRest g s) (present : ValuesPresent g s)
    (mirrored : g.Mirrored) :
    ∀ (is : List I) {h : LabelGraph V} {seen : List V}, (∀ i ∈ is, i ∈ s.instrs) →
      h.labels = s.values ++ seen.eraseDups →
      ((is.flatMap (s.flowsInto g)).foldl addFlow h).labels =
        s.values ++ (seen ++ (is.filterMap g.taints?).filter g.isAbsent).eraseDups := by
  intro is
  induction is with
  | nil => intro h seen _ hl; simpa using hl
  | cons i rest ih =>
    intro h seen his hl
    have step := r.labels_flowsInto present mirrored (his i List.mem_cons_self) hl
    have hcons : (i :: rest).filterMap g.taints? =
        (g.taints? i).toList ++ rest.filterMap g.taints? := by
      cases ht : g.taints? i <;> simp [ht]
    rw [List.flatMap_cons, List.foldl_append, hcons, List.filter_append, ← List.append_assoc]
    exact ih (fun j hj => his j (List.mem_cons_of_mem i hj)) step

/-- The nodes of the flow graph are the tainted values and, after them, the
targets of marked instructions that are no values. -/
theorem AtRest.labels_flowGraph (r : AtRest g s) (present : ValuesPresent g s)
    (mirrored : g.Mirrored) :
    (s.flowGraph g).labels =
      s.values ++ ((s.instrs.filterMap g.taints?).filter g.isAbsent).eraseDups := by
  have start : (⟨s.values, []⟩ : LabelGraph V).labels =
      s.values ++ ([] : List V).eraseDups := by
    simp
  rw [r.wellFormed.flowGraph_eq_foldl]
  exact r.labels_flatMap_flowsInto present mirrored s.instrs (fun _ hi => hi) start

/-! ## §5 Runs -/

variable [DecidableEq I]

/-- A run is made of moves. -/
theorem moves_run (calls : List (EngineCall V)) :
    ReflTransGen (Move g) empty ((empty : Store V I).run g calls) :=
  run_induction (P := fun s => ReflTransGen (Move g) empty s)
    (fun _ c h m => m.trans (perform_moves h c)) calls empty wellFormed_empty ReflTransGen.refl

/-- After any calls, what is tainted is a value. -/
theorem valuesPresent_run (calls : List (EngineCall V)) :
    ValuesPresent g ((empty : Store V I).run g calls) :=
  valuesPresent_of_moves (moves_run calls) fun _ hv => absurd hv List.not_mem_nil

theorem explained_run (calls : List (EngineCall V)) :
    Explained g ((empty : Store V I).run g calls) :=
  explained_of_moves (moves_run calls) wellFormed_empty explained_empty

/-- Every edge leads from a use of its source to the target of the
instruction. -/
theorem recorded_run (calls : List (EngineCall V)) :
    ∀ e ∈ ((empty : Store V I).run g calls).edges,
      e.dest = g.taints? e.instr ∧ e.instr ∈ g.users e.source :=
  forall_edges_of_moves (moves_run calls) (fun _ _ use _ => ⟨rfl, use⟩)
    fun _ he => absurd he List.not_mem_nil

end Store

end ArgTaint
