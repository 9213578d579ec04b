/-
ArgTaint.Proofs.Assembly.Flows — the flows of an engine on functions that were
built call by call.

The engine finds marked instructions through the users of tainted values, while
flows are read off operands. The two agree because uses mirror operands. A call
that failed may have left operands behind that are no values; an instruction
may have one as target, and then flows lead to what is not tainted.

  §1 Views    — uses mirror operands, after any calls.
  §2 Complete — the flows when no call failed.
  §3 Cycles   — the values that flow into one another.
  §4 Ends     — the ends of flows, whatever calls failed.
-/
import ArgTaint.Proofs.Assembly.Construction
import ArgTaint.Proofs.Engine.Flows

namespace ArgTaint

open Relation (TransGen)

/-! ## §1 Views -/

namespace Build

variable {b : Build}

/-- Recorded uses mirror the operands that are values. -/
theorem Recorded.mirrored (h : b.Recorded) : b.view.Mirrored := by
  intro v hv i
  have hused : i ∈ b.view.users v ↔ v.isAbsent = false ∧ v ∈ b.view.operands i :=
    h.mem_users_iff
  rw [hused]
  exact and_iff_right hv

/-- What has operands was made. -/
theorem lt_of_mem_operands {i : Nat} {v : Value} (hv : v ∈ b.view.operands i) :
    i < b.instrs.length := by
  by_contra hi
  simp only [view, List.getElem?_eq_none (Nat.le_of_not_lt hi), Option.map_none,
    Option.getD_none] at hv
  exact absurd hv List.not_mem_nil

end Build

namespace Assembly

/-! ## §2 Complete -/

/-- **The flows are the tainted operands of propagating instructions.** When no
call failed in building functions and an engine on them has nothing pending, a
flow leads from `u` through `i` to `t` exactly when `i` is an instruction of
one of the functions whose kind propagates, `t` is its target, and `u` is one
of its operands, is tainted and is not `t`. Each flow is listed once, by the
order in which instructions were marked and in which operands occur first; and
an edge of the engine that leads to another value than its source is a flow. -/
theorem flows_eq_tainted_operands (build : List Call) (a : Assembly)
    (calls : List (EngineCall Build.Value)) (built : empty.construct build = .ok a)
    (idle : ((Store.empty : Store Build.Value Nat).run a.graph.view calls).pendingCount = 0) :
    let g := a.graph.view
    let s := (Store.empty : Store Build.Value Nat).run g calls
    (∀ u i t, ⟨u, i, some t⟩ ∈ s.flows g ↔
      (∃ f ∈ a.functions, i ∈ a.instrsOf f) ∧ g.Propagates i ∧ g.Targets i t ∧
        u ∈ g.operands i ∧ s.isTainted u = true ∧ u ≠ t) ∧
    (∀ e ∈ s.flows g, e.dest ≠ none) ∧
    (s.flows g).Nodup ∧ (s.flows g).Pairwise (s.Precedes g) ∧
    ∀ e ∈ s.edges, ∀ t, e.dest = some t → e.source ≠ t → e ∈ s.flows g := by
  intro g s
  have r : Store.AtRest g s := Store.atRest_run idle
  have wellFormed := wellFormed_of_construct built
  have mirrored : g.Mirrored := wellFormed.consistent.recorded.mirrored
  have present : Store.ValuesPresent g s := Store.valuesPresent_run calls
  have targets : g.TargetsPresent := (hasOperands_of_construct built).targetsPresent
  refine ⟨fun u i t => ?_, fun e he hn => ?_, Store.nodup_flows r.wellFormed,
    Store.flows_pairwise r.wellFormed, fun e he t hd hne => ?_⟩
  · rw [r.mem_flows_iff present mirrored, Store.isTainted_iff r.wellFormed]
    constructor
    · rintro ⟨t', hp, ht, ⟨⟩, hop, hv, hne⟩
      have hplaced := settled_of_construct built i (Build.lt_of_mem_operands hop)
      exact ⟨wellFormed.exists_mem_instrsOf hplaced, hp, ⟨ht, targets i t ht⟩, hop, hv, hne⟩
    · rintro ⟨-, hp, ht, hop, hv, hne⟩
      exact ⟨t, hp, ht.1, rfl, hop, hv, hne⟩
  · obtain ⟨t, -, -, hd, -⟩ := Store.mem_flows.mp he
    rw [hd] at hn
    cases hn
  · exact r.mem_flows_of_mem_edges present mirrored (Store.explained_run calls)
      (Store.recorded_run calls) he hd hne

/-- Two functions that use values of one another, with operands that are
repeated and one that closes a loop after the fact. -/
def entangled : List Call :=
  [.newFunction "f" ["x", "p"], .newFunction "g" ["y"], .newBlock 0, .newBlock 1,
    .emit 0 .binaryOp "a" [some (.param 0), some (.param 0)],
    .emit 1 .binaryOp "b" [some (.instr 0), some (.param 0), some (.instr 0), some (.param 2)],
    .addOperand 0 (some (.instr 1)),
    .emitVoid 0 .store [some (.instr 1), some (.param 1)]]

theorem flows_eq_tainted_operands_entangled :
    let a := empty.run entangled
    let g := a.graph.view
    let s := (Store.empty : Store Build.Value Nat).run g [.seed (some (.param 0)), .propagate]
    empty.construct entangled = .ok a ∧ s.pendingCount = 0 ∧
      ⟨.instr 1, 0, some (.instr 0)⟩ ∈ s.flows g ∧ ⟨.param 2, 1, some (.instr 1)⟩ ∉ s.flows g ∧
      (s.flows g).Nodup := by
  intro a g s
  have built : empty.construct entangled = .ok a := rfl
  have idle : s.pendingCount = 0 := by decide
  obtain ⟨listed, -, nodup, -⟩ := flows_eq_tainted_operands entangled a _ built idle
  refine ⟨built, idle, (listed _ _ _).mpr ?_, fun h => ?_, nodup⟩
  · exact ⟨by decide, by decide, ⟨by decide, by decide⟩, by decide, by decide, by decide⟩
  · exact absurd ((listed _ _ _).mp h).2.2.2.2.1 (by decide)

/-! ## §3 Cycles -/

/-- **Cycles are the classes of mutual influence.** When no call failed in
building functions and an engine on them has nothing pending, the cycles are
disjoint lists of tainted values without repetition. A value is in one exactly
when some other value and it flow into each other, two values are in the same
one exactly when they flow into each other, and both the values of a cycle and
the cycles, by their first values, stand in the order of tainting. -/
theorem flowCycles_eq_classes (build : List Call) (a : Assembly)
    (calls : List (EngineCall Build.Value)) (built : empty.construct build = .ok a)
    (idle : ((Store.empty : Store Build.Value Nat).run a.graph.view calls).pendingCount = 0) :
    let g := a.graph.view
    let s := (Store.empty : Store Build.Value Nat).run g calls
    let cycles := s.flowCycles g
    (∀ c ∈ cycles, c.Nodup ∧ 2 ≤ c.length ∧ c.Sublist s.values ∧
      ∀ v ∈ c, s.isTainted v = true) ∧
    cycles.Pairwise List.Disjoint ∧
    (∀ v, s.isTainted v = true →
      ((∃ c ∈ cycles, v ∈ c) ↔
        ∃ w, w ≠ v ∧ TransGen (s.FlowsTo g) v w ∧ TransGen (s.FlowsTo g) w v)) ∧
    (∀ u v, (∃ c ∈ cycles, u ∈ c ∧ v ∈ c) ↔
      TransGen (s.FlowsTo g) u v ∧ TransGen (s.FlowsTo g) v u) ∧
    cycles.Pairwise fun c d =>
      ∀ u ∈ c.head?, ∀ v ∈ d.head?, s.values.idxOf u < s.values.idxOf v := by
  intro g s cycles
  have r : Store.AtRest g s := Store.atRest_run idle
  have present : g.TargetsPresent := (hasOperands_of_construct built).targetsPresent
  refine ⟨fun c hc => ?_, r.flowCycles_disjoint present, fun v _ => ?_, fun u v => ?_,
    r.flowCycles_pairwise_head present⟩
  · have hsub := r.sublist_values present hc
    refine ⟨hsub.nodup r.wellFormed.values_nodup, r.two_le_length_of_mem_flowCycles present hc,
      hsub, fun v hv => ?_⟩
    exact (Store.isTainted_iff r.wellFormed v).mpr (hsub.subset hv)
  · exact r.exists_flowCycle_iff_exists_ne present
  · exact r.exists_flowCycle_iff present

/-- Two locations, each of which is loaded and stored back: the first within one
function, the second by an instruction of each of two functions. -/
def twoLoops : List Call :=
  [.newFunction "f" ["x", "p"], .newFunction "g" ["q"], .newBlock 0, .newBlock 1,
    .emitVoid 0 .store [some (.param 0), some (.param 1)],
    .emitVoid 1 .store [some (.param 0), some (.param 2)],
    .emit 0 .load "t" [some (.param 1)],
    .emitVoid 0 .store [some (.instr 2), some (.param 1)],
    .emit 0 .load "u" [some (.param 2)],
    .emitVoid 1 .store [some (.instr 4), some (.param 2)]]

theorem flowCycles_eq_classes_twoLoops :
    let a := empty.run twoLoops
    let g := a.graph.view
    let s := (Store.empty : Store Build.Value Nat).run g [.seed (some (.param 0)), .propagate]
    empty.construct twoLoops = .ok a ∧ s.pendingCount = 0 ∧
      (TransGen (s.FlowsTo g) (.param 2) (.instr 4) ∧
        TransGen (s.FlowsTo g) (.instr 4) (.param 2)) ∧
      ¬(TransGen (s.FlowsTo g) (.param 1) (.param 2) ∧
        TransGen (s.FlowsTo g) (.param 2) (.param 1)) := by
  intro a g s
  have built : empty.construct twoLoops = .ok a := rfl
  have idle : s.pendingCount = 0 := by decide
  have classes := (flowCycles_eq_classes twoLoops a _ built idle).2.2.2.1
  have cycles : s.flowCycles g = [[.param 1, .instr 2], [.param 2, .instr 4]] := by decide
  refine ⟨built, idle, (classes _ _).mp ?_, fun h => ?_⟩
  · rw [cycles]
    decide
  · have hm := (classes _ _).mpr h
    rw [cycles] at hm
    exact absurd hm (by decide)

/-! ## §4 Ends -/

/-- **Flows lead to tainted values or to what is no value.** Whatever calls
built the functions, and whichever of them failed, the source of a flow is
tainted at rest, and its target is tainted exactly when it is a value. So all
the targets are tainted exactly when each target of a marked instruction is a
value. The nodes of the flow graph are the tainted values and, after them, the
targets of marked instructions that are no values, each where an instruction
with this target was marked first. When no call failed there are none. -/
theorem flow_ends_tainted_or_absent (build : List Call) (calls : List (EngineCall Build.Value))
    (idle : ((Store.empty : Store Build.Value Nat).run (empty.run build).graph.view
      calls).pendingCount = 0) :
    let g := (empty.run build).graph.view
    let s := (Store.empty : Store Build.Value Nat).run g calls
    (∀ e ∈ s.flows g, e.source ∈ s.values ∧
      ∃ t, e.dest = some t ∧ (t ∈ s.values ↔ t.isAbsent = false)) ∧
    ((∀ e ∈ s.flows g, ∀ t, e.dest = some t → t ∈ s.values) ↔
      ∀ i ∈ s.instrs, ∀ t, g.taints? i = some t → t.isAbsent = false) ∧
    (s.flowGraph g).labels =
      s.values ++ ((s.instrs.filterMap g.taints?).filter Build.Value.isAbsent).eraseDups ∧
    (empty.construct build = .ok (empty.run build) → (s.flowGraph g).labels = s.values) := by
  intro g s
  have r : Store.AtRest g s := Store.atRest_run idle
  have mirrored : g.Mirrored := (wellFormed_empty.run build).consistent.recorded.mirrored
  have present : Store.ValuesPresent g s := Store.valuesPresent_run calls
  have labels := r.labels_flowGraph present mirrored
  refine ⟨fun e he => r.ends_of_mem_flows present he, r.targets_mem_values_iff present mirrored,
    labels, fun built => ?_⟩
  have targets : g.TargetsPresent := (hasOperands_of_construct built).targetsPresent
  have none : (s.instrs.filterMap g.taints?).filter g.isAbsent = [] := by
    refine List.filter_eq_nil_iff.mpr fun t ht => ?_
    obtain ⟨i, -, hi⟩ := List.mem_filterMap.mp ht
    rw [targets i t hi]
    exact Bool.false_ne_true
  rw [labels, none, List.eraseDups_nil, List.append_nil]

/-- Three stores whose addresses are added afterwards, and do not exist: the calls
that add them fail, and leave them behind. The first and the last address are
missing constants, the second is a missing parameter. -/
def storesToMissing : List Call :=
  [.newFunction "f" ["x"], .newBlock 0, .emitVoid 0 .store [some (.param 0)],
    .emitVoid 0 .store [some (.param 0)], .emitVoid 0 .store [some (.param 0)],
    .addOperand 0 (some (.absent .const)), .addOperand 1 (some (.absent .param)),
    .addOperand 2 (some (.absent .const))]

theorem flow_ends_tainted_or_absent_storesToMissing :
    let g := (empty.run storesToMissing).graph.view
    let s := (Store.empty : Store Build.Value Nat).run g [.seed (some (.param 0)), .propagate]
    s.pendingCount = 0 ∧ s.values = [.param 0] ∧
      (s.flowGraph g).labels = [.param 0, .absent .const, .absent .param] := by
  intro g s
  have idle : s.pendingCount = 0 := by decide
  have values : s.values = [.param 0] := by decide
  have labels := (flow_ends_tainted_or_absent storesToMissing _ idle).2.2.1
  have targets : s.instrs.filterMap g.taints? =
      [.absent .const, .absent .param, .absent .const] := by decide
  refine ⟨idle, values, labels.trans ?_⟩
  rw [targets, values]
  decide

/-- A store whose address is a parameter that does not exist. -/
def storeToMissing : List Call :=
  [.newFunction "f" ["x"], .newBlock 0, .emitVoid 0 .store [some (.param 0)],
    .addOperand 0 (some (.absent .param))]

/-- A flow can end in what is not tainted. -/
theorem not_flow_ends_tainted :
    ¬ ∀ (build : List Call) (calls : List (EngineCall Build.Value)),
      let g := (empty.run build).graph.view
      let s := (Store.empty : Store Build.Value Nat).run g calls
      s.pendingCount = 0 →
        ∀ e ∈ s.flows g, e.source ∈ s.values ∧ ∀ t ∈ e.dest, t ∈ s.values := by
  intro h
  have idle : ((Store.empty : Store Build.Value Nat).run (empty.run storeToMissing).graph.view
      [.seed (some (.param 0)), .propagate]).pendingCount = 0 := by decide
  have tainted :=
    (h storeToMissing _ idle ⟨.param 0, 0, some (.absent .param)⟩ (by decide)).2 _ rfl
  exact absurd tainted (by decide)

end Assembly

end ArgTaint
