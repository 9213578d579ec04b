/-
ArgTaint.Proofs.Workshop — engines on functions that grow side by side.

The engine reads users, and what explains a mark is an operand. The graph may
grow between two calls to the engine, and calls that build it may fail; still
a user of a value has it as operand, and keeps it and its own kind.

  §1 One function — a workshop of one function is a workbench.
  §2 Traced       — what every call keeps.
  §3 Provenance   — why a value is tainted, after any calls.
-/
import ArgTaint.Workshop
import ArgTaint.Proofs.Build.Growth
import ArgTaint.Proofs.Engine.Provenance

namespace ArgTaint.Workshop

open Relation (ReflTransGen)

/-! ## §1 One function -/

/-- The call to a workshop whose first function is the one of a workbench. -/
def Call.ofFirst : Workbench.Call → Call
  | .build c => .build (.ofFirst c)
  | .engine c => .engine c

/-- Building and analysing the first function gives the store of a workbench. -/
theorem store_run_ofFirst (name : String) :
    ∀ (calls : List Workbench.Call) (w : Workshop) (b : Workbench), w.assembly.functions ≠ [] →
      w.assembly.graph = b.build.rename name → w.store = b.store →
      (w.run (calls.map .ofFirst)).store = (b.run calls).store := by
  intro calls
  induction calls with
  | nil => intro w b _ _ hs; exact hs
  | cons c rest ih =>
    intro w b hne hg hs
    cases c with
    | build c =>
      obtain ⟨hgraph, hf⟩ := Assembly.perform_ofFirst hne c
      rw [hg, Build.perform_rename] at hgraph
      exact ih (w.perform (.build (.ofFirst c))) (b.perform (.build c)) hf hgraph hs
    | engine c =>
      -- the engine does not look at the name of a function
      have hview : w.assembly.graph.view = b.build.view := by rw [hg]; rfl
      refine ih (w.perform (.engine c)) (b.perform (.engine c)) hne hg ?_
      simp only [perform, Workbench.perform, hview, hs]

/-- A workshop of one function has the store of a workbench. -/
theorem store_run_single (name : String) (params : List String) (calls : List Workbench.Call) :
    (empty.run (.build (.newFunction name params) :: calls.map .ofFirst)).store =
      ((Workbench.new name params).run calls).store :=
  store_run_ofFirst "" calls (empty.perform (.build (.newFunction name params)))
    (Workbench.new name params) (List.cons_ne_nil _ _) rfl rfl

/-! ## §2 Traced -/

/-- The graph and the store are well formed, the store explains what is
tainted, and its edges start at operands of propagating instructions. -/
structure Traced (w : Workshop) : Prop where
  assembly : w.assembly.WellFormed
  store : w.store.WellFormed
  explained : Store.Explained w.assembly.graph.view w.store
  used : ∀ e ∈ w.store.edges, e.source ∈ w.assembly.graph.view.operands e.instr ∧
    w.assembly.graph.view.Propagates e.instr

theorem traced_empty : empty.Traced where
  assembly := Assembly.wellFormed_empty
  store := Store.wellFormed_empty
  explained := Store.explained_empty
  used _ he := absurd he List.not_mem_nil

variable {w : Workshop}

/-- Building keeps operands and kinds, so that edges stay explanations. -/
theorem Traced.build (h : w.Traced) (c : Assembly.Call) : (w.perform (.build c)).Traced where
  assembly := h.assembly.perform c
  store := h.store
  -- what stands for no value does not depend on the graph
  explained := ⟨h.explained.source_mem, h.explained.dest_mem, h.explained.explains,
    h.explained.ordered⟩
  used e he := by
    obtain ⟨hop, hp⟩ := h.used e he
    obtain ⟨hop', hkind⟩ := (w.assembly.grows_perform c).mem_operands hop
    refine ⟨hop', ?_⟩
    rw [UseDef.Propagates] at hp ⊢
    rw [← hkind] at hp
    exact hp

/-- A call to the engine keeps all traced. -/
theorem Traced.engine (h : w.Traced) (c : EngineCall Build.Value) :
    (w.perform (.engine c)).Traced where
  assembly := h.assembly
  store := h.store.perform c
  explained := Store.explained_of_moves (Store.perform_moves h.store c) h.store h.explained
  used := by
    refine Store.forall_edges_of_moves (Store.perform_moves h.store c) ?_ h.used
    intro v i hi hp
    exact ⟨(h.assembly.consistent.recorded.mem_users_iff.mp hi).2, hp⟩

/-- Whatever calls are made, all is traced. -/
theorem Traced.run : ∀ (calls : List Call) {w : Workshop}, w.Traced → (w.run calls).Traced := by
  intro calls
  induction calls with
  | nil => intro w h; exact h
  | cons c rest ih =>
    intro w h
    cases c with
    | build c => exact ih (h.build c)
    | engine c => exact ih (h.engine c)

/-! ## §3 Provenance -/

/-- **Taint can be traced back to seeds**, after any calls to an engine and any
calls that build functions in between, failed ones included. An edge leads
from a tainted operand of a propagating instruction to a tainted value, or to
none. A tainted value that is no seed has an edge from a value that was
tainted before it, and the edges stand in the order in which their sources
were tainted. Hence no walk back along such edges goes on for ever, and where
one cannot be continued it has arrived at a seed. -/
theorem taint_provenance (calls : List Call) :
    let w := empty.run calls
    let s := w.store
    let g := w.assembly.graph.view
    (∀ e ∈ s.edges, s.isTainted e.source = true ∧ e.source ∈ g.operands e.instr ∧
      g.Propagates e.instr ∧
      ∀ v, e.dest = some v → g.isAbsent v = false → s.isTainted v = true) ∧
    (∀ v, s.isTainted v = true → v ∉ s.seeds →
      ∃ e ∈ s.edges, e.dest = some v ∧ s.position e.source < s.position v) ∧
    (s.edges.Pairwise fun e f => s.position e.source ≤ s.position f.source) ∧
    WellFounded s.Explains ∧
    ∀ v, s.isTainted v = true →
      (∃ u ∈ s.seeds, ReflTransGen s.Explains u v) ∧
      ∀ u, ReflTransGen s.Explains u v → (∀ w, ¬ s.Explains w u) → u ∈ s.seeds := by
  intro w s g
  have h : w.Traced := traced_empty.run calls
  have x := h.explained
  have tainted : ∀ v, s.isTainted v = true ↔ v ∈ s.values := Store.isTainted_iff h.store
  simp only [tainted]
  refine ⟨fun e he => ?_, fun v hv hs => ?_, x.ordered, s.wellFounded_explains, fun v hv => ?_⟩
  · obtain ⟨hop, hp⟩ := h.used e he
    exact ⟨x.source_mem_values he, hop, hp, x.dest_mem e he⟩
  · obtain ⟨-, e, he, rfl, hd, hlt⟩ := x.explains v hv hs
    exact ⟨e, he, hd, hlt⟩
  · exact ⟨x.exists_seed hv, fun u walk stuck => x.mem_seeds_of_walk hv walk stuck⟩

end ArgTaint.Workshop
