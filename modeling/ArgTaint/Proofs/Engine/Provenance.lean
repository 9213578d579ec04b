/-
ArgTaint.Proofs.Engine.Provenance — why a value is tainted.

A store keeps one edge per marked instruction. An edge is recorded while its
source is the value that was popped last, and values are popped in the order
in which they were tainted; so the edges stand in the order of their sources,
and the edge that taints a value comes from a value that was tainted before.
Following edges back, one arrives at a seed.

  §1 Positions — where values stand among the tainted ones.
  §2 Edges     — what holds of every edge when it is recorded.
  §3 Explained — the invariant, kept by every move.
  §4 Walks     — following edges back.
-/
import ArgTaint.Proofs.Engine.Moves

namespace ArgTaint.Store

open Relation (ReflTransGen)

variable {V I : Type} {g : UseDef V I} {s t : Store V I}

/-! ## §1 Positions -/

section Positions

variable [DecidableEq V]

def position (s : Store V I) (v : V) : Nat := s.values.idxOf v

/-- Later moves leave the positions of tainted values alone. -/
theorem position_of_extends (h : s.Extends t) {v : V} (hv : v ∈ s.values) :
    t.position v = s.position v := by
  obtain ⟨rest, hrest⟩ := h.values
  rw [position, ← hrest, List.idxOf_append_of_mem hv, position]

/-- A value that is tainted now stands behind all the others. -/
theorem position_lt_withValue {u v : V} (hu : u ∈ s.values) (hv : v ∉ s.values) :
    (s.withValue v).position u < (s.withValue v).position v := by
  have hlast : (s.withValue v).position v = s.values.length := by
    simp [position, withValue, List.idxOf_append_of_notMem hv]
  rw [position_of_extends (extends_withValue s v) hu, hlast]
  exact List.idxOf_lt_length_of_mem hu

/-- The value that was popped last stands behind all that were popped. -/
theorem position_le_of_getLast? (h : s.WellFormed) {u v : V}
    (last : s.visited.getLast? = some v)
    (hu : u ∈ s.visited) : s.position u ≤ s.position v := by
  obtain ⟨front, hfront⟩ := List.getLast?_eq_some_iff.mp last
  have hvalues : front ++ v :: s.pending = s.values := by
    rw [← visited_append_pending h, hfront, List.append_assoc, List.singleton_append]
  have fresh : v ∉ front := by
    have hd := h.values_nodup
    rw [← hvalues] at hd
    exact fun hm => (List.nodup_append.mp hd).2.2 v hm v List.mem_cons_self rfl
  have hv : s.position v = front.length := by
    rw [position, ← hvalues, List.idxOf_append_of_notMem fresh, List.idxOf_cons_self,
      Nat.add_zero]
  rw [hfront] at hu
  rcases List.mem_append.mp hu with hu | hu
  · rw [hv, position, ← hvalues, List.idxOf_append_of_mem hu]
    exact Nat.le_of_lt (List.idxOf_lt_length_of_mem hu)
  · rw [List.mem_singleton.mp hu]

end Positions

/-! ## §2 Edges -/

/-- What holds of every edge that can be recorded holds of all the edges after
a move. -/
theorem Move.forall_edges {R : Edge V I → Prop} (m : Move g s t)
    (new : ∀ v, ∀ i ∈ g.users v, g.Propagates i → R ⟨v, i, g.taints? i⟩)
    (h : ∀ e ∈ s.edges, R e) : ∀ e ∈ t.edges, R e := by
  intro e he
  cases m with
  | seed _ _ => exact h e he
  | pop popped =>
    rw [(pop?_eq_some popped).2.2.2] at he
    exact h e he
  | mark _ use propagates _ _ =>
    rcases List.mem_append.mp he with he | he
    · exact h e he
    · rw [List.mem_singleton.mp he]
      exact new _ _ use propagates
  | spread _ use propagates _ _ _ _ =>
    rcases List.mem_append.mp he with he | he
    · exact h e he
    · rw [List.mem_singleton.mp he]
      exact new _ _ use propagates

/-- What every new edge has, all edges have. -/
theorem forall_edges_of_moves {R : Edge V I → Prop} (m : ReflTransGen (Move g) s t)
    (new : ∀ v, ∀ i ∈ g.users v, g.Propagates i → R ⟨v, i, g.taints? i⟩)
    (h : ∀ e ∈ s.edges, R e) : ∀ e ∈ t.edges, R e := by
  induction m with
  | refl => exact h
  | tail _ m ih => exact m.forall_edges new ih

/-! ## §3 Explained -/

variable [DecidableEq V]

/-- An edge leads from `u` to `v`, and `u` was tainted before `v`. -/
def Explains (s : Store V I) (u v : V) : Prop :=
  ∃ e ∈ s.edges, e.source = u ∧ e.dest = some v ∧ s.position u < s.position v

/-- Edges start at popped values, lead to tainted ones, and stand in the order
of their sources; a tainted value that is no seed is explained by one. -/
structure Explained (g : UseDef V I) (s : Store V I) : Prop where
  source_mem : ∀ e ∈ s.edges, e.source ∈ s.visited
  dest_mem : ∀ e ∈ s.edges, ∀ v, e.dest = some v → g.isAbsent v = false → v ∈ s.values
  explains : ∀ v ∈ s.values, v ∉ s.seeds → ∃ u, s.Explains u v
  ordered : s.edges.Pairwise fun e f => s.position e.source ≤ s.position f.source

theorem explained_empty : Explained g (empty : Store V I) where
  source_mem _ he := absurd he List.not_mem_nil
  dest_mem _ he := absurd he List.not_mem_nil
  explains _ hv := absurd hv List.not_mem_nil
  ordered := List.Pairwise.nil

/-- The source of an edge is tainted. -/
theorem Explained.source_mem_values (x : Explained g s) {e : Edge V I} (he : e ∈ s.edges) :
    e.source ∈ s.values :=
  mem_values_of_mem_visited (x.source_mem e he)

/-- An explanation stays one: positions do not change. -/
theorem Explained.explains_of_extends (x : Explained g s) (h : s.Extends t) {v : V}
    (hv : v ∈ s.values) (hs : v ∉ s.seeds) : ∃ u, t.Explains u v := by
  obtain ⟨u, e, he, rfl, hd, hlt⟩ := x.explains v hv hs
  refine ⟨e.source, e, h.edges.subset he, rfl, hd, ?_⟩
  rw [position_of_extends h (x.source_mem_values he), position_of_extends h hv]
  exact hlt

/-- The order of edges by their sources stays as the store grows. -/
theorem Explained.ordered_of_extends (x : Explained g s) (h : s.Extends t) :
    s.edges.Pairwise fun e f => t.position e.source ≤ t.position f.source := by
  refine x.ordered.imp_of_mem fun {e f} he hf hle => ?_
  rw [position_of_extends h (x.source_mem_values he),
    position_of_extends h (x.source_mem_values hf)]
  exact hle

theorem Explained.seed (x : Explained g s) (h : s.WellFormed) (v : V) :
    Explained g ((s.withValue v).withSeed v) := by
  have later : s.Extends ((s.withValue v).withSeed v) :=
    (extends_withValue s v).trans (extends_withSeed _ v)
  refine ⟨fun e he => ?_, fun e he w hd ha => ?_, fun w hw hs => ?_, x.ordered_of_extends later⟩
  · have hv : ((s.withValue v).withSeed v).visited = s.visited := visited_withValue h v
    rw [hv]
    exact x.source_mem e he
  · exact later.values.subset (x.dest_mem e he w hd ha)
  · have hne : w ≠ v := fun he => hs (List.mem_append_right _ (List.mem_singleton.mpr he))
    have hold : w ∈ s.values :=
      (List.mem_append.mp hw).resolve_right fun hm => hne (List.mem_singleton.mp hm)
    exact x.explains_of_extends later hold fun hm => hs (List.mem_append_left _ hm)

theorem Explained.pop? {v : V} (x : Explained g s) (h : s.WellFormed)
    (hp : s.pop? = some (v, t)) : Explained g t := by
  have hv := visited_pop? h hp
  have ht := (pop?_eq_some hp).2.2.2
  have hedges : t.edges = s.edges := by rw [ht]
  have hvalues : t.values = s.values := by rw [ht]
  have hseeds : t.seeds = s.seeds := by rw [ht]
  have later := extends_pop? hp
  refine ⟨fun e he => ?_, fun e he w hd ha => ?_, fun w hw hs => ?_, ?_⟩
  · rw [hedges] at he
    rw [hv]
    exact List.mem_append_left _ (x.source_mem e he)
  · rw [hedges] at he
    rw [hvalues]
    exact x.dest_mem e he w hd ha
  · rw [hvalues] at hw
    rw [hseeds] at hs
    exact x.explains_of_extends later hw hs
  · rw [hedges]
    exact x.ordered_of_extends later

/-- A new edge from the value that was popped last comes last. -/
theorem Explained.ordered_concat (x : Explained g s) (h : s.WellFormed) (later : s.Extends t)
    {e : Edge V I} (last : s.visited.getLast? = some e.source) :
    (s.edges ++ [e]).Pairwise fun e f => t.position e.source ≤ t.position f.source := by
  have hv : e.source ∈ s.visited := List.mem_of_getLast? last
  refine List.pairwise_append.mpr ⟨x.ordered_of_extends later, List.pairwise_singleton _ _, ?_⟩
  intro f hf e' he'
  rw [List.mem_singleton.mp he', position_of_extends later (x.source_mem_values hf),
    position_of_extends later (mem_values_of_mem_visited hv)]
  exact position_le_of_getLast? h last (x.source_mem f hf)

/-- An edge to a known target keeps all explained. -/
theorem Explained.mark {v : V} {i : I} (x : Explained g s) (h : s.WellFormed)
    (last : s.visited.getLast? = some v) (known : TargetKnown g s i) :
    Explained g (s.withEdge ⟨v, i, g.taints? i⟩) := by
  have later := extends_withEdge s ⟨v, i, g.taints? i⟩
  refine ⟨fun e he => ?_, fun e he w hd ha => ?_, fun w hw hs => ?_,
    x.ordered_concat h later last⟩
  · rcases List.mem_append.mp he with he | he
    · exact x.source_mem e he
    · rw [List.mem_singleton.mp he]
      exact List.mem_of_getLast? last
  · rcases List.mem_append.mp he with he | he
    · exact x.dest_mem e he w hd ha
    · rw [List.mem_singleton.mp he] at hd
      exact (h.mem_valueSet w).mp (known w hd ha)
  · exact x.explains_of_extends later hw hs

/-- A new value is explained by its edge. -/
theorem Explained.spread {v w : V} {i : I} (x : Explained g s) (h : s.WellFormed)
    (last : s.visited.getLast? = some v) (fresh : i ∉ s.instrSet)
    (target : g.taints? i = some w) (new : w ∉ s.valueSet) :
    Explained g ((s.withEdge ⟨v, i, g.taints? i⟩).withValue w) := by
  have hmarked : (s.withEdge ⟨v, i, g.taints? i⟩).WellFormed := h.withEdge fresh
  have later : s.Extends ((s.withEdge ⟨v, i, g.taints? i⟩).withValue w) :=
    (extends_withEdge s _).trans (extends_withValue _ w)
  have hv : v ∈ s.values := mem_values_of_mem_visited (List.mem_of_getLast? last)
  have hw : w ∉ s.values := fun hm => new ((h.mem_valueSet w).mpr hm)
  refine ⟨fun e he => ?_, fun e he u hd ha => ?_, fun u hu hs => ?_,
    x.ordered_concat h later last⟩
  · rw [visited_withValue hmarked, visited_withEdge]
    rcases List.mem_append.mp he with he | he
    · exact x.source_mem e he
    · rw [List.mem_singleton.mp he]
      exact List.mem_of_getLast? last
  · rcases List.mem_append.mp he with he | he
    · exact later.values.subset (x.dest_mem e he u hd ha)
    · rw [List.mem_singleton.mp he, target] at hd
      rw [← Option.some.inj hd]
      exact List.mem_append_right _ List.mem_cons_self
  · rcases List.mem_append.mp hu with hu | hu
    · exact x.explains_of_extends later hu hs
    · -- the new value is explained by the new edge
      rw [List.mem_singleton.mp hu]
      exact ⟨v, ⟨v, i, g.taints? i⟩, List.mem_append_right _ List.mem_cons_self, rfl, target,
        position_lt_withValue (s := s.withEdge ⟨v, i, g.taints? i⟩) hv hw⟩

/-- Every move keeps a store explained. -/
theorem Move.explained (m : Move g s t) (h : s.WellFormed) (x : Explained g s) :
    Explained g t := by
  cases m with
  | seed _ _ => exact x.seed h _
  | pop popped => exact x.pop? h popped
  | mark last _ _ _ known => exact x.mark h last known
  | spread last _ _ fresh target _ new => exact x.spread h last fresh target new

/-- Whatever moves are made, the edges explain what is tainted. -/
theorem explained_of_moves (m : ReflTransGen (Move g) s t) (h : s.WellFormed)
    (x : Explained g s) : Explained g t := by
  induction m with
  | refl => exact x
  | tail hm m ih => exact m.explained (wellFormed_of_moves h hm) ih

/-! ## §4 Walks -/

/-- Explanations do not go round in circles, nor back for ever. -/
theorem wellFounded_explains (s : Store V I) : WellFounded s.Explains :=
  Subrelation.wf (fun ⟨_, _, _, _, hlt⟩ => hlt) (InvImage.wf s.position Nat.lt_wfRel.wf)

/-- Going back from a tainted value leads to tainted values only. -/
theorem Explained.mem_values_of_walk (x : Explained g s) {u v : V} (hv : v ∈ s.values)
    (walk : ReflTransGen s.Explains u v) : u ∈ s.values := by
  induction walk using ReflTransGen.head_induction_on with
  | refl => exact hv
  | head step _ _ =>
    obtain ⟨e, he, rfl, -⟩ := step
    exact x.source_mem_values he

/-- Going back stops at seeds only. -/
theorem Explained.mem_seeds_of_walk (x : Explained g s) {u v : V} (hv : v ∈ s.values)
    (walk : ReflTransGen s.Explains u v) (stuck : ∀ w, ¬ s.Explains w u) : u ∈ s.seeds := by
  by_contra hs
  obtain ⟨w, hw⟩ := x.explains u (x.mem_values_of_walk hv walk) hs
  exact stuck w hw

/-- A walk back from a tainted value can be continued to a seed. -/
theorem Explained.exists_seed (x : Explained g s) {v : V} (hv : v ∈ s.values) :
    ∃ u ∈ s.seeds, ReflTransGen s.Explains u v := by
  induction v using (wellFounded_explains s).induction with
  | _ v ih =>
    by_cases hs : v ∈ s.seeds
    · exact ⟨v, hs, ReflTransGen.refl⟩
    · obtain ⟨w, hw⟩ := x.explains v hv hs
      obtain ⟨u, hu, walk⟩ := ih w hw (x.mem_values_of_walk hv (ReflTransGen.single hw))
      exact ⟨u, hu, walk.tail hw⟩

end ArgTaint.Store
