/-
ArgTaint.Proofs.Engine.BreadthFirst — values are found in the order of their
distance from the seeds.

The distance of a value is the least number of steps in which taint passes to
it from a seed. Values are popped in the order in which they were tainted, and
a value that is tainted while another is visited is one step further away than
that one: had it been closer, it would be the target of a user of a value that
has been visited before, and be tainted already. So the pending values never
span more than two distances, and the first edge that leads to a value comes
from one that is a step closer to the seeds.

  §1 Distance — walks, and the length of the shortest.
  §2 Layered  — the invariant between two steps, and during one.
  §3 Visits   — what is newly tainted is one step further.
  §4 Steps    — every step keeps the invariant.
  §5 Seeding  — a new engine with its seeds has it.
  §6 Settled  — the order of the values and the edges in the end.
-/
import ArgTaint.Proofs.Engine.Closure
import ArgTaint.Proofs.Engine.Provenance

namespace ArgTaint

open Relation (ReflTransGen)

/-! ## §1 Distance -/

/-- `n` steps lead from a member of `S` to `v`. -/
inductive Walk {α : Type} (r : α → α → Prop) (S : Set α) : Nat → α → Prop where
  | start {v : α} (member : v ∈ S) : Walk r S 0 v
  | next {n : Nat} {u v : α} (walk : Walk r S n u) (step : r u v) : Walk r S (n + 1) v

/-- Walks lead to what can be reached. -/
theorem exists_walk_iff {α : Type} {r : α → α → Prop} {S : Set α} {v : α} :
    (∃ n, Walk r S n v) ↔ ∃ u ∈ S, ReflTransGen r u v := by
  constructor
  · rintro ⟨n, walk⟩
    induction walk with
    | start member => exact ⟨_, member, ReflTransGen.refl⟩
    | next _ step ih =>
      obtain ⟨u, hu, path⟩ := ih
      exact ⟨u, hu, path.tail step⟩
  · rintro ⟨u, hu, path⟩
    induction path with
    | refl => exact ⟨0, .start hu⟩
    | tail _ step ih =>
      obtain ⟨n, walk⟩ := ih
      exact ⟨n + 1, walk.next step⟩

namespace UseDef

variable {V I : Type} {g : UseDef V I} {S : Set V} {n : Nat} {u v : V}

/-- The least number of steps in which taint passes from `S` to `v`; infinite
if it does not. -/
noncomputable def distance (g : UseDef V I) (S : Set V) (v : V) : ℕ∞ :=
  ⨅ (n : ℕ) (_ : Walk g.PassesTo S n v), (n : ℕ∞)

/-- A walk bounds the distance. -/
theorem distance_le (walk : Walk g.PassesTo S n v) : g.distance S v ≤ n := iInf₂_le n walk

theorem distance_of_mem (hv : v ∈ S) : g.distance S v = 0 :=
  le_antisymm (distance_le (.start hv)) zero_le

/-- A shortest walk, when there is a walk. -/
theorem exists_walk_of_distance (h : g.distance S v ≠ ⊤) :
    ∃ n : ℕ, g.distance S v = n ∧ Walk g.PassesTo S n v := by
  have hne : {n | Walk g.PassesTo S n v}.Nonempty := by
    by_contra hempty
    refine h (le_antisymm le_top (le_iInf₂ fun n walk => ?_))
    exact absurd ⟨n, walk⟩ hempty
  refine ⟨sInf {n | Walk g.PassesTo S n v}, ?_, Nat.sInf_mem hne⟩
  refine le_antisymm (distance_le (Nat.sInf_mem hne)) (le_iInf₂ fun n walk => ?_)
  exact Nat.cast_le.mpr (Nat.sInf_le walk)

/-- Distances are finite where taint arrives. -/
theorem distance_ne_top_iff : g.distance S v ≠ ⊤ ↔ ∃ u ∈ S, ReflTransGen g.PassesTo u v := by
  rw [← exists_walk_iff]
  constructor
  · intro h
    obtain ⟨n, -, walk⟩ := exists_walk_of_distance h
    exact ⟨n, walk⟩
  · rintro ⟨n, walk⟩
    exact ne_top_of_le_ne_top (ENat.natCast_ne_top n) (distance_le walk)

/-- A step adds at most one to the distance. -/
theorem distance_le_add_one (step : g.PassesTo u v) : g.distance S v ≤ g.distance S u + 1 := by
  by_cases h : g.distance S u = ⊤
  · rw [h, top_add]
    exact le_top
  · obtain ⟨n, hn, walk⟩ := exists_walk_of_distance h
    rw [hn]
    exact distance_le (walk.next step)

/-- The values of a list that are seeded: those before the first entry that is
none. -/
def accepted (g : UseDef V I) (vs : List (Option V)) : Set V :=
  {v | some v ∈ vs.takeWhile fun u => decide (g.IsPresent u)}

theorem mem_accepted_cons {u : Option V} {rest : List (Option V)} {v : V} :
    v ∈ g.accepted (u :: rest) ↔ g.IsPresent u ∧ (some v = u ∨ v ∈ g.accepted rest) := by
  by_cases hu : g.IsPresent u
  · simp [accepted, hu]
  · simp [accepted, hu]

end UseDef

/-! ## §2 Layered -/

namespace Store

variable {V I : Type} [DecidableEq V] {g : UseDef V I} {S : Set V} {s t : Store V I} {v w : V}
  {front : List V}

def firstEdge? (s : Store V I) (v : V) : Option (Edge V I) :=
  s.edges.find? fun e => e.dest = some v

/-- Values stand in the order of their distance, what is pending spans at most
two distances, and the first edge to a value that is no seed comes from one
that is a step closer. -/
structure Layered (g : UseDef V I) (S : Set V) (s : Store V I) : Prop where
  seeds_mem : ∀ v ∈ S, v ∈ s.values
  ordered : s.values.Pairwise fun u v => g.distance S u ≤ g.distance S v
  narrow : ∀ u ∈ s.pending, ∀ w ∈ s.values, g.distance S w ≤ g.distance S u + 1
  closer : ∀ w ∈ s.values, w ∉ S →
    ∃ e, s.firstEdge? w = some e ∧ g.distance S e.source + 1 = g.distance S w

/-- The same while the users of `v` are visited, which was popped after
`front`: taint has been passed on from there, and nothing is further away than
one step from `v`. -/
structure Expanding (g : UseDef V I) (S : Set V) (front : List V) (v : V) (s : Store V I) : Prop
    extends Layered g S s where
  visited_eq : s.visited = front ++ [v]
  near : ∀ w ∈ s.values, g.distance S w ≤ g.distance S v + 1
  closed : ∀ u ∈ front, ∀ t, g.PassesTo u t → t ∈ s.values

/-! ## §3 Visits -/

/-- A value that is closer than `v` was popped before it. -/
theorem Expanding.mem_front_of_lt (x : Expanding g S front v s) (h : s.WellFormed)
    (hw : w ∈ s.values) (hlt : g.distance S w < g.distance S v) : w ∈ front := by
  have hvalues : front ++ v :: s.pending = s.values := by
    rw [← visited_append_pending h, x.visited_eq, List.append_assoc, List.singleton_append]
  rw [← hvalues] at hw
  rcases List.mem_append.mp hw with hw | hw
  · exact hw
  · have ordered := x.ordered
    rw [← hvalues] at ordered
    have hle : g.distance S v ≤ g.distance S w := by
      rcases List.mem_cons.mp hw with rfl | hw
      · exact le_rfl
      · exact List.rel_of_pairwise_cons (List.pairwise_append.mp ordered).2.1 hw
    exact absurd hlt hle.not_gt

/-- Whatever is closer than `v` has been found. -/
theorem Expanding.mem_front_of_walk (x : Expanding g S front v s) (h : s.WellFormed) {n : Nat}
    (walk : Walk g.PassesTo S n w) (hlt : (n : ℕ∞) < g.distance S v) : w ∈ front := by
  induction walk with
  | start member =>
    exact x.mem_front_of_lt h (x.seeds_mem _ member)
      ((UseDef.distance_le (.start member)).trans_lt hlt)
  | @next n u w walk step ih =>
    have hu : u ∈ front := ih (lt_of_le_of_lt (Nat.cast_le.mpr (Nat.le_succ n)) hlt)
    exact x.mem_front_of_lt h (x.closed u hu w step)
      ((UseDef.distance_le (walk.next step)).trans_lt hlt)

/-- What is found from `v` is one step further than `v`. -/
theorem Expanding.distance_new (x : Expanding g S front v s) (h : s.WellFormed)
    (step : g.PassesTo v w) (new : w ∉ s.values) : g.distance S w = g.distance S v + 1 := by
  refine le_antisymm (UseDef.distance_le_add_one step) (le_iInf₂ fun n walk => ?_)
  -- the last step of a shorter walk would start from a value that was popped before
  by_contra hlt
  cases walk with
  | start member => exact new (x.seeds_mem w member)
  | @next n u _ walk step =>
    have hn : (n : ℕ∞) < g.distance S v := by
      rw [not_le, Nat.cast_succ] at hlt
      exact lt_of_add_lt_add_right hlt
    exact new (x.closed u (x.mem_front_of_walk h walk hn) w step)

omit [DecidableEq V] in
/-- A new value is the last one that is pending. -/
theorem pending_withValue (h : s.WellFormed) (fresh : v ∉ s.valueSet) :
    (s.withValue v).pending = s.pending ++ [v] := by
  have hvalues := visited_append_pending (h.withValue fresh)
  rw [visited_withValue h] at hvalues
  refine List.append_cancel_left (hvalues.trans ?_)
  rw [← List.append_assoc, visited_append_pending h]
  rfl

/-- The first edge to a value stays the first. -/
theorem firstEdge?_withEdge {e f : Edge V I} (h : s.firstEdge? w = some f) :
    (s.withEdge e).firstEdge? w = some f := by
  rw [firstEdge?, withEdge, List.find?_append, ← firstEdge?, h, Option.some_or]

/-- An edge to a value that is not tainted is the first to it. -/
theorem Explained.firstEdge?_withEdge_new {e : Edge V I} (known : Explained g s)
    (hd : e.dest = some w) (present : g.isAbsent w = false) (new : w ∉ s.values) :
    (s.withEdge e).firstEdge? w = some e := by
  have hnone : s.edges.find? (fun f => f.dest = some w) = none := by
    refine List.find?_eq_none.mpr fun f hf hdf => new ?_
    exact known.dest_mem f hf w (of_decide_eq_true hdf) present
  rw [firstEdge?, withEdge, List.find?_append, hnone, Option.none_or]
  exact List.find?_cons_of_pos (decide_eq_true hd)

theorem Layered.withEdge (x : Layered g S s) (e : Edge V I) : Layered g S (s.withEdge e) where
  seeds_mem := x.seeds_mem
  ordered := x.ordered
  narrow := x.narrow
  closer w hw hs := by
    obtain ⟨f, hf, hd⟩ := x.closer w hw hs
    exact ⟨f, firstEdge?_withEdge hf, hd⟩

/-- A value may be tainted that is at least as far away as all the others, at
most one step further than what is pending, and one step further than the
source of its first edge. -/
theorem Layered.withValue (x : Layered g S s) (h : s.WellFormed) (fresh : w ∉ s.valueSet)
    (furthest : ∀ u ∈ s.values, g.distance S u ≤ g.distance S w)
    (close : ∀ u ∈ s.pending, g.distance S w ≤ g.distance S u + 1) {e : Edge V I}
    (first : s.firstEdge? w = some e) (step : g.distance S e.source + 1 = g.distance S w) :
    Layered g S (s.withValue w) where
  seeds_mem u hu := List.mem_append_left _ (x.seeds_mem u hu)
  ordered := by
    refine List.pairwise_append.mpr
      ⟨x.ordered, List.pairwise_singleton _ _, fun u hu y hy => ?_⟩
    rw [List.mem_singleton.mp hy]
    exact furthest u hu
  narrow u hu y hy := by
    rw [pending_withValue h fresh] at hu
    rcases List.mem_append.mp hu with hu | hu <;> rcases List.mem_append.mp hy with hy | hy
    · exact x.narrow u hu y hy
    · rw [List.mem_singleton.mp hy]
      exact close u hu
    · rw [List.mem_singleton.mp hu]
      exact (furthest y hy).trans le_self_add
    · rw [List.mem_singleton.mp hu, List.mem_singleton.mp hy]
      exact le_self_add
  closer u hu hs := by
    rcases List.mem_append.mp hu with hu | hu
    · exact x.closer u hu hs
    · rw [List.mem_singleton.mp hu]
      exact ⟨e, first, step⟩

/-- What is pending while `v` is visited is at least as far away as `v`. -/
theorem Expanding.le_of_mem_pending (x : Expanding g S front v s) (h : s.WellFormed)
    (hw : w ∈ s.pending) : g.distance S v ≤ g.distance S w := by
  have ordered := x.ordered
  rw [← visited_append_pending h, x.visited_eq] at ordered
  exact (List.pairwise_append.mp ordered).2.2 v
    (List.mem_append_right _ List.mem_cons_self) w hw

theorem Expanding.mark (x : Expanding g S front v s) (e : Edge V I) :
    Expanding g S front v (s.withEdge e) where
  toLayered := x.toLayered.withEdge e
  visited_eq := x.visited_eq
  near := x.near
  closed := x.closed

/-- Tainting a target while the users of `v` are visited keeps the layers. -/
theorem Expanding.spread {i : I} (x : Expanding g S front v s) (h : s.WellFormed)
    (known : Explained g s) (use : i ∈ g.users v) (propagates : g.Propagates i)
    (fresh : i ∉ s.instrSet) (target : g.taints? i = some w) (present : g.isAbsent w = false)
    (new : w ∉ s.valueSet) :
    Expanding g S front v ((s.withEdge ⟨v, i, g.taints? i⟩).withValue w) := by
  have hnew : w ∉ s.values := fun hw => new ((h.mem_valueSet w).mpr hw)
  have hd : g.distance S w = g.distance S v + 1 :=
    x.distance_new h ⟨i, use, propagates, target, present⟩ hnew
  have hmarked : (s.withEdge ⟨v, i, g.taints? i⟩).WellFormed := h.withEdge fresh
  refine ⟨(x.toLayered.withEdge _).withValue hmarked new ?_ ?_
    (known.firstEdge?_withEdge_new target present hnew) hd.symm, ?_, ?_, ?_⟩
  · intro u hu
    rw [hd]
    exact x.near u hu
  · intro u hu
    rw [hd]
    exact add_le_add_left (x.le_of_mem_pending h hu) 1
  · rw [visited_withValue hmarked]
    exact x.visited_eq
  · intro u hu
    rcases List.mem_append.mp hu with hu | hu
    · exact x.near u hu
    · rw [List.mem_singleton.mp hu, hd]
  · intro u hu y hy
    exact List.mem_append_left _ (x.closed u hu y hy)

variable [DecidableEq I]

/-- A visit to one user of `v` keeps the layers. -/
theorem Expanding.visit {i : I} (x : Expanding g S front v s) (h : s.WellFormed)
    (known : Explained g s) (use : i ∈ g.users v) :
    Expanding g S front v (s.visit g v i).store := by
  rcases visit_cases g s v i with ⟨-, he⟩ | ⟨-, -, -, he⟩ | ⟨w, hp, hf, ht, ha, hn, he⟩
  · rw [he]
    exact x
  · rw [he]
    exact x.mark _
  · rw [he]
    exact x.spread h known use hp hf ht ha hn

/-! ## §4 Steps -/

omit [DecidableEq I] in
/-- Popping a value starts its visits, when taint has been passed on from the
values popped before. -/
theorem Layered.pop? (x : Layered g S s) (h : s.WellFormed) (hc : Covered g s)
    (j : Justified g s) (hp : s.pop? = some (v, t)) : Expanding g S s.visited v t := by
  have ht := (pop?_eq_some hp).2.2.2
  have hvalues : t.values = s.values := by rw [ht]
  have hedges : t.edges = s.edges := by rw [ht]
  have hpending : s.pending = v :: t.pending := by
    have he := visited_append_pending (h.pop? hp)
    rw [visited_pop? h hp, hvalues, ← visited_append_pending h, List.append_assoc,
      List.singleton_append] at he
    exact (List.append_cancel_left he).symm
  have hv : v ∈ s.pending := by
    rw [hpending]
    exact List.mem_cons_self
  refine ⟨⟨?_, ?_, ?_, ?_⟩, visited_pop? h hp, ?_, ?_⟩
  · rw [hvalues]
    exact x.seeds_mem
  · rw [hvalues]
    exact x.ordered
  · intro u hu
    rw [hvalues]
    exact x.narrow u (hpending ▸ List.mem_cons_of_mem v hu)
  · rw [hvalues]
    simp only [firstEdge?, hedges]
    exact x.closer
  · rw [hvalues]
    exact x.narrow v hv
  · rintro u hu w ⟨i, use, propagates, target⟩
    rw [hvalues]
    exact j.targets i (hc u hu i use propagates) w target

/-- A step keeps the layers. -/
theorem Layered.step? {p : Progress V I} (x : Layered g S s) (h : s.WellFormed)
    (hc : Covered g s) (j : Justified g s) (known : Explained g s) (hs : s.step? g = some p) :
    Layered g S p.store := by
  obtain ⟨v, t, hp, rfl⟩ := step?_cases hs
  have hx := visitAll_induction
    (P := fun u => Explained g u ∧ Expanding g S s.visited v u)
    (fun u i hu last use hpu => by
      refine ⟨?_, hpu.2.visit hu hpu.1 use⟩
      rcases visit_move last use with he | m
      · rw [he]
        exact hpu.1
      · exact m.explained hu hpu.1)
    (g.users v) t (fun _ hi => hi) (h.pop? hp) (getLast?_visited_pop? h hp)
    ⟨known.pop? h hp, x.pop? h hc j hp⟩
  exact hx.2.toLayered

/-! ## §5 Seeding -/

omit [DecidableEq I] in
/-- Seeding a list taints the values that it accepts. -/
theorem mem_values_seedAll_iff :
    ∀ (vs : List (Option V)) (s : Store V I), s.WellFormed →
      ∀ v, v ∈ (s.seedAll g vs).1.store.values ↔ v ∈ s.values ∨ v ∈ g.accepted vs := by
  intro vs
  induction vs with
  | nil => intro s _ v; simp [seedAll, UseDef.accepted]
  | cons u rest ih =>
    intro s h v
    rw [UseDef.mem_accepted_cons]
    rcases seed_cases g s u with he | ⟨w, rfl, hw, ⟨hm, he⟩ | ⟨hn, he⟩⟩
    · have hu : ¬ g.IsPresent u := fun hu => seed_ne_error hu he
      simp only [seedAll, he, hu, false_and, or_false]
    · have hmem : w ∈ s.values := (h.mem_valueSet w).mp hm
      have hpresent : g.IsPresent (some w) := hw
      simp only [seedAll, he, ih s h, hpresent, true_and, Option.some.injEq]
      constructor
      · rintro (hv | hv)
        · exact Or.inl hv
        · exact Or.inr (Or.inr hv)
      · rintro (hv | rfl | hv)
        · exact Or.inl hv
        · exact Or.inl hmem
        · exact Or.inr hv
    · have hpresent : g.IsPresent (some w) := hw
      have hvalues : ((s.withValue w).withSeed w).values = s.values ++ [w] := rfl
      simp only [seedAll, he, ih _ (h.withValue_withSeed hn), hpresent, true_and,
        Option.some.injEq, hvalues, List.mem_append, List.mem_singleton, or_assoc]

omit [DecidableEq I] in
theorem mem_values_seedAll_empty (vs : List (Option V)) (v : V) :
    v ∈ ((empty : Store V I).seedAll g vs).1.store.values ↔ v ∈ g.accepted vs := by
  rw [mem_values_seedAll_iff vs empty wellFormed_empty]
  exact or_iff_right List.not_mem_nil

omit [DecidableEq I] in
/-- Seeds alone are at distance zero. -/
theorem layered_seedAll (vs : List (Option V)) :
    Layered g (g.accepted vs) ((empty : Store V I).seedAll g vs).1.store := by
  have zero : ∀ v ∈ ((empty : Store V I).seedAll g vs).1.store.values,
      g.distance (g.accepted vs) v = 0 := fun v hv =>
    UseDef.distance_of_mem ((mem_values_seedAll_empty vs v).mp hv)
  refine ⟨fun v hv => (mem_values_seedAll_empty vs v).mpr hv, ?_, fun u _ w hw => ?_,
    fun w hw hs => absurd ((mem_values_seedAll_empty vs w).mp hw) hs⟩
  · refine List.pairwise_of_forall_mem_list fun u hu v _ => ?_
    rw [zero u hu]
    exact zero_le
  · rw [zero w hw]
    exact zero_le

theorem seeds_settle_subset (vs : List (Option V)) :
    ∀ u ∈ (settle g vs : Store V I).seeds, u ∈ g.accepted vs := by
  have h : ((empty : Store V I).seedAll g vs).1.store.WellFormed :=
    wellFormed_empty.perform (g := g) (.seedAll vs)
  intro u hu
  have hu : u ∈ ((empty : Store V I).seedAll g vs).1.store.seeds := by
    rw [← seeds_propagate (g := g) h]
    exact hu
  exact (mem_values_seedAll_empty vs u).mp (h.seeds_sublist.subset hu)

/-! ## §6 Settled -/

/-- An edge leads from `u` to `v`. -/
def Recorded (s : Store V I) (u v : V) : Prop := ∃ e ∈ s.edges, e.source = u ∧ e.dest = some v

omit [DecidableEq I] in
theorem recorded_of_firstEdge? {e : Edge V I} (h : s.firstEdge? w = some e) :
    s.Recorded e.source w := by
  have hd := List.find?_some h
  exact ⟨e, List.mem_of_find?_eq_some h, rfl, of_decide_eq_true hd⟩

omit [DecidableEq I] in
/-- Following first edges back is a shortest way to a seed. -/
theorem Layered.walk_recorded (x : Layered g S s) (known : Explained g s) :
    ∀ (n : ℕ) (w : V), w ∈ s.values → g.distance S w = n → Walk s.Recorded S n w := by
  intro n
  induction n with
  | zero =>
    intro w hw hd
    by_cases hs : w ∈ S
    · exact .start hs
    · obtain ⟨e, -, he⟩ := x.closer w hw hs
      rw [hd, Nat.cast_zero] at he
      exact absurd he (by simp)
  | succ n ih =>
    intro w hw hd
    have hs : w ∉ S := by
      intro hs
      rw [UseDef.distance_of_mem hs, Nat.cast_succ] at hd
      exact absurd hd.symm (by simp)
    obtain ⟨e, he, hstep⟩ := x.closer w hw hs
    have hn : g.distance S e.source = n := by
      rw [hd, Nat.cast_succ] at hstep
      exact WithTop.add_right_cancel ENat.one_ne_top hstep
    have hsource : e.source ∈ s.values :=
      known.source_mem_values (List.mem_of_find?_eq_some he)
    exact (ih e.source hsource hn).next (recorded_of_firstEdge? he)

/-- A run from seeds to rest is layered and explained. -/
theorem layered_settle (vs : List (Option V)) :
    Layered g (g.accepted vs) (settle g vs : Store V I) ∧
    Explained g (settle g vs : Store V I) := by
  have moves : ReflTransGen (Move g) empty ((empty : Store V I).seedAll g vs).1.store :=
    perform_moves wellFormed_empty (.seedAll vs)
  have h := wellFormed_of_moves wellFormed_empty moves
  have hv : ((empty : Store V I).seedAll g vs).1.store.visited = [] :=
    visited_seedAll vs wellFormed_empty
  have hc : Covered g ((empty : Store V I).seedAll g vs).1.store := by
    intro u hu
    rw [hv] at hu
    exact absurd hu List.not_mem_nil
  have settled := steps_induction
    (P := fun t => Layered g (g.accepted vs) t ∧ Covered g t ∧ Justified g t ∧ Explained g t)
    (fun s p hs ⟨x, hc, j, known⟩ hp =>
      ⟨x.step? hs hc j known hp, hc.step? hs hp, justified_of_moves (step?_moves hs hp) hs j,
        explained_of_moves (step?_moves hs hp) hs known⟩)
    (((empty : Store V I).seedAll g vs).1.store.budget g) _ h
    ⟨layered_seedAll vs, hc, justified_of_moves moves wellFormed_empty justified_empty,
      explained_of_moves moves wellFormed_empty explained_empty⟩
  exact ⟨settled.1, settled.2.2.2⟩

/-- **Values are found breadth first.** A new engine that is handed values and
then propagates has tainted what is at a finite distance from the seeds, and
lists it in the order of the distance. The first edge that leads to a tainted
value that is no seed comes from one at a distance smaller by one. Hence the
edges give each tainted value a shortest explanation: as many of them as its
distance lead from a seed to it. -/
theorem settle_breadthFirst (g : UseDef V I) (vs : List (Option V)) :
    let s : Store V I := settle g vs
    let seeds := g.accepted vs
    (∀ v, s.isTainted v = true ↔ g.distance seeds v ≠ ⊤) ∧
    (s.values.Pairwise fun u v => g.distance seeds u ≤ g.distance seeds v) ∧
    (∀ v, s.isTainted v = true → v ∉ seeds →
      ∃ e, s.edges.find? (fun e => e.dest = some v) = some e ∧
        g.distance seeds e.source + 1 = g.distance seeds v) ∧
    ∀ v, s.isTainted v = true →
      ∃ n : ℕ, g.distance seeds v = n ∧ Walk s.Recorded seeds n v := by
  intro s seeds
  have r : AtRest g s := atRest_settle g vs
  obtain ⟨x, known⟩ : Layered g seeds s ∧ Explained g s := layered_settle vs
  have reached : ∀ v, s.isTainted v = true ↔ g.distance seeds v ≠ ⊤ := by
    intro v
    rw [isTainted_iff r.wellFormed, UseDef.distance_ne_top_iff]
    exact r.mem_values_iff x.seeds_mem (seeds_settle_subset vs) v
  refine ⟨reached, x.ordered, fun v hv hs => ?_, fun v hv => ?_⟩
  · exact x.closer v ((isTainted_iff r.wellFormed v).mp hv) hs
  · obtain ⟨n, hn, -⟩ := UseDef.exists_walk_of_distance ((reached v).mp hv)
    exact ⟨n, hn, x.walk_recorded known n v ((isTainted_iff r.wellFormed v).mp hv) hn⟩

end Store

end ArgTaint
