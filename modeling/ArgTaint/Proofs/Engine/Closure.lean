/-
ArgTaint.Proofs.Engine.Closure — at rest, a store is the closure of the seeds.

Taint passes from a value to the target of each of its users whose kind
propagates (`UseDef.PassesTo`). Whatever the order in which a host seeds and
steps, an engine with nothing pending has tainted exactly what can be reached
from the values that it was handed, and has marked exactly the propagating
users of these.

  §1 Passing taint — the relation, and the operator `UseDef.transfer` whose
                     least fixpoint is the closure.
  §2 Justified     — every tainted value is reached from a seed and every
                     marked instruction uses a tainted value; kept by every
                     move, so it holds in the middle of a run too.
  §3 Covered       — the propagating users of popped values are marked.
  §4 At rest       — with nothing pending, the two give the closure.
  §5 Visits, steps — a step covers the value that it pops; between the visits
                     of a step a store is justified but not covered.
  §6 Seeds         — what was handed over is tainted, and seeds were handed
                     over.
  §7 Runs          — the closure after any calls.
-/
import ArgTaint.Workbench
import ArgTaint.Proofs.Engine.Moves
import Mathlib

namespace ArgTaint

open Relation (ReflTransGen)

/-! ## §1 Passing taint -/

namespace UseDef

variable {V I : Type}

/-- The instruction designates a value to taint. -/
def Targets (g : UseDef V I) (i : I) (t : V) : Prop :=
  g.taints? i = some t ∧ g.isAbsent t = false

/-- Taint passes from `v` to the target of a propagating user of `v`. -/
def PassesTo (g : UseDef V I) (v t : V) : Prop :=
  ∃ i ∈ g.users v, g.Propagates i ∧ g.Targets i t

/-- One round of tainting: the seeds and the targets of what is marked are
tainted, the propagating users of what is tainted are marked. -/
def transfer (g : UseDef V I) (seeds : Set V) : (Set V × Set I) →o (Set V × Set I) where
  toFun p :=
    (seeds ∪ {t | ∃ i ∈ p.2, g.Targets i t}, {i | g.Propagates i ∧ ∃ v ∈ p.1, i ∈ g.users v})
  monotone' := by
    rintro ⟨T, M⟩ ⟨T', M'⟩ ⟨hT, hM⟩
    constructor
    · rintro t (ht | ⟨i, hi, ht⟩)
      · exact Or.inl ht
      · exact Or.inr ⟨i, hM hi, ht⟩
    · rintro i ⟨hp, v, hv, hi⟩
      exact ⟨hp, v, hT hv, hi⟩

end UseDef

/-- The values that calls hand over as seeds. -/
def EngineCall.passed {V : Type} (calls : List (EngineCall V)) : Set V :=
  {v | ∃ c ∈ calls, some v ∈ c.seeds}

namespace Store

variable {V I : Type} {g : UseDef V I}

/-! ## §2 Justified -/

/-- Nothing is tainted or marked without a reason, and the targets of what is
marked are tainted. -/
structure Justified (g : UseDef V I) (s : Store V I) : Prop where
  reached : ∀ v ∈ s.values, ∃ u ∈ s.seeds, ReflTransGen g.PassesTo u v
  used : ∀ i ∈ s.instrs, g.Propagates i ∧ ∃ v ∈ s.values, i ∈ g.users v
  targets : ∀ i ∈ s.instrs, ∀ t, g.Targets i t → t ∈ s.values

theorem justified_empty : Justified g (empty : Store V I) :=
  ⟨fun _ h => absurd h List.not_mem_nil, fun _ h => absurd h List.not_mem_nil,
    fun _ h => absurd h List.not_mem_nil⟩

theorem Justified.seed {s : Store V I} (j : Justified g s) (v : V) :
    Justified g ((s.withValue v).withSeed v) where
  reached w hw := by
    rcases List.mem_append.mp hw with hw | hw
    · obtain ⟨u, hu, hr⟩ := j.reached w hw
      exact ⟨u, List.mem_append_left _ hu, hr⟩
    · rw [List.mem_singleton.mp hw]
      exact ⟨v, List.mem_append_right _ List.mem_cons_self, ReflTransGen.refl⟩
  used i hi := by
    obtain ⟨hp, w, hw, hu⟩ := j.used i hi
    exact ⟨hp, w, List.mem_append_left _ hw, hu⟩
  targets i hi t ht := List.mem_append_left _ (j.targets i hi t ht)

/-- Marking a user of a tainted value is justified once its target is
tainted. -/
theorem Justified.withEdge {s : Store V I} (j : Justified g s) {e : Edge V I}
    (hv : e.source ∈ s.values) (use : e.instr ∈ g.users e.source)
    (propagates : g.Propagates e.instr) (known : ∀ t, g.Targets e.instr t → t ∈ s.values) :
    Justified g (s.withEdge e) where
  reached := j.reached
  used i hi := by
    rcases List.mem_append.mp hi with hi | hi
    · exact j.used i hi
    · rw [List.mem_singleton.mp hi]
      exact ⟨propagates, e.source, hv, use⟩
  targets i hi t ht := by
    rcases List.mem_append.mp hi with hi | hi
    · exact j.targets i hi t ht
    · rw [List.mem_singleton.mp hi] at ht
      exact known t ht

/-- What taint passes to is tainted with a reason. -/
theorem Justified.withValue {s : Store V I} (j : Justified g s) {v t : V} (hv : v ∈ s.values)
    (hp : g.PassesTo v t) : Justified g (s.withValue t) where
  reached w hw := by
    rcases List.mem_append.mp hw with hw | hw
    · exact j.reached w hw
    · obtain ⟨u, hu, hr⟩ := j.reached v hv
      rw [List.mem_singleton.mp hw]
      exact ⟨u, hu, hr.tail hp⟩
  used i hi := by
    obtain ⟨hp, w, hw, hu⟩ := j.used i hi
    exact ⟨hp, w, List.mem_append_left _ hw, hu⟩
  targets i hi u hu := List.mem_append_left _ (j.targets i hi u hu)

/-- Every move keeps a store justified. -/
theorem Move.justified {s t : Store V I} (m : Move g s t) (h : s.WellFormed)
    (j : Justified g s) : Justified g t := by
  cases m with
  | seed _ _ => exact j.seed _
  | pop popped =>
    rw [(pop?_eq_some popped).2.2.2]
    exact ⟨j.reached, j.used, j.targets⟩
  | mark last use propagates _ known =>
    have hv := mem_values_of_mem_visited (List.mem_of_getLast? last)
    exact j.withEdge hv use propagates
      fun t ht => (h.mem_valueSet t).mp (known t ht.1 ht.2)
  | @spread v t i last use propagates _ target present _ =>
    have hv := mem_values_of_mem_visited (List.mem_of_getLast? last)
    have hp : g.PassesTo v t := ⟨i, use, propagates, target, present⟩
    -- the order of tainting and marking does not matter to the result
    refine (j.withValue hv hp).withEdge (e := ⟨v, i, g.taints? i⟩)
      (List.mem_append_left _ hv) use propagates ?_
    rintro u ⟨hu, -⟩
    rw [target] at hu
    cases hu
    exact List.mem_append_right _ List.mem_cons_self

/-- Whatever moves are made, nothing is tainted or marked without a reason. -/
theorem justified_of_moves {s t : Store V I} (m : ReflTransGen (Move g) s t) (h : s.WellFormed)
    (j : Justified g s) : Justified g t := by
  induction m with
  | refl => exact j
  | tail hm m ih => exact m.justified (wellFormed_of_moves h hm) ih

/-! ## §3 Covered -/

/-- The propagating users of popped values are marked. -/
def Covered (g : UseDef V I) (s : Store V I) : Prop :=
  ∀ v ∈ s.visited, ∀ i ∈ g.users v, g.Propagates i → i ∈ s.instrs

theorem Covered.seed {s : Store V I} (hc : Covered g s) (h : s.WellFormed) (v : V) :
    Covered g ((s.withValue v).withSeed v) := by
  have hv : ((s.withValue v).withSeed v).visited = s.visited := visited_withValue h v
  intro w hw
  rw [hv] at hw
  exact hc w hw

/-! ## §4 At rest -/

/-- A store with nothing pending that is justified and covered. -/
structure AtRest (g : UseDef V I) (s : Store V I) : Prop where
  wellFormed : s.WellFormed
  justified : Justified g s
  covered : Covered g s
  idle : s.pendingCount = 0

/-- The marked instructions are the propagating users of tainted values. -/
theorem AtRest.mem_instrs_iff {s : Store V I} (r : AtRest g s) (i : I) :
    i ∈ s.instrs ↔ g.Propagates i ∧ ∃ v ∈ s.values, i ∈ g.users v := by
  constructor
  · exact r.justified.used i
  · rintro ⟨hp, v, hv, hi⟩
    rw [← visited_eq_values r.idle] at hv
    exact r.covered v hv i hi hp

/-- Taint has been passed on as far as it goes. -/
theorem AtRest.mem_values_of_reachable {s : Store V I} (r : AtRest g s) {u v : V}
    (hu : u ∈ s.values) (hr : ReflTransGen g.PassesTo u v) : v ∈ s.values := by
  induction hr with
  | refl => exact hu
  | tail _ hp ih =>
    obtain ⟨i, hi, hprop, ht⟩ := hp
    exact r.justified.targets i ((r.mem_instrs_iff i).mpr ⟨hprop, _, ih, hi⟩) _ ht

/-- At rest, tainted is what taint passes to from the values handed over. -/
theorem AtRest.mem_values_iff {s : Store V I} (r : AtRest g s) {S : Set V}
    (tainted : ∀ u ∈ S, u ∈ s.values) (handed : ∀ u ∈ s.seeds, u ∈ S) (v : V) :
    v ∈ s.values ↔ ∃ u ∈ S, ReflTransGen g.PassesTo u v := by
  constructor
  · intro hv
    obtain ⟨u, hu, hr⟩ := r.justified.reached v hv
    exact ⟨u, handed u hu, hr⟩
  · rintro ⟨u, hu, hr⟩
    exact r.mem_values_of_reachable (tainted u hu) hr

/-- The tainted values and the marked instructions are the least fixpoint of
`UseDef.transfer`. -/
theorem AtRest.eq_lfp {s : Store V I} (r : AtRest g s) {S : Set V}
    (tainted : ∀ u ∈ S, u ∈ s.values) (handed : ∀ u ∈ s.seeds, u ∈ S) :
    ({v | v ∈ s.values}, {i | i ∈ s.instrs}) = (g.transfer S).lfp := by
  rcases hl : (g.transfer S).lfp with ⟨T, M⟩
  have hfix : g.transfer S (T, M) = (T, M) := by rw [← hl]; exact (g.transfer S).map_lfp
  obtain ⟨hT, hM⟩ := Prod.mk.inj hfix
  have values_le : ∀ v ∈ s.values, v ∈ T := by
    intro v hv
    obtain ⟨u, hu, hr⟩ := (r.mem_values_iff tainted handed v).mp hv
    clear hv
    induction hr with
    | refl =>
      rw [← hT]
      exact Or.inl hu
    | tail _ hp ih =>
      obtain ⟨i, hi, hprop, ht⟩ := hp
      have him : i ∈ M := by
        rw [← hM]
        exact ⟨hprop, _, ih, hi⟩
      rw [← hT]
      exact Or.inr ⟨i, him, ht⟩
  apply le_antisymm
  · refine ⟨values_le, ?_⟩
    intro i hi
    obtain ⟨hp, v, hv, hu⟩ := r.justified.used i hi
    change i ∈ M
    rw [← hM]
    exact ⟨hp, v, values_le v hv, hu⟩
  · rw [← hl]
    apply OrderHom.lfp_le
    constructor
    · rintro t (ht | ⟨i, hi, ht⟩)
      · exact tainted t ht
      · exact r.justified.targets i hi t ht
    · intro i hi
      exact (r.mem_instrs_iff i).mpr hi

/-! ## §5 Visits and steps -/

variable [DecidableEq V] [DecidableEq I]

/-- A propagating use is marked when it has been visited. -/
theorem mem_instrs_visit {s : Store V I} (h : s.WellFormed) (v : V) {i : I}
    (hp : g.Propagates i) : i ∈ (s.visit g v i).store.instrs := by
  rcases visit_cases g s v i with ⟨hm, he⟩ | ⟨-, -, -, he⟩ | ⟨t, -, -, -, -, -, he⟩
  · rw [he]
    exact (h.mem_instrSet i).mp (hm hp)
  · rw [he]
    exact List.mem_append_right _ List.mem_cons_self
  · rw [he]
    exact List.mem_append_right _ List.mem_cons_self

/-- After a visit to all users of a value, those that propagate are marked. -/
theorem mem_instrs_visitAll {v : V} :
    ∀ (is : List I) (s : Store V I), (∀ i ∈ is, i ∈ g.users v) → s.WellFormed →
      s.visited.getLast? = some v →
      ∀ i ∈ is, g.Propagates i → i ∈ (visitAll g v s is).store.instrs := by
  intro is
  induction is with
  | nil => intro s _ _ _ i hi; exact absurd hi List.not_mem_nil
  | cons j rest ih =>
    intro s his h last i hi hp
    have hj : j ∈ g.users v := his j List.mem_cons_self
    rcases List.mem_cons.mp hi with rfl | hi
    · exact (extends_visitAll v rest _).instrs.subset (mem_instrs_visit h v hp)
    · have hw := wellFormed_visit h last hj
      have hl : (s.visit g v j).store.visited.getLast? = some v := by
        rw [visited_visit h]; exact last
      exact ih _ (fun k hk => his k (List.mem_cons_of_mem j hk)) hw hl i hi hp

/-- A step covers the value that it pops. -/
theorem Covered.step? {s : Store V I} {p : Progress V I} (hc : Covered g s) (h : s.WellFormed)
    (hs : s.step? g = some p) : Covered g p.store := by
  obtain ⟨v, t, hp, rfl⟩ := step?_cases hs
  have ht := h.pop? hp
  have last := getLast?_visited_pop? h hp
  have hi : t.instrs = s.instrs := by rw [(pop?_eq_some hp).2.2.2]
  intro w hw i hu hprop
  rw [visited_visitAll ht last, visited_pop? h hp] at hw
  rcases List.mem_append.mp hw with hw | hw
  · have hold := hc w hw i hu hprop
    rw [← hi] at hold
    exact (extends_visitAll v _ t).instrs.subset hold
  · rw [List.mem_singleton.mp hw] at hu
    exact mem_instrs_visitAll (g.users v) t (fun _ hj => hj) ht last i hu hprop

/-! ## §6 Seeds -/

omit [DecidableEq I] in
/-- A value that is seeded is tainted from then on. -/
theorem mem_values_seedAll :
    ∀ (vs : List (Option V)) (s : Store V I), s.WellFormed → (∀ v ∈ vs, g.IsPresent v) →
      ∀ v, some v ∈ vs → v ∈ (s.seedAll g vs).1.store.values := by
  intro vs
  induction vs with
  | nil => intro s _ _ v hv; exact absurd hv List.not_mem_nil
  | cons u rest ih =>
    intro s h present v hv
    have hrest : ∀ w ∈ rest, g.IsPresent w := fun w hw => present w (List.mem_cons_of_mem u hw)
    rcases seed_cases g s u with he | ⟨w, rfl, -, ⟨hm, he⟩ | ⟨hn, he⟩⟩
    · exact absurd he (seed_ne_error (present u List.mem_cons_self))
    · simp only [seedAll, he]
      rcases List.mem_cons.mp hv with hv | hv
      · cases hv
        exact (extends_seedAll rest h).values.subset ((h.mem_valueSet v).mp hm)
      · exact ih s h hrest v hv
    · have hs := h.withValue_withSeed hn
      simp only [seedAll, he]
      rcases List.mem_cons.mp hv with hv | hv
      · cases hv
        exact (extends_seedAll rest hs).values.subset
          (List.mem_append_right _ List.mem_cons_self)
      · exact ih _ hs hrest v hv

omit [DecidableEq I] in
/-- A seed was a seed before or is handed over. -/
theorem mem_seeds_seedAll :
    ∀ (vs : List (Option V)) (s : Store V I),
      ∀ v ∈ (s.seedAll g vs).1.store.seeds, v ∈ s.seeds ∨ some v ∈ vs := by
  intro vs
  induction vs with
  | nil => intro s v hv; exact Or.inl hv
  | cons u rest ih =>
    intro s v hv
    rcases seed_cases g s u with he | ⟨w, rfl, -, ⟨-, he⟩ | ⟨-, he⟩⟩
    · simp only [seedAll, he] at hv
      exact Or.inl hv
    · simp only [seedAll, he] at hv
      rcases ih s v hv with h | h
      · exact Or.inl h
      · exact Or.inr (List.mem_cons_of_mem _ h)
    · simp only [seedAll, he] at hv
      rcases ih _ v hv with h | h
      · rcases List.mem_append.mp h with h | h
        · exact Or.inl h
        · rw [List.mem_singleton.mp h]
          exact Or.inr List.mem_cons_self
      · exact Or.inr (List.mem_cons_of_mem _ h)

/-- Steps make no seeds. -/
theorem seeds_step? {s : Store V I} {p : Progress V I} (h : s.WellFormed)
    (hs : s.step? g = some p) : p.store.seeds = s.seeds := by
  obtain ⟨v, t, hp, rfl⟩ := step?_cases hs
  refine visitAll_induction (P := fun u => u.seeds = s.seeds) ?_ (g.users v) t
    (fun _ hi => hi) (h.pop? hp) (getLast?_visited_pop? h hp) ?_
  · intro u i _ _ _ hu
    rcases visit_cases g u v i with ⟨-, he⟩ | ⟨-, -, -, he⟩ | ⟨t, -, -, -, -, -, he⟩
    · rw [he]; exact hu
    · rw [he]; exact hu
    · rw [he]; exact hu
  · rw [(pop?_eq_some hp).2.2.2]

theorem seeds_propagate {s : Store V I} (h : s.WellFormed) :
    (s.propagate g).store.seeds = s.seeds :=
  steps_induction (P := fun t => t.seeds = s.seeds)
    (fun _ _ ht he hp => (seeds_step? ht hp).trans he) (s.budget g) s h rfl

/-- The seeds of a store were handed over. -/
theorem mem_seeds_perform {s : Store V I} (h : s.WellFormed) (c : EngineCall V) :
    ∀ v ∈ (s.perform g c).seeds, v ∈ s.seeds ∨ some v ∈ c.seeds := by
  intro v hv
  cases c with
  | seed u =>
    rw [perform_seed] at hv
    exact mem_seeds_seedAll [u] s v hv
  | seedAll vs => exact mem_seeds_seedAll vs s v hv
  | step =>
    simp only [perform] at hv
    split at hv
    · next p hp =>
      rw [seeds_step? h hp] at hv
      exact Or.inl hv
    · exact Or.inl hv
  | propagate =>
    rw [perform, seeds_propagate h] at hv
    exact Or.inl hv

/-- What is handed over, and is there, is tainted. -/
theorem mem_values_perform {s : Store V I} (h : s.WellFormed) {c : EngineCall V}
    (present : ∀ v ∈ c.seeds, g.IsPresent v) :
    ∀ v, some v ∈ c.seeds → v ∈ (s.perform g c).values := by
  intro v hv
  cases c with
  | seed u =>
    rw [perform_seed]
    exact mem_values_seedAll [u] s h present v hv
  | seedAll vs => exact mem_values_seedAll vs s h present v hv
  | step => exact absurd hv List.not_mem_nil
  | propagate => exact absurd hv List.not_mem_nil

/-- After any calls the seeds were handed over. -/
theorem mem_seeds_run :
    ∀ (calls : List (EngineCall V)) (s : Store V I), s.WellFormed →
      ∀ v ∈ (s.run g calls).seeds, v ∈ s.seeds ∨ v ∈ EngineCall.passed calls := by
  intro calls
  induction calls with
  | nil => intro s _ v hv; exact Or.inl hv
  | cons c rest ih =>
    intro s h v hv
    rcases ih (s.perform g c) (h.perform c) v hv with hv | ⟨d, hd, hv⟩
    · rcases mem_seeds_perform h c v hv with hv | hv
      · exact Or.inl hv
      · exact Or.inr ⟨c, List.mem_cons_self, hv⟩
    · exact Or.inr ⟨d, List.mem_cons_of_mem c hd, hv⟩

theorem mem_seeds_run_empty (calls : List (EngineCall V)) :
    ∀ v ∈ ((empty : Store V I).run g calls).seeds, v ∈ EngineCall.passed calls := by
  intro v hv
  rcases mem_seeds_run calls empty wellFormed_empty v hv with h | h
  · exact absurd h List.not_mem_nil
  · exact h

/-- After any calls what was handed over is tainted. -/
theorem mem_values_run :
    ∀ (calls : List (EngineCall V)) (s : Store V I), s.WellFormed →
      (∀ c ∈ calls, ∀ v ∈ c.seeds, g.IsPresent v) →
      ∀ v ∈ EngineCall.passed calls, v ∈ (s.run g calls).values := by
  intro calls
  induction calls with
  | nil => rintro s _ _ v ⟨c, hc, -⟩; exact absurd hc List.not_mem_nil
  | cons c rest ih =>
    rintro s h present v ⟨d, hd, hv⟩
    have hrest : ∀ d ∈ rest, ∀ v ∈ d.seeds, g.IsPresent v :=
      fun d hd => present d (List.mem_cons_of_mem c hd)
    rcases List.mem_cons.mp hd with rfl | hd
    · have hm := mem_values_perform h (present d List.mem_cons_self) v hv
      exact (extends_run rest (h.perform d)).values.subset hm
    · exact ih (s.perform g c) (h.perform c) hrest v ⟨d, hd, hv⟩

/-! ## §7 Runs -/

/-- A run that has nothing pending is at rest. -/
theorem atRest_run {calls : List (EngineCall V)}
    (idle : ((empty : Store V I).run g calls).pendingCount = 0) :
    AtRest g ((empty : Store V I).run g calls) where
  wellFormed := wellFormed_empty.run calls
  justified :=
    run_induction (fun _ c h j => justified_of_moves (perform_moves h c) h j) calls empty
      wellFormed_empty justified_empty
  covered := by
    refine run_induction (fun s c h hc => ?_) calls empty wellFormed_empty
      fun v hv => absurd hv List.not_mem_nil
    exact perform_induction (fun t v ht hc _ _ => hc.seed ht v)
      (fun t p ht hc hp => hc.step? ht hp) h hc c
  idle := idle

/-- The store of a new engine that is handed values once and then propagates. -/
def settle (g : UseDef V I) (vs : List (Option V)) : Store V I :=
  (empty : Store V I).run g [.seedAll vs, .propagate]

/-- Propagation ends at rest. -/
theorem atRest_settle (g : UseDef V I) (vs : List (Option V)) : AtRest g (settle g vs) := by
  refine atRest_run ?_
  have h : ((empty : Store V I).perform g (.seedAll vs)).WellFormed :=
    wellFormed_empty.perform _
  exact pendingCount_propagate h

/-- A run with nothing pending computes the least fixed point of one round. -/
theorem run_eq_lfp {calls : List (EngineCall V)}
    (present : ∀ c ∈ calls, ∀ v ∈ c.seeds, g.IsPresent v)
    (idle : ((empty : Store V I).run g calls).pendingCount = 0) :
    ({v | ((empty : Store V I).run g calls).isTainted v = true},
      {i | ((empty : Store V I).run g calls).isMarked i = true}) =
        (g.transfer (EngineCall.passed calls)).lfp := by
  have r := atRest_run idle
  simp only [isTainted_iff r.wellFormed, isMarked_iff r.wellFormed]
  exact r.eq_lfp (mem_values_run calls empty wellFormed_empty present)
    (mem_seeds_run_empty calls)

/-- **At rest, taint is reachability.** Whatever the calls and their order, and
whether or not values were seeded after an earlier rest, a store with nothing
pending has tainted exactly the values reached from those that were handed
over, and has marked exactly their propagating users. Both sets together are
the least fixpoint of `UseDef.transfer`, so two runs that were handed the same
values end in the same sets. -/
theorem run_eq_closure (g : UseDef V I) (calls : List (EngineCall V))
    (present : ∀ c ∈ calls, ∀ v ∈ c.seeds, g.IsPresent v)
    (idle : ((empty : Store V I).run g calls).pendingCount = 0) :
    let s := (empty : Store V I).run g calls
    (∀ v, s.isTainted v = true ↔
      ∃ u ∈ EngineCall.passed calls, ReflTransGen g.PassesTo u v) ∧
    (∀ i, s.isMarked i = true ↔
      g.Propagates i ∧ ∃ v, s.isTainted v = true ∧ i ∈ g.users v) ∧
    ({v | s.isTainted v = true}, {i | s.isMarked i = true}) =
      (g.transfer (EngineCall.passed calls)).lfp ∧
    ∀ calls', (∀ c ∈ calls', ∀ v ∈ c.seeds, g.IsPresent v) →
      EngineCall.passed calls' = EngineCall.passed calls →
      ((empty : Store V I).run g calls').pendingCount = 0 →
      (∀ v, ((empty : Store V I).run g calls').isTainted v = s.isTainted v) ∧
      ∀ i, ((empty : Store V I).run g calls').isMarked i = s.isMarked i := by
  intro s
  have r : AtRest g s := atRest_run idle
  refine ⟨fun v => ?_, fun i => ?_, run_eq_lfp present idle,
    fun calls' present' same idle' => ?_⟩
  · rw [isTainted_iff r.wellFormed]
    exact r.mem_values_iff (mem_values_run calls empty wellFormed_empty present)
      (mem_seeds_run_empty calls) v
  · simp only [isTainted_iff r.wellFormed, isMarked_iff r.wellFormed]
    exact r.mem_instrs_iff i
  · have he := (run_eq_lfp present' idle').trans (same ▸ (run_eq_lfp present idle).symm)
    obtain ⟨hv, hi⟩ := Prod.mk.inj he
    exact ⟨fun v => Bool.eq_iff_iff.mpr (Set.ext_iff.mp hv v),
      fun i => Bool.eq_iff_iff.mpr (Set.ext_iff.mp hi i)⟩

end Store

/-- A function in which a value is loaded, changed and stored back, so that
taint goes round a loop through memory. -/
def Build.memoryLoop : Build :=
  (Build.new "f" ["x", "p"]).run
    [.newBlock, .newConst "1",
      .emitVoid 0 .store [some (.param 0), some (.param 1)],
      .emit 0 .load "t" [some (.param 1)],
      .emit 0 .binaryOp "u" [some (.instr 1), some (.const 0)],
      .emitVoid 0 .store [some (.instr 2), some (.param 1)]]

/-- Seeds that come late: one in the middle of a run, one after a rest. -/
def EngineCall.lateSeeds : List (EngineCall Build.Value) :=
  [.seed (some (.param 0)), .step, .seedAll [some (.param 1), some (.param 0)], .propagate,
    .seed (some (.const 0)), .step]

theorem Store.run_eq_closure_memoryLoop :
    (∀ c ∈ EngineCall.lateSeeds, ∀ v ∈ c.seeds, Build.memoryLoop.view.IsPresent v) ∧
      ((empty : Store Build.Value Nat).run Build.memoryLoop.view
        EngineCall.lateSeeds).pendingCount = 0 ∧
      ∃ u ∈ EngineCall.passed EngineCall.lateSeeds,
        ReflTransGen Build.memoryLoop.view.PassesTo u (.instr 2) := by
  have present : ∀ c ∈ EngineCall.lateSeeds, ∀ v ∈ c.seeds,
      Build.memoryLoop.view.IsPresent v := by decide
  have idle : ((empty : Store Build.Value Nat).run Build.memoryLoop.view
      EngineCall.lateSeeds).pendingCount = 0 := by decide
  refine ⟨present, idle, ?_⟩
  exact ((run_eq_closure _ _ present idle).1 (.instr 2)).mp (by decide)

end ArgTaint
