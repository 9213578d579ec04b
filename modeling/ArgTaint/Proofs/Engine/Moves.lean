/-
ArgTaint.Proofs.Engine.Moves — everything that the engine does to a store.

Seeding, visiting and popping change a store in four ways, which are the
constructors of `Store.Move`. Whatever holds of the empty store and survives
every move holds after any calls, so invariants are proved move by move and
never by opening the engine again.

  §1 Moves    — `Move`; moves keep stores well formed and only extend them.
  §2 Visits   — `visit_cases`: what visiting one use does, guards included.
  §3 Steps    — a step is a pop and then visits; `step?_cases`.
  §4 Draining — `budget` falls with every step, so `propagate` ends with
                nothing pending.
  §5 Calls    — `perform_induction`, `perform_moves`, and the values that are
                popped by a call, in order.
-/
import ArgTaint.Engine.Call
import ArgTaint.Proofs.Engine.Representation
import Mathlib.Logic.Relation

namespace ArgTaint

open Relation (ReflTransGen)

namespace UseDef

variable {V I : Type}

/-- Does the policy of the kind of the instruction pass taint on? -/
def Propagates (g : UseDef V I) (i : I) : Prop := (g.kind i).policy.action = .propagate

instance (g : UseDef V I) : DecidablePred g.Propagates :=
  fun i => inferInstanceAs (Decidable ((g.kind i).policy.action = .propagate))

/-- There is a value to seed. -/
def IsPresent (g : UseDef V I) : Option V → Prop
  | none => False
  | some v => g.isAbsent v = false

instance (g : UseDef V I) : DecidablePred g.IsPresent
  | none => inferInstanceAs (Decidable False)
  | some v => inferInstanceAs (Decidable (g.isAbsent v = false))

end UseDef

namespace Store

variable {V I : Type} {g : UseDef V I}

/-! ## §1 Moves -/

/-- An instruction whose target needs no tainting: there is none, or it is
tainted. -/
def TargetKnown (g : UseDef V I) (s : Store V I) (i : I) : Prop :=
  ∀ t, g.taints? i = some t → g.isAbsent t = false → t ∈ s.valueSet

@[simp] theorem visited_withEdge (s : Store V I) (e : Edge V I) :
    (s.withEdge e).visited = s.visited := rfl

/-- The ways in which a store changes. An instruction is marked while the
value that was popped last is visited. -/
inductive Move (g : UseDef V I) : Store V I → Store V I → Prop where
  /-- A value that is not tainted yet becomes a seed. -/
  | seed {s : Store V I} {v : V} (present : g.isAbsent v = false) (fresh : v ∉ s.valueSet) :
      Move g s ((s.withValue v).withSeed v)
  /-- The oldest pending value is popped. -/
  | pop {s t : Store V I} {v : V} (popped : s.pop? = some (v, t)) : Move g s t
  /-- A user of the popped value is marked, and taints nothing new. -/
  | mark {s : Store V I} {v : V} {i : I} (last : s.visited.getLast? = some v)
      (use : i ∈ g.users v) (propagates : g.Propagates i) (fresh : i ∉ s.instrSet)
      (known : TargetKnown g s i) : Move g s (s.withEdge ⟨v, i, g.taints? i⟩)
  /-- A user of the popped value is marked, and its target is tainted. -/
  | spread {s : Store V I} {v t : V} {i : I} (last : s.visited.getLast? = some v)
      (use : i ∈ g.users v) (propagates : g.Propagates i) (fresh : i ∉ s.instrSet)
      (target : g.taints? i = some t) (present : g.isAbsent t = false) (new : t ∉ s.valueSet) :
      Move g s ((s.withEdge ⟨v, i, g.taints? i⟩).withValue t)

/-- Every move keeps a store well-formed. -/
theorem Move.wellFormed {s t : Store V I} (m : Move g s t) (h : s.WellFormed) :
    t.WellFormed := by
  cases m with
  | seed _ fresh => exact h.withValue_withSeed fresh
  | pop popped => exact h.pop? popped
  | mark _ _ _ fresh _ => exact h.withEdge fresh
  | spread _ _ _ fresh _ _ new => exact (h.withEdge fresh).withValue new

/-- No move loses what was listed. -/
theorem Move.extends {s t : Store V I} (m : Move g s t) : s.Extends t := by
  cases m with
  | seed _ _ => exact (extends_withValue s _).trans (extends_withSeed _ _)
  | pop popped => exact extends_pop? popped
  | mark _ _ _ _ _ => exact extends_withEdge s _
  | spread _ _ _ _ _ _ _ => exact (extends_withEdge s _).trans (extends_withValue _ _)

/-- Well-formedness along a chain of moves. -/
theorem wellFormed_of_moves {s t : Store V I} (h : s.WellFormed)
    (m : ReflTransGen (Move g) s t) : t.WellFormed := by
  induction m with
  | refl => exact h
  | tail _ m ih => exact m.wellFormed ih

theorem extends_of_moves {s t : Store V I} (m : ReflTransGen (Move g) s t) : s.Extends t := by
  induction m with
  | refl => exact Extends.refl s
  | tail _ m ih => exact ih.trans m.extends

/-! ## §2 Visits -/

variable [DecidableEq V] [DecidableEq I]

/-- Marking an instruction again changes nothing. -/
theorem mark_of_marked {s : Store V I} {i : I} (v : V) (h : i ∈ s.instrSet) :
    (s.mark g v i).store = s := by
  simp only [mark, addInstr?, if_pos h]

/-- A new mark taints the target, unless there is nothing to taint. -/
theorem mark_of_fresh {s : Store V I} {i : I} (v : V) (h : i ∉ s.instrSet) :
    TargetKnown g s i ∧ (s.mark g v i).store = s.withEdge ⟨v, i, g.taints? i⟩ ∨
      ∃ t, g.taints? i = some t ∧ g.isAbsent t = false ∧ t ∉ s.valueSet ∧
        (s.mark g v i).store = (s.withEdge ⟨v, i, g.taints? i⟩).withValue t := by
  simp only [mark, addInstr?, if_neg h, TargetKnown]
  cases ht : g.taints? i with
  | none => exact Or.inl ⟨fun t h' => (Option.some_ne_none t h'.symm).elim, rfl⟩
  | some t =>
    cases ha : g.isAbsent t with
    | true =>
      refine Or.inl ⟨?_, by simp [ha]⟩
      rintro u ⟨⟩ hu
      rw [ha] at hu
      cases hu
    | false =>
      by_cases hm : t ∈ s.valueSet
      · refine Or.inl ⟨?_, by simp [ha, addValue?, withEdge, hm]⟩
        rintro u ⟨⟩ -
        exact hm
      · exact Or.inr ⟨t, rfl, ha, hm, by simp [ha, addValue?, withEdge, hm]⟩

theorem visit_of_propagates {s : Store V I} {i : I} (v : V) (h : g.Propagates i) :
    s.visit g v i = s.mark g v i := by
  simp only [visit, show (g.kind i).policy.action = .propagate from h]

theorem visit_of_not_propagates {s : Store V I} {i : I} (v : V) (h : ¬ g.Propagates i) :
    (s.visit g v i).store = s := by
  unfold visit
  dsimp only
  split
  · next hp => exact absurd hp h
  · rfl
  · rfl
  · rfl

/-- What visiting one use does. -/
theorem visit_cases (g : UseDef V I) (s : Store V I) (v : V) (i : I) :
    ((g.Propagates i → i ∈ s.instrSet) ∧ (s.visit g v i).store = s) ∨
      (g.Propagates i ∧ i ∉ s.instrSet ∧ TargetKnown g s i ∧
        (s.visit g v i).store = s.withEdge ⟨v, i, g.taints? i⟩) ∨
      ∃ t, g.Propagates i ∧ i ∉ s.instrSet ∧ g.taints? i = some t ∧ g.isAbsent t = false ∧
        t ∉ s.valueSet ∧
        (s.visit g v i).store = (s.withEdge ⟨v, i, g.taints? i⟩).withValue t := by
  by_cases hp : g.Propagates i
  · rw [visit_of_propagates v hp]
    by_cases hm : i ∈ s.instrSet
    · exact Or.inl ⟨fun _ => hm, mark_of_marked v hm⟩
    · rcases mark_of_fresh (g := g) v hm with ⟨hk, he⟩ | ⟨t, ht, ha, hn, he⟩
      · exact Or.inr (Or.inl ⟨hp, hm, hk, he⟩)
      · exact Or.inr (Or.inr ⟨t, hp, hm, ht, ha, hn, he⟩)
  · exact Or.inl ⟨fun h => absurd h hp, visit_of_not_propagates v hp⟩

/-- Visiting a use of the value that was popped last is a move or nothing. -/
theorem visit_move {s : Store V I} {v : V} {i : I} (last : s.visited.getLast? = some v)
    (use : i ∈ g.users v) :
    (s.visit g v i).store = s ∨ Move g s (s.visit g v i).store := by
  rcases visit_cases g s v i with ⟨-, he⟩ | ⟨hp, hf, hk, he⟩ | ⟨t, hp, hf, ht, ha, hn, he⟩
  · exact Or.inl he
  · rw [he]
    exact Or.inr (Move.mark last use hp hf hk)
  · rw [he]
    exact Or.inr (Move.spread last use hp hf ht ha hn)

/-- A visit keeps a store well-formed. -/
theorem wellFormed_visit {s : Store V I} {v : V} {i : I} (h : s.WellFormed)
    (last : s.visited.getLast? = some v) (use : i ∈ g.users v) :
    (s.visit g v i).store.WellFormed := by
  rcases visit_move last use with he | m
  · rw [he]; exact h
  · exact m.wellFormed h

theorem visited_visit {s : Store V I} (h : s.WellFormed) (v : V) (i : I) :
    (s.visit g v i).store.visited = s.visited := by
  rcases visit_cases g s v i with ⟨-, he⟩ | ⟨-, -, -, he⟩ | ⟨t, -, hf, -, -, -, he⟩
  · rw [he]
  · rw [he, visited_withEdge]
  · rw [he, visited_withValue (h.withEdge hf), visited_withEdge]

theorem extends_visit (s : Store V I) (v : V) (i : I) : s.Extends (s.visit g v i).store := by
  rcases visit_cases g s v i with ⟨-, he⟩ | ⟨-, -, -, he⟩ | ⟨t, -, -, -, -, -, he⟩
  · rw [he]
    exact Extends.refl s
  · rw [he]
    exact extends_withEdge s _
  · rw [he]
    exact (extends_withEdge s _).trans (extends_withValue _ _)

theorem extends_visitAll (v : V) :
    ∀ (is : List I) (s : Store V I), s.Extends (visitAll g v s is).store := by
  intro is
  induction is with
  | nil => intro s; exact Extends.refl s
  | cons i rest ih => intro s; exact (extends_visit s v i).trans (ih _)

/-! ## §3 Steps -/

/-- A step is a pop and then the visits of the users. -/
theorem step?_cases {s : Store V I} {p : Progress V I} (h : s.step? g = some p) :
    ∃ v t, s.pop? = some (v, t) ∧ p = visitAll g v t (g.users v) := by
  unfold step? at h
  split at h
  · cases h
  · next v t hp => exact ⟨v, t, hp, (Option.some.inj h).symm⟩

/-- Where there is no further step, nothing is pending. -/
theorem step?_eq_none {s : Store V I} (h : s.WellFormed) (hs : s.step? g = none) :
    s.pendingCount = 0 := by
  unfold step? at hs
  split at hs
  · next hp => exact pop?_eq_none h hp
  · cases hs

/-- What each visit keeps, all the visits of a value keep. The value stays
the one that was popped last throughout. -/
theorem visitAll_induction {P : Store V I → Prop} {v : V}
    (visit : ∀ s i, s.WellFormed → s.visited.getLast? = some v → i ∈ g.users v → P s →
      P (s.visit g v i).store) :
    ∀ (is : List I) (s : Store V I), (∀ i ∈ is, i ∈ g.users v) → s.WellFormed →
      s.visited.getLast? = some v → P s → P (visitAll g v s is).store := by
  intro is
  induction is with
  | nil => intro s _ _ _ hs; exact hs
  | cons i rest ih =>
    intro s his h last hs
    have hi : i ∈ g.users v := his i List.mem_cons_self
    have hl : (s.visit g v i).store.visited.getLast? = some v := by
      rw [visited_visit h]; exact last
    exact ih (s.visit g v i).store (fun j hj => his j (List.mem_cons_of_mem i hj))
      (wellFormed_visit h last hi) hl (visit s i h last hi hs)

theorem visited_visitAll {s : Store V I} {v : V} (h : s.WellFormed)
    (last : s.visited.getLast? = some v) :
    (visitAll g v s (g.users v)).store.visited = s.visited :=
  visitAll_induction (P := fun t => t.visited = s.visited)
    (fun t i ht _ _ he => by rw [visited_visit ht]; exact he)
    (g.users v) s (fun _ hi => hi) h last rfl

/-- A step is made of moves. -/
theorem step?_moves {s : Store V I} {p : Progress V I} (h : s.WellFormed)
    (hs : s.step? g = some p) : ReflTransGen (Move g) s p.store := by
  obtain ⟨v, t, hp, rfl⟩ := step?_cases hs
  refine visitAll_induction (P := fun u => ReflTransGen (Move g) s u) ?_ (g.users v) t
    (fun _ hi => hi) (h.pop? hp) (getLast?_visited_pop? h hp)
    (ReflTransGen.single (Move.pop hp))
  intro u i _ last use hu
  rcases visit_move last use with he | m
  · rw [he]; exact hu
  · exact hu.tail m

theorem WellFormed.step? {s : Store V I} {p : Progress V I} (h : s.WellFormed)
    (hs : s.step? g = some p) : p.store.WellFormed :=
  wellFormed_of_moves h (step?_moves h hs)

/-- What every step keeps, any number of steps keeps. -/
theorem steps_induction {P : Store V I → Prop}
    (step : ∀ s p, s.WellFormed → P s → s.step? g = some p → P p.store) :
    ∀ (n : Nat) (s : Store V I), s.WellFormed → P s → P (steps g n s).store := by
  intro n
  induction n with
  | zero => intro s _ hs; exact hs
  | succ n ih =>
    intro s h hs
    simp only [steps]
    split
    · exact hs
    · next p hp => exact ih p.store (h.step? hp) (step s p h hs hp)

/-! ## §4 Draining -/

/-- The instructions that may still be marked. -/
def unmarked (g : UseDef V I) (s : Store V I) : List I := g.instrs.filter fun i => !s.isMarked i

omit [DecidableEq V] in
theorem length_unmarked_withEdge {s : Store V I} {e : Edge V I} (fresh : e.instr ∉ s.instrSet)
    (he : e.instr ∈ g.instrs) :
    ((s.withEdge e).unmarked g).length < (s.unmarked g).length := by
  have hf : (s.withEdge e).unmarked g = (s.unmarked g).filter fun i => i ≠ e.instr := by
    simp only [unmarked, List.filter_filter]
    refine List.filter_congr fun i _ => ?_
    simp [isMarked, withEdge]
  have hm : e.instr ∈ s.unmarked g := by
    simp [unmarked, isMarked, he, fresh]
  rw [hf]
  exact List.length_filter_lt_length_iff_exists.mpr ⟨e.instr, hm, by simp⟩

/-- A visit does not raise the bound on the steps that are left. -/
theorem budget_visit_le {s : Store V I} {v : V} {i : I} (h : s.WellFormed)
    (use : i ∈ g.users v) : (s.visit g v i).store.budget g ≤ s.budget g := by
  have hi := g.users_mem v i use
  rcases visit_cases g s v i with ⟨-, he⟩ | ⟨-, hf, -, he⟩ | ⟨t, -, hf, -, -, -, he⟩
  · rw [he]
  · have := length_unmarked_withEdge (e := ⟨v, i, g.taints? i⟩) hf hi
    rw [he]
    exact Nat.add_le_add_left (Nat.le_of_lt this) _
  · have hu := length_unmarked_withEdge (e := ⟨v, i, g.taints? i⟩) hf hi
    have hp := pendingCount_withValue (h.withEdge (e := ⟨v, i, g.taints? i⟩) hf) t
    rw [he]
    -- the new pending value is paid for by the instruction that was marked
    change (withValue _ t).pendingCount + ((s.withEdge _).unmarked g).length ≤
      s.pendingCount + (s.unmarked g).length
    rw [hp]
    change s.pendingCount + 1 + _ ≤ _
    omega

/-- Every step lowers the bound on the steps that are left. -/
theorem budget_step? {s : Store V I} {p : Progress V I} (h : s.WellFormed)
    (hs : s.step? g = some p) : p.store.budget g < s.budget g := by
  obtain ⟨v, t, hp, rfl⟩ := step?_cases hs
  have hpop : t.budget g < s.budget g := by
    have hu : t.unmarked g = s.unmarked g := by rw [(pop?_eq_some hp).2.2.2]; rfl
    change t.pendingCount + (t.unmarked g).length < s.pendingCount + (s.unmarked g).length
    rw [hu, pendingCount_pop? hp]
    omega
  exact visitAll_induction (P := fun u => u.budget g < s.budget g)
    (fun u i hu _ use hb => Nat.lt_of_le_of_lt (budget_visit_le hu use) hb)
    (g.users v) t (fun _ hi => hi) (h.pop? hp) (getLast?_visited_pop? h hp) hpop

/-- As many steps as the budget allows leave nothing pending. -/
theorem pendingCount_steps :
    ∀ (n : Nat) (s : Store V I), s.WellFormed → s.budget g ≤ n →
      (steps g n s).store.pendingCount = 0 := by
  intro n
  induction n with
  | zero =>
    intro s _ hb
    simp only [budget] at hb
    simp only [steps]
    omega
  | succ n ih =>
    intro s h hb
    simp only [steps]
    split
    · next hs => exact step?_eq_none h hs
    · next p hs =>
      have := budget_step? h hs
      exact ih p.store (h.step? hs) (by omega)

/-- Propagation leaves nothing pending. -/
theorem pendingCount_propagate {s : Store V I} (h : s.WellFormed) :
    (s.propagate g).store.pendingCount = 0 :=
  pendingCount_steps (s.budget g) s h (Nat.le_refl _)

/-! ## §5 Calls -/

omit [DecidableEq I] in
/-- A seed is refused, or it was tainted before, or it makes a move. -/
theorem seed_cases (g : UseDef V I) (s : Store V I) (v : Option V) :
    s.seed g v = .error .noValue ∨
      ∃ w, v = some w ∧ g.isAbsent w = false ∧
        ((w ∈ s.valueSet ∧ s.seed g v = .ok { store := s }) ∨
          (w ∉ s.valueSet ∧
            s.seed g v =
              .ok { store := (s.withValue w).withSeed w, events := [.seeded w] })) := by
  cases v with
  | none => exact Or.inl rfl
  | some w =>
    cases ha : g.isAbsent w with
    | true => exact Or.inl (by simp [seed, ha])
    | false =>
      refine Or.inr ⟨w, rfl, ha, ?_⟩
      by_cases hm : w ∈ s.valueSet
      · exact Or.inl ⟨hm, by simp [seed, ha, addValue?, hm]⟩
      · exact Or.inr ⟨hm, by simp [seed, ha, addValue?, hm]⟩

omit [DecidableEq I] in
theorem seed_ne_error {s : Store V I} {v : Option V} {e : SeedError} (h : g.IsPresent v) :
    s.seed g v ≠ .error e := by
  cases v with
  | none => exact h.elim
  | some w =>
    have ha : g.isAbsent w = false := h
    by_cases hm : w ∈ s.valueSet <;> simp [seed, ha, addValue?, hm]

omit [DecidableEq I] in
/-- What each seed keeps, seeding a list keeps, also when it is cut short. -/
theorem seedAll_induction {P : Store V I → Prop}
    (seed : ∀ s v, s.WellFormed → P s → g.isAbsent v = false → v ∉ s.valueSet →
      P ((s.withValue v).withSeed v)) :
    ∀ (vs : List (Option V)) (s : Store V I), s.WellFormed → P s →
      P (s.seedAll g vs).1.store := by
  intro vs
  induction vs with
  | nil => intro s _ hs; exact hs
  | cons v rest ih =>
    intro s h hs
    rcases seed_cases g s v with he | ⟨w, -, ha, ⟨-, he⟩ | ⟨hn, he⟩⟩
    · simp only [seedAll, he]
      exact hs
    · simp only [seedAll, he]
      exact ih s h hs
    · simp only [seedAll, he]
      exact ih _ (h.withValue_withSeed hn) (seed s w h hs ha hn)

omit [DecidableEq I] in
theorem extends_seedAll (vs : List (Option V)) {s : Store V I} (h : s.WellFormed) :
    s.Extends (s.seedAll g vs).1.store :=
  seedAll_induction (P := fun t => s.Extends t)
    (fun t v _ he _ _ => he.trans ((extends_withValue t v).trans (extends_withSeed _ v)))
    vs s h (Extends.refl s)

/-- A single seed is a list of one. -/
theorem perform_seed (s : Store V I) (v : Option V) :
    s.perform g (.seed v) = (s.seedAll g [v]).1.store := by
  simp only [perform, seedAll]
  cases s.seed g v <;> rfl

/-- What each seed and each step keeps, every call keeps. -/
theorem perform_induction {P : Store V I → Prop}
    (seed : ∀ s v, s.WellFormed → P s → g.isAbsent v = false → v ∉ s.valueSet →
      P ((s.withValue v).withSeed v))
    (step : ∀ s p, s.WellFormed → P s → s.step? g = some p → P p.store)
    {s : Store V I} (h : s.WellFormed) (hs : P s) (c : EngineCall V) : P (s.perform g c) := by
  cases c with
  | seed v =>
    rw [perform_seed]
    exact seedAll_induction seed [v] s h hs
  | seedAll vs => exact seedAll_induction seed vs s h hs
  | step =>
    simp only [perform]
    split
    · next p hp => exact step s p h hs hp
    · exact hs
  | propagate => exact steps_induction step (s.budget g) s h hs

/-- Every call is a chain of moves. -/
theorem perform_moves {s : Store V I} (h : s.WellFormed) (c : EngineCall V) :
    ReflTransGen (Move g) s (s.perform g c) := by
  refine perform_induction (P := ReflTransGen (Move g) s) ?_ ?_ h ReflTransGen.refl c
  · intro t v _ hm ha hn
    exact hm.tail (Move.seed ha hn)
  · intro t p ht hm hp
    exact hm.trans (step?_moves ht hp)

theorem WellFormed.perform {s : Store V I} (h : s.WellFormed) (c : EngineCall V) :
    (s.perform g c).WellFormed :=
  wellFormed_of_moves h (perform_moves h c)

/-- What every call keeps, a run keeps. -/
theorem run_induction {P : Store V I → Prop}
    (call : ∀ s c, s.WellFormed → P s → P (s.perform g c)) :
    ∀ (calls : List (EngineCall V)) (s : Store V I), s.WellFormed → P s →
      P (s.run g calls) := by
  intro calls
  induction calls with
  | nil => intro s _ hs; exact hs
  | cons c rest ih => intro s h hs; exact ih (s.perform g c) (h.perform c) (call s c h hs)

theorem WellFormed.run {s : Store V I} (h : s.WellFormed) (calls : List (EngineCall V)) :
    (s.run g calls).WellFormed :=
  run_induction (fun _ c _ ht => ht.perform c) calls s h h

theorem extends_run (calls : List (EngineCall V)) {s : Store V I} (h : s.WellFormed) :
    s.Extends (s.run g calls) :=
  run_induction (P := fun t => s.Extends t)
    (fun _ c ht he => he.trans (extends_of_moves (perform_moves ht c))) calls s h
    (Extends.refl s)

/-! ### The values that a call pops -/

/-- The values popped by at most `n` steps, in the order in which they are
popped. -/
def taken (g : UseDef V I) : Nat → Store V I → List V
  | 0, _ => []
  | n + 1, s =>
    match s.pop? with
    | none => []
    | some (v, t) => v :: taken g n (visitAll g v t (g.users v)).store

/-- The values popped by a call. -/
def takenBy (g : UseDef V I) (s : Store V I) : EngineCall V → List V
  | .seed _ | .seedAll _ => []
  | .step => taken g 1 s
  | .propagate => taken g (s.budget g) s

/-- Steps visit the values that they take, in order. -/
theorem visited_steps :
    ∀ (n : Nat) (s : Store V I), s.WellFormed →
      (steps g n s).store.visited = s.visited ++ taken g n s := by
  intro n
  induction n with
  | zero => intro s _; simp [steps, taken]
  | succ n ih =>
    intro s h
    cases hp : s.pop? with
    | none => simp [steps, taken, step?, hp]
    | some vt =>
      obtain ⟨v, t⟩ := vt
      have hs : s.step? g = some (visitAll g v t (g.users v)) := by simp only [step?, hp]
      have hv := visited_visitAll (g := g) (h.pop? hp) (getLast?_visited_pop? h hp)
      simp only [steps, taken, hs, hp]
      rw [ih _ (h.step? hs), hv, visited_pop? h hp, List.append_assoc, List.singleton_append]

omit [DecidableEq I] in
theorem visited_seedAll (vs : List (Option V)) {s : Store V I} (h : s.WellFormed) :
    (s.seedAll g vs).1.store.visited = s.visited :=
  seedAll_induction (P := fun t => t.visited = s.visited)
    (fun _ v ht he _ _ => (visited_withValue ht v).trans he) vs s h rfl

/-- The popped values after a call are those before it and those that the call
popped. -/
theorem visited_perform {s : Store V I} (h : s.WellFormed) (c : EngineCall V) :
    (s.perform g c).visited = s.visited ++ s.takenBy g c := by
  cases c with
  | seed v =>
    rw [perform_seed, visited_seedAll [v] h]
    exact (List.append_nil _).symm
  | seedAll vs => exact (visited_seedAll vs h).trans (List.append_nil _).symm
  | step =>
    have h1 := visited_steps (g := g) 1 s h
    rw [takenBy, ← h1]
    simp only [perform, steps]
    cases s.step? g <;> rfl
  | propagate => exact visited_steps (s.budget g) s h

end Store

end ArgTaint
