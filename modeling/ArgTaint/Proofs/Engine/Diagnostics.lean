/-
ArgTaint.Proofs.Engine.Diagnostics — the log accounts for every use.

An engine writes while it works, and what it writes depends on its logger.
What it does to its store does not: an engine is a store that goes its own way
and a log of what the logger shows of it. With nothing left out, the log says
of each use of each tainted value what became of it, once.

  §1 Openings — the texts of events are told apart by how they begin.
  §2 Erasure  — `run_eq`: the store of an engine is what the calls make of a
                store, and its log is what the logger shows of what happened.
  §3 Tallies  — a number that grows with each event of a sort, seed by seed and
                step by step, counts these events over every run.
  §4 Uses     — one event for each use by an instruction of a sort; one for
                each instruction that is marked.
  §5 Logs     — what the log of a completed run adds up to, and what other
                loggers show of it.
-/
import ArgTaint.Engine.Logging
import ArgTaint.Proofs.Engine.Closure

namespace ArgTaint

/-! ## §1 Openings -/

/-- The levels of the entries whose text begins with the given words, in
order. -/
def Log.levelsOf (opening : String) (log : List Entry) : List Level :=
  (log.filter fun m => opening.toList <+: m.text.toList).map Entry.level

namespace Event

variable {V I : Type} {g : UseDef V I}

/-- The words with which the text of an event begins. -/
def opening : Event V I → String
  | .seeded _ => "Seed"
  | .marked _ => "Taint new instruction"
  | .tainted _ => "Taint new value"
  | .remarked _ => "Instruction already tainted"
  | .postponed _ => "No propagation implemented"
  | .unhandled _ => "Don't know how to handle"

/-- The openings of all the events, each with the level of its events. -/
def openings : List (String × Log.Level) :=
  [("Seed", .trace), ("Taint new instruction", .trace), ("Taint new value", .trace),
    ("Instruction already tainted", .debug), ("No propagation implemented", .debug),
    ("Don't know how to handle", .warn)]

/-- Every event has one of the openings, with the level of its kind. -/
theorem opening_mem (e : Event V I) : (e.opening, e.level) ∈ openings := by
  cases e <;> simp [opening, level, openings]

/-- No opening continues another one. -/
theorem openings_apart :
    ∀ o ∈ openings, ∀ o' ∈ openings, o.1.toList <+: o'.1.toList → o = o' := by
  decide

theorem prefix_append {w u : String} (h : w.toList <+: u.toList) (rest : String) :
    w.toList <+: (u ++ rest).toList := by
  rw [String.toList_append]
  exact h.trans (List.prefix_append _ _)

/-- The text of an event begins with its opening. -/
theorem opening_prefix_text (e : Event V I) : e.opening.toList <+: (e.text g).toList := by
  cases e with
  | seeded v | marked i | tainted v | remarked i =>
    rw [opening]
    exact prefix_append (by decide) _
  | postponed i | unhandled i =>
    rw [opening]
    exact prefix_append (prefix_append (prefix_append (by decide) _) _) _

def opensWith (w : String) (e : Event V I) : Bool := decide (e.opening = w)

/-- An event is recognised by the opening of its text. -/
theorem prefix_text_iff {w : String} {l : Log.Level} (hw : (w, l) ∈ openings) (e : Event V I) :
    w.toList <+: (e.text g).toList ↔ e.opening = w := by
  have own := e.opening_prefix_text (g := g)
  constructor
  · intro h
    rcases List.prefix_or_prefix_of_prefix own h with hp | hp
    · exact congrArg Prod.fst (openings_apart _ e.opening_mem _ hw hp)
    · exact (congrArg Prod.fst (openings_apart _ hw _ e.opening_mem hp)).symm
  · intro h
    exact h ▸ own

/-- Events with one opening have one level. -/
theorem level_of_opening {w : String} {l : Log.Level} (hw : (w, l) ∈ openings) {e : Event V I}
    (h : e.opening = w) : e.level = l :=
  congrArg Prod.snd (openings_apart _ e.opening_mem _ hw (h ▸ List.prefix_rfl))

/-- The entries with the opening of some events are the entries of these. -/
theorem levelsOf_entries {w : String} {l : Log.Level} (hw : (w, l) ∈ openings)
    (events : List (Event V I)) :
    Log.levelsOf w (events.map (entry g)) = List.replicate (events.countP (opensWith w)) l := by
  have hsel : (events.map (entry g)).filter (fun m => decide (w.toList <+: m.text.toList)) =
      (events.filter (opensWith w)).map (entry g) := by
    rw [List.filter_map]
    refine congrArg _ (List.filter_congr fun e _ => ?_)
    exact decide_eq_decide.mpr (prefix_text_iff hw e)
  rw [Log.levelsOf, hsel, List.map_map, List.countP_eq_length_filter]
  refine List.eq_replicate_iff.mpr ⟨List.length_map _, ?_⟩
  intro k hk
  obtain ⟨e, he, rfl⟩ := List.mem_map.mp hk
  exact level_of_opening hw (of_decide_eq_true (List.mem_filter.mp he).2)

end Event

/-! ## §2 Erasure -/

namespace Store

variable {V I : Type} [DecidableEq V] [DecidableEq I]

/-- The store that a call leaves behind, with what happens during the call. -/
def progress (g : UseDef V I) (s : Store V I) : EngineCall V → Progress V I
  | .seed v => (s.seedAll g [v]).1
  | .seedAll vs => (s.seedAll g vs).1
  | .step => steps g 1 s
  | .propagate => s.propagate g

/-- What happens during calls, one after the other. -/
def history (g : UseDef V I) : Store V I → List (EngineCall V) → List (Event V I)
  | _, [] => []
  | s, c :: rest => (s.progress g c).events ++ history g (s.perform g c) rest

/-- What a call leaves behind is the same when its events are recorded. -/
theorem progress_store (g : UseDef V I) (s : Store V I) (c : EngineCall V) :
    (s.progress g c).store = s.perform g c := by
  cases c with
  | seed v => exact (perform_seed s v).symm
  | seedAll vs => rfl
  | step =>
    simp only [progress, steps, perform]
    cases s.step? g <;> rfl
  | propagate => rfl

end Store

namespace Engine

variable {V I : Type} {g : UseDef V I}

/-- The engine after its store has moved on, with what its logger shows of
what happened. -/
def after (g : UseDef V I) (e : Engine V I) (p : Progress V I) : Engine V I where
  logger := e.logger
  store := p.store
  log := e.log ++ e.logger.visible (p.events.map (Event.entry g))

theorem after_idle (e : Engine V I) : e.after g { store := e.store } = e := by
  simp [after, Log.Group.visible]

theorem after_after (e : Engine V I) (p q : Progress V I) :
    (e.after g p).after g q = e.after g { q with events := p.events ++ q.events } := by
  simp [after, Log.Group.visible, List.append_assoc]

theorem say_eq (e : Engine V I) (s : Store V I) (event : Event V I) :
    say g { e with store := s } event = e.after g { store := s, events := [event] } := by
  cases hs : e.logger.shows event.level <;>
    simp [say, after, Log.Group.visible, Event.entry, hs]

variable [DecidableEq V] [DecidableEq I]

theorem mark_eq (e : Engine V I) (v : V) (i : I) :
    e.mark g v i = e.after g (e.store.mark g v i) := by
  unfold mark Store.mark
  dsimp only
  cases e.store.addInstr? ⟨v, i, g.taints? i⟩ with
  | none => exact say_eq e e.store (.remarked i)
  | some s =>
    dsimp only
    rw [say_eq]
    cases g.taints? i with
    | none => rfl
    | some t =>
      dsimp only [after]
      cases g.isAbsent t with
      | true => rfl
      | false =>
        cases s.addValue? t with
        | none => rfl
        | some u =>
          -- the second entry is written by an engine that has written the first
          change say g { e.after g ⟨s, [.marked i]⟩ with store := u } (.tainted t) = _
          rw [say_eq, after_after]
          rfl

theorem visit_eq (v : V) (e : Engine V I) (i : I) :
    visit g v e i = e.after g (e.store.visit g v i) := by
  unfold visit Store.visit
  dsimp only
  cases (g.kind i).policy.action with
  | propagate => exact mark_eq e v i
  | ignore =>
    cases (g.kind i).policy.deferred with
    | true => exact say_eq e e.store (.postponed i)
    | false => exact (after_idle e).symm
  | opaqueSink => exact (after_idle e).symm
  | unhandled => exact say_eq e e.store (.unhandled i)
  | other _ _ => exact say_eq e e.store (.unhandled i)

theorem foldl_visit_eq (v : V) :
    ∀ (is : List I) (e : Engine V I),
      is.foldl (visit g v) e = e.after g (Store.visitAll g v e.store is) := by
  intro is
  induction is with
  | nil => intro e; exact (after_idle e).symm
  | cons i rest ih =>
    intro e
    rw [List.foldl_cons, ih, visit_eq, after_after]
    rfl

/-- A step of the engine is a step of its store, with what is logged of it. -/
theorem step?_eq (e : Engine V I) : e.step? g = (e.store.step? g).map (e.after g) := by
  unfold step? Store.step?
  cases e.store.pop? with
  | none => rfl
  | some vs => exact congrArg some (foldl_visit_eq vs.1 (g.users vs.1) { e with store := vs.2 })

/-- Steps of the engine are steps of its store, with what is logged of them. -/
theorem steps_eq :
    ∀ (n : Nat) (e : Engine V I), steps g n e = e.after g (Store.steps g n e.store) := by
  intro n
  induction n with
  | zero => intro e; exact (after_idle e).symm
  | succ n ih =>
    intro e
    simp only [steps, Store.steps, step?_eq]
    cases e.store.step? g with
    | none => exact (after_idle e).symm
    | some p =>
      simp only [Option.map_some]
      rw [ih, after_after]
      rfl

omit [DecidableEq I] in
theorem seed_eq (e : Engine V I) (v : Option V) :
    e.seed g v = (e.store.seed g v).map (e.after g) := by
  cases v with
  | none => rfl
  | some w =>
    simp only [seed, Store.seed]
    cases g.isAbsent w with
    | true => rfl
    | false =>
      cases e.store.addValue? w with
      | none => exact congrArg Except.ok (after_idle e).symm
      | some s => exact congrArg Except.ok (say_eq e (s.withSeed w) (.seeded w))

omit [DecidableEq I] in
theorem seedAll_eq :
    ∀ (vs : List (Option V)) (e : Engine V I),
      e.seedAll g vs = (e.after g (e.store.seedAll g vs).1, (e.store.seedAll g vs).2) := by
  intro vs
  induction vs with
  | nil => intro e; exact congrArg (·, none) (after_idle e).symm
  | cons v rest ih =>
    intro e
    simp only [seedAll, Store.seedAll, seed_eq]
    cases e.store.seed g v with
    | error err => exact congrArg (·, some err) (after_idle e).symm
    | ok p =>
      simp only [Except.map]
      rw [ih, after_after]
      rfl

/-- A call to the engine is a call to its store, with what is logged of it. -/
theorem perform_eq (e : Engine V I) (c : EngineCall V) :
    e.perform g c = e.after g (e.store.progress g c) := by
  cases c with
  | seed v => exact congrArg Prod.fst (seedAll_eq [v] e)
  | seedAll vs => exact congrArg Prod.fst (seedAll_eq vs e)
  | step =>
    simp only [perform, Store.progress]
    rw [← steps_eq]
    simp only [steps]
    cases e.step? g <;> rfl
  | propagate => exact steps_eq (e.store.budget g) e

/-- The calls make of an engine what they make of its store, and the log grows
by what the logger shows of what happened. -/
theorem run_eq :
    ∀ (calls : List (EngineCall V)) (e : Engine V I),
      e.run g calls = e.after g ⟨e.store.run g calls, e.store.history g calls⟩ := by
  intro calls
  induction calls with
  | nil => intro e; exact (after_idle e).symm
  | cons c rest ih =>
    intro e
    change (e.perform g c).run g rest = _
    rw [ih, perform_eq, after_after]
    simp only [after, Store.progress_store]
    rfl

end Engine

/-! ## §3 Tallies -/

namespace Event

variable {V I : Type}

/-- The number is counted event by event. -/
def IsCount (count : List (Event V I) → Nat) : Prop :=
  ∀ a b, count (a ++ b) = count a + count b

theorem IsCount.nil {count : List (Event V I) → Nat} (h : IsCount count) : count [] = 0 := by
  have hn := h [] []
  rw [List.append_nil] at hn
  omega

theorem isCount_countP (p : Event V I → Bool) : IsCount (List.countP p) :=
  fun _ _ => List.countP_append

theorem IsCount.add {count count' : List (Event V I) → Nat} (h : IsCount count)
    (h' : IsCount count') : IsCount fun events => count events + count' events := by
  intro a b
  simp only [h a b, h' a b]
  omega

end Event

namespace Store

variable {V I : Type} [DecidableEq V] [DecidableEq I] {g : UseDef V I}

/-- The number `m` grows by what is counted in the events of each seed and of
each step. -/
structure Tallies (g : UseDef V I) (count : List (Event V I) → Nat) (m : Store V I → Nat) :
    Prop where
  isCount : Event.IsCount count
  seed : ∀ s v, s.WellFormed → v ∉ s.valueSet →
    m ((s.withValue v).withSeed v) = m s + count [.seeded v]
  step : ∀ s p, s.WellFormed → s.step? g = some p → m p.store = m s + count p.events

namespace Tallies

variable {count : List (Event V I) → Nat} {m : Store V I → Nat}

theorem still (T : Tallies g count m) (s : Store V I) : m s = m s + count [] := by
  rw [T.isCount.nil, Nat.add_zero]

/-- Seeding a list adds to the number what its events count. -/
theorem seedAll (T : Tallies g count m) :
    ∀ (vs : List (Option V)) (s : Store V I), s.WellFormed →
      m (s.seedAll g vs).1.store = m s + count (s.seedAll g vs).1.events := by
  intro vs
  induction vs with
  | nil => intro s _; exact T.still s
  | cons v rest ih =>
    intro s h
    rcases seed_cases g s v with he | ⟨w, -, -, ⟨-, he⟩ | ⟨hn, he⟩⟩
    · simp only [Store.seedAll, he]
      exact T.still s
    · simp only [Store.seedAll, he, List.nil_append]
      exact ih s h
    · simp only [Store.seedAll, he]
      rw [ih _ (h.withValue_withSeed hn), T.seed s w h hn, T.isCount, Nat.add_assoc]

/-- Steps add to the number what their events count. -/
theorem steps (T : Tallies g count m) :
    ∀ (n : Nat) (s : Store V I), s.WellFormed →
      m (Store.steps g n s).store = m s + count (Store.steps g n s).events := by
  intro n
  induction n with
  | zero => intro s _; exact T.still s
  | succ n ih =>
    intro s h
    cases hs : s.step? g with
    | none =>
      simp only [Store.steps, hs]
      exact T.still s
    | some p =>
      simp only [Store.steps, hs]
      rw [ih p.store (h.step? hs), T.step s p h hs, T.isCount, Nat.add_assoc]

/-- A call adds to the number what its events count. -/
theorem progress (T : Tallies g count m) {s : Store V I} (h : s.WellFormed) (c : EngineCall V) :
    m (s.progress g c).store = m s + count (s.progress g c).events := by
  cases c with
  | seed v => exact T.seedAll [v] s h
  | seedAll vs => exact T.seedAll vs s h
  | step => exact T.steps 1 s h
  | propagate => exact T.steps (s.budget g) s h

/-- What grows with each seed and each step counts the events of a run. -/
theorem run (T : Tallies g count m) :
    ∀ (calls : List (EngineCall V)) (s : Store V I), s.WellFormed →
      m (s.run g calls) = m s + count (s.history g calls) := by
  intro calls
  induction calls with
  | nil => intro s _; exact T.still s
  | cons c rest ih =>
    intro s h
    change m ((s.perform g c).run g rest) = _
    rw [ih _ (h.perform c), ← progress_store, T.progress h, history, T.isCount, progress_store,
      Nat.add_assoc]

end Tallies

end Store

/-! ## §4 Uses -/

/-- Only a kind that is ignored is put off. -/
theorem Kind.action_of_deferred {k : Kind} (h : k.policy.deferred = true) :
    k.policy.action = .ignore := by
  cases k <;> first | rfl | cases h

/-- The action of a kind is one of the enumeration. -/
theorem Kind.action_ne_other (k : Kind) (code : Int) (outside : code < 1 ∨ 5 ≤ code) :
    k.policy.action ≠ .other code outside := by
  cases k <;> exact nofun

namespace Store

variable {V I : Type} [DecidableEq V] [DecidableEq I] {g : UseDef V I}

/-- What there is to say about one use, and when it is said. -/
inductive Said (g : UseDef V I) (s : Store V I) (i : I) : List (Event V I) → Prop where
  | marked (propagates : g.Propagates i) (fresh : i ∉ s.instrSet) : Said g s i [.marked i]
  | spread (propagates : g.Propagates i) (fresh : i ∉ s.instrSet) (t : V) :
      Said g s i [.marked i, .tainted t]
  | remarked (propagates : g.Propagates i) (known : i ∈ s.instrSet) : Said g s i [.remarked i]
  | postponed (deferred : (g.kind i).policy.deferred = true) : Said g s i [.postponed i]
  | unhandled (unknown : (g.kind i).policy.action = .unhandled) : Said g s i [.unhandled i]
  | nothing (propagates : ¬ g.Propagates i) (deferred : (g.kind i).policy.deferred = false)
      (known : (g.kind i).policy.action ≠ .unhandled) : Said g s i []

theorem said_mark {s : Store V I} {i : I} (v : V) (h : g.Propagates i) :
    Said g s i (s.mark g v i).events := by
  by_cases hm : i ∈ s.instrSet
  · simp only [mark, addInstr?, if_pos hm]
    exact .remarked h hm
  · simp only [mark, addInstr?, if_neg hm]
    split
    · exact .marked h hm
    · split
      · exact .marked h hm
      · split
        · exact .marked h hm
        · exact .spread h hm _

/-- What is said during a visit is what there is to say about the use. -/
theorem said_visit (s : Store V I) (v : V) (i : I) : Said g s i (s.visit g v i).events := by
  by_cases hp : g.Propagates i
  · rw [visit_of_propagates v hp]
    exact said_mark v hp
  · unfold visit
    dsimp only
    split
    · next ha => exact absurd ha hp
    · next ha =>
      split
      · next hd => exact .postponed hd
      · next hd => exact .nothing hp (Bool.eq_false_iff.mpr hd) (by rw [ha]; exact nofun)
    · next ha =>
      refine .nothing hp (Bool.eq_false_iff.mpr fun hd => ?_) (by rw [ha]; exact nofun)
      rw [Kind.action_of_deferred hd] at ha
      cases ha
    · next hne hni hno =>
      -- no kind has an action outside the enumeration
      refine .unhandled ?_
      cases ha : (g.kind i).policy.action with
      | propagate => exact absurd ha hne
      | ignore => exact absurd ha hni
      | opaqueSink => exact absurd ha hno
      | unhandled => rfl
      | other code outside => exact absurd ha (Kind.action_ne_other _ code outside)

namespace Said

variable {s : Store V I} {i : I} {events : List (Event V I)}

omit [DecidableEq V] [DecidableEq I]

/-- A use of an unhandled kind is reported once. -/
theorem countP_unhandled (h : Said g s i events) :
    events.countP (Event.opensWith "Don't know how to handle") =
      if (g.kind i).policy.action = .unhandled then 1 else 0 := by
  have hd := Kind.action_of_deferred (k := g.kind i)
  cases h <;> simp_all [UseDef.Propagates, Event.opensWith, Event.opening]

/-- A use of a postponed kind is reported once. -/
theorem countP_postponed (h : Said g s i events) :
    events.countP (Event.opensWith "No propagation implemented") =
      if (g.kind i).policy.deferred = true then 1 else 0 := by
  have hd := Kind.action_of_deferred (k := g.kind i)
  cases h <;> simp_all [UseDef.Propagates, Event.opensWith, Event.opening]

/-- A use of a propagating kind is reported once, as new or as known. -/
theorem countP_propagated (h : Said g s i events) :
    events.countP (Event.opensWith "Taint new instruction") +
        events.countP (Event.opensWith "Instruction already tainted") =
      if g.Propagates i then 1 else 0 := by
  have hd := Kind.action_of_deferred (k := g.kind i)
  cases h <;> simp_all [UseDef.Propagates, Event.opensWith, Event.opening]

/-- The first use of an instruction that propagates is reported as new. -/
theorem countP_marked [DecidableEq I] (h : Said g s i events) :
    events.countP (Event.opensWith "Taint new instruction") =
      if g.Propagates i ∧ i ∉ s.instrSet then 1 else 0 := by
  have hd := Kind.action_of_deferred (k := g.kind i)
  cases h <;> simp_all [UseDef.Propagates, Event.opensWith, Event.opening]

end Said

/-- What is counted once for each use of a sort is counted as often as there
are such uses. -/
theorem count_visitAll {count : List (Event V I) → Nat} {q : I → Prop} [DecidablePred q]
    (hc : Event.IsCount count)
    (visit : ∀ (s : Store V I) v i, count (s.visit g v i).events = if q i then 1 else 0)
    (v : V) : ∀ (is : List I) (s : Store V I),
      count (visitAll g v s is).events = is.countP fun i => decide (q i) := by
  intro is
  induction is with
  | nil => intro s; exact hc.nil
  | cons i rest ih =>
    intro s
    simp only [visitAll]
    rw [hc, visit, ih, List.countP_cons, Nat.add_comm]
    simp only [decide_eq_true_eq]

/-- A value is popped once, and then each of its uses is visited once. -/
theorem tallies_uses {count : List (Event V I) → Nat} {q : I → Prop} [DecidablePred q]
    (hc : Event.IsCount count)
    (seeded : ∀ v, count [.seeded v] = 0)
    (visit : ∀ (s : Store V I) v i, count (s.visit g v i).events = if q i then 1 else 0) :
    Tallies g count fun s => (s.visited.flatMap g.users).countP fun i => decide (q i) where
  isCount := hc
  seed s v h _ := by
    change ((s.withValue v).visited.flatMap g.users).countP _ = _
    rw [visited_withValue h, seeded, Nat.add_zero]
  step s p h hs := by
    obtain ⟨v, t, hp, rfl⟩ := step?_cases hs
    -- the visits add no popped value, so the users counted are those of `v`
    rw [visited_visitAll (h.pop? hp) (getLast?_visited_pop? h hp), visited_pop? h hp,
      count_visitAll hc visit, List.flatMap_append, List.countP_append, List.flatMap_singleton]

theorem length_instrs_visit (s : Store V I) (v : V) (i : I) :
    (s.visit g v i).store.instrs.length =
      s.instrs.length +
        (s.visit g v i).events.countP (Event.opensWith "Taint new instruction") := by
  rw [(said_visit s v i).countP_marked]
  rcases visit_cases g s v i with ⟨hk, he⟩ | ⟨hp, hf, -, he⟩ | ⟨t, hp, hf, -, -, -, he⟩
  · rw [he, if_neg fun h => h.2 (hk h.1), Nat.add_zero]
  · rw [he, if_pos ⟨hp, hf⟩]
    exact List.length_append
  · rw [he, if_pos ⟨hp, hf⟩]
    exact List.length_append

/-- An instruction that is marked is announced. -/
theorem tallies_marked :
    Tallies g (List.countP (Event.opensWith "Taint new instruction")) fun s =>
      s.instrs.length where
  isCount := Event.isCount_countP _
  seed s v _ _ := rfl
  step s p _ hs := by
    obtain ⟨v, t, hp, rfl⟩ := step?_cases hs
    have visits : ∀ (is : List I) (u : Store V I), (visitAll g v u is).store.instrs.length =
        u.instrs.length +
          (visitAll g v u is).events.countP (Event.opensWith "Taint new instruction") := by
      intro is
      induction is with
      | nil => intro u; rfl
      | cons i rest ih =>
        intro u
        simp only [visitAll]
        rw [ih, length_instrs_visit, List.countP_append, Nat.add_assoc]
    have ht : t.instrs = s.instrs := by rw [(pop?_eq_some hp).2.2.2]
    rw [visits, ht]

/-- At rest, the uses of a sort are those of all the tainted values. -/
theorem count_history {count : List (Event V I) → Nat} {q : I → Prop} [DecidablePred q]
    (hc : Event.IsCount count)
    (seeded : ∀ v, count [.seeded v] = 0)
    (visit : ∀ (s : Store V I) v i, count (s.visit g v i).events = if q i then 1 else 0)
    (calls : List (EngineCall V)) (idle : ((empty : Store V I).run g calls).pendingCount = 0) :
    count ((empty : Store V I).history g calls) =
      (((empty : Store V I).run g calls).values.flatMap g.users).countP fun i =>
        decide (q i) := by
  have hr := (tallies_uses hc seeded visit).run calls empty wellFormed_empty
  rw [visited_eq_values idle] at hr
  rw [hr]
  simp [visited, empty]

section Completed

variable {calls : List (EngineCall V)}
  (idle : ((empty : Store V I).run g calls).pendingCount = 0)

include idle

/-- Each use of a tainted value by an instruction of an unhandled kind is
reported. -/
theorem countP_unhandled_history :
    ((empty : Store V I).history g calls).countP (Event.opensWith "Don't know how to handle") =
      (((empty : Store V I).run g calls).values.flatMap g.users).countP
        fun i => (g.kind i).policy.action = .unhandled :=
  count_history (q := fun i => (g.kind i).policy.action = .unhandled) (Event.isCount_countP _)
    (fun _ => rfl) (fun s v i => (said_visit s v i).countP_unhandled) calls idle

/-- Each use of a tainted value by an instruction of a postponed kind is
reported. -/
theorem countP_postponed_history :
    ((empty : Store V I).history g calls).countP
    (Event.opensWith "No propagation implemented") =
      (((empty : Store V I).run g calls).values.flatMap g.users).countP
        fun i => (g.kind i).policy.deferred = true :=
  count_history (q := fun i => (g.kind i).policy.deferred = true) (Event.isCount_countP _)
    (fun _ => rfl) (fun s v i => (said_visit s v i).countP_postponed) calls idle

/-- A use by a propagating instruction marks it or finds it marked. -/
theorem countP_propagated_history :
    ((empty : Store V I).history g calls).countP (Event.opensWith "Taint new instruction") +
        ((empty : Store V I).history g calls).countP
          (Event.opensWith "Instruction already tainted") =
      (((empty : Store V I).run g calls).values.flatMap g.users).countP fun i =>
        g.Propagates i :=
  count_history (q := g.Propagates) ((Event.isCount_countP _).add (Event.isCount_countP _))
    (fun _ => rfl) (fun s v i => (said_visit s v i).countP_propagated) calls idle

end Completed

/-- New instructions are reported as often as instructions are marked. -/
theorem countP_marked_history (calls : List (EngineCall V)) :
    ((empty : Store V I).history g calls).countP (Event.opensWith "Taint new instruction") =
      {i | ((empty : Store V I).run g calls).isMarked i = true}.ncard := by
  have h : ((empty : Store V I).run g calls).WellFormed := wellFormed_empty.run calls
  have hset : {i | ((empty : Store V I).run g calls).isMarked i = true} =
      (((empty : Store V I).run g calls).instrs.toFinset : Set I) := by
    ext i
    rw [Set.mem_ofPred_eq, isMarked_iff h, List.coe_toFinset, Set.mem_ofPred_eq]
  rw [hset, Set.ncard_coe_finset, List.toFinset_card_of_nodup h.instrs_nodup,
    tallies_marked.run calls empty wellFormed_empty]
  exact (Nat.zero_add _).symm

end Store

/-! ## §5 Logs -/

namespace Engine

variable {V I : Type} [DecidableEq V] [DecidableEq I]

/-- The store of an engine does not depend on its logger. -/
theorem store_run (g : UseDef V I) (logger : Log.Group) (calls : List (EngineCall V)) :
    ((new logger : Engine V I).run g calls).store = (Store.empty : Store V I).run g calls := by
  rw [run_eq]
  rfl

/-- The log shows what happened, as far as the logger shows it. -/
theorem log_run (g : UseDef V I) (logger : Log.Group) (calls : List (EngineCall V)) :
    ((new logger : Engine V I).run g calls).log =
      logger.visible (((Store.empty : Store V I).history g calls).map (Event.entry g)) := by
  rw [run_eq]
  rfl

/-- At the highest level, with warnings, everything is shown. -/
theorem log_run_full (g : UseDef V I) (calls : List (EngineCall V)) :
    ((new ⟨5, false⟩ : Engine V I).run g calls).log =
      ((Store.empty : Store V I).history g calls).map (Event.entry g) := by
  rw [log_run]
  refine List.filter_eq_self.mpr fun m _ => ?_
  cases m.level <;> rfl

/-- **The log accounts for every use, and writing it changes nothing.** On
every function and after any calls that leave nothing pending, an engine that
shows everything has said of each use by an instruction without a policy, and
of each use by one that is put off, that it is skipped; it has announced each
marked instruction once and has reported all the other uses by propagating
instructions as repeated. The same calls leave an engine with another logger
with the same store, and with the same entries but those above its level and
silenced warnings. -/
theorem log_accounts_for_uses (g : UseDef V I) (calls : List (EngineCall V)) :
    let e := (new ⟨5, false⟩ : Engine V I).run g calls
    let uses := e.store.values.flatMap g.users
    let marked := {i | e.store.isMarked i = true}.ncard
    (e.store.pendingCount = 0 →
      Log.levelsOf "Don't know how to handle" e.log =
        List.replicate (uses.countP fun i => (g.kind i).policy.action = .unhandled) .warn ∧
      Log.levelsOf "No propagation implemented" e.log =
        List.replicate (uses.countP fun i => (g.kind i).policy.deferred = true) .debug ∧
      Log.levelsOf "Taint new instruction" e.log = List.replicate marked .trace ∧
      ∃ repeated, Log.levelsOf "Instruction already tainted" e.log =
          List.replicate repeated .debug ∧
        marked + repeated = uses.countP fun i => g.Propagates i) ∧
    ∀ logger : Log.Group,
      let f := (new logger : Engine V I).run g calls
      f.store = e.store ∧
        f.log = e.log.filter fun m =>
          m.level.threshold ≤ logger.level ∧
            (m.level = .warn → logger.silenceWarn = false) := by
  intro e uses marked
  have hs : e.store = (Store.empty : Store V I).run g calls := store_run g _ calls
  have hl : e.log = ((Store.empty : Store V I).history g calls).map (Event.entry g) :=
    log_run_full g calls
  refine ⟨fun idle => ?_, fun logger => ⟨?_, ?_⟩⟩
  · rw [hs] at idle
    have unhandled := Store.countP_unhandled_history idle
    have deferred := Store.countP_postponed_history idle
    have propagated := Store.countP_propagated_history idle
    have hm := Store.countP_marked_history (g := g) calls
    rw [← hs] at unhandled deferred propagated hm
    rw [hm] at propagated
    rw [hl]
    refine ⟨?_, ?_, ?_, _, Event.levelsOf_entries (by decide) _, propagated⟩
    · rw [← unhandled]
      exact Event.levelsOf_entries (by decide) _
    · rw [← deferred]
      exact Event.levelsOf_entries (by decide) _
    · rw [show marked = _ from hm.symm]
      exact Event.levelsOf_entries (by decide) _
  · rw [hs]
    exact store_run g logger calls
  · rw [hl]
    refine (log_run g logger calls).trans (List.filter_congr fun m _ => ?_)
    simp [Log.Group.shows]

end Engine

/-- A function with a cycle, a selection that uses a value twice, and two
instructions of kinds without a policy. -/
def Build.tangle : Build :=
  (Build.new "f" ["x"]).run
    [.newBlock, .newConst "1",
      .emit 0 .binaryOp "a" [some (.param 0)],
      .emit 0 .binaryOp "b" [some (.instr 0), some (.const 0)],
      .addOperand 0 (some (.instr 1)),
      .emit 0 .select "c" [some (.instr 1), some (.instr 0), some (.instr 0)],
      .emitVoid 0 .unknown [some (.instr 1), some (.param 0)],
      .emitVoid 0 (.other 40 (by decide)) [some (.instr 2), some (.param 0)]]

/-- Going round the cycle is reported; what uses the selection is not. -/
theorem Engine.log_accounts_for_uses_tangle :
    let calls : List (EngineCall Build.Value) :=
      [.seed (some (.param 0)), .step, .seedAll [none, some (.const 0)], .propagate]
    let e := (new ⟨5, false⟩ : Engine Build.Value Nat).run Build.tangle.view calls
    e.store.pendingCount = 0 ∧
      Log.levelsOf "Don't know how to handle" e.log = [.warn, .warn, .warn] ∧
      Log.levelsOf "No propagation implemented" e.log = [.debug, .debug, .debug] ∧
      (∃ repeated, Log.levelsOf "Instruction already tainted" e.log =
        List.replicate repeated .debug ∧ {i | e.store.isMarked i = true}.ncard + repeated = 3) ∧
      ((new ⟨4, true⟩ : Engine Build.Value Nat).run Build.tangle.view calls).store =
        e.store := by
  intro calls e
  have idle : e.store.pendingCount = 0 := by decide
  obtain ⟨counts, loggers⟩ := log_accounts_for_uses Build.tangle.view calls
  obtain ⟨unhandled, deferred, -, repeated, hr, total⟩ := counts idle
  refine ⟨idle, unhandled.trans (by decide), deferred.trans (by decide),
    ⟨repeated, hr, total.trans (by decide)⟩, (loggers ⟨4, true⟩).1⟩

end ArgTaint
