/-
ArgTaint.Proofs.Engine.Termination — how many steps an engine makes.

The queue grows while it is drained, so its length says nothing about the
number of steps that are left. What counts is that a value is popped once: the
steps that succeed are as many as the values that they pop, and these are the
values that were pending at the start or have been tainted since.

  §1 Counting     — `StepsTo`, `stepCount`, `stepsDuring`: steps that succeed,
                    with no bound on their number, up to a bound, and in calls.
  §2 Conservation — steps made and values pending are the values tainted.
  §3 Propagation  — the steps of `propagate` are all the steps there are, and
                    they pop what was pending or is newly tainted.
  §4 Rest         — with nothing pending, calls that hand over nothing new
                    change nothing.
-/
import ArgTaint.Proofs.Engine.Closure

namespace ArgTaint.Store

variable {V I : Type} [DecidableEq V] [DecidableEq I] {g : UseDef V I}

/-! ## §1 Counting -/

/-- `t` is reached from `s` by exactly `n` steps, each of which succeeds. -/
inductive StepsTo (g : UseDef V I) : Nat → Store V I → Store V I → Prop where
  | refl (s : Store V I) : StepsTo g 0 s s
  | head {n : Nat} {s t : Store V I} {p : Progress V I} (first : s.step? g = some p)
      (rest : StepsTo g n p.store t) : StepsTo g (n + 1) s t

/-- The number of steps that succeed when at most `bound` are tried, up to the
first that does not. -/
def stepCount (g : UseDef V I) : Nat → Store V I → Nat
  | 0, _ => 0
  | bound + 1, s =>
    match s.step? g with
    | none => 0
    | some p => stepCount g bound p.store + 1

/-- The number of steps that succeed during a call. -/
def stepsOf (g : UseDef V I) (s : Store V I) : EngineCall V → Nat
  | .seed _ | .seedAll _ => 0
  | .step => stepCount g 1 s
  | .propagate => stepCount g (s.budget g) s

def stepsDuring (g : UseDef V I) : Store V I → List (EngineCall V) → Nat
  | _, [] => 0
  | s, c :: rest => s.stepsOf g c + stepsDuring g (s.perform g c) rest

/-- Steps up to a bound are steps. -/
theorem stepsTo_steps :
    ∀ (bound : Nat) (s : Store V I),
      StepsTo g (stepCount g bound s) s (steps g bound s).store := by
  intro bound
  induction bound with
  | zero => intro s; exact .refl s
  | succ bound ih =>
    intro s
    cases hs : s.step? g with
    | none =>
      simp only [stepCount, steps, hs]
      exact .refl s
    | some p =>
      simp only [stepCount, steps, hs]
      exact .head hs (ih p.store)

/-- A step has one outcome, so no steps go past a store that has none. -/
theorem StepsTo.le_of_step?_eq_none {m n : Nat} {s t u : Store V I} (hm : StepsTo g m s u)
    (hn : StepsTo g n s t) (stuck : t.step? g = none) : m ≤ n := by
  induction hm generalizing n with
  | refl s => exact Nat.zero_le n
  | @head m s u p first rest ih =>
    cases hn with
    | refl =>
      rw [stuck] at first
      cases first
    | head first' rest' =>
      rw [first] at first'
      cases first'
      exact Nat.succ_le_succ (ih rest')

/-- Each step that succeeds pops one value. -/
theorem length_taken : ∀ (n : Nat) (s : Store V I), (taken g n s).length = stepCount g n s := by
  intro n
  induction n with
  | zero => intro s; rfl
  | succ n ih =>
    intro s
    cases hp : s.pop? with
    | none => simp only [taken, stepCount, step?, hp, List.length_nil]
    | some vt =>
      simp only [taken, stepCount, step?, hp, List.length_cons]
      rw [ih]

theorem length_takenBy (s : Store V I) (c : EngineCall V) :
    (s.takenBy g c).length = s.stepsOf g c := by
  cases c with
  | seed v => rfl
  | seedAll vs => rfl
  | step => exact length_taken 1 s
  | propagate => exact length_taken (s.budget g) s

/-! ## §2 Conservation -/

omit [DecidableEq V] [DecidableEq I] in
/-- A tainted value has been visited or is pending. -/
theorem length_visited {s : Store V I} (h : s.WellFormed) :
    s.visited.length + s.pendingCount = s.values.length := by
  have hq := congrArg List.length h.queue
  simp only [List.length_drop, List.length_map, List.rtake] at hq
  simp only [visited, List.rdrop, List.length_take, pendingCount] at hq ⊢
  omega

/-- Each step visits one value. -/
theorem length_visited_run :
    ∀ (calls : List (EngineCall V)) (s : Store V I), s.WellFormed →
      (s.run g calls).visited.length = s.visited.length + stepsDuring g s calls := by
  intro calls
  induction calls with
  | nil => intro s _; rfl
  | cons c rest ih =>
    intro s h
    have hc : (s.perform g c).visited.length = s.visited.length + s.stepsOf g c := by
      rw [visited_perform h, List.length_append, length_takenBy]
    change ((s.perform g c).run g rest).visited.length = _
    rw [ih _ (h.perform c), hc, stepsDuring, Nat.add_assoc]

/-- From the empty store on, a tainted value is pending or has been popped by
a step of its own. -/
theorem stepsDuring_add_pendingCount (calls : List (EngineCall V)) :
    stepsDuring g empty calls + ((empty : Store V I).run g calls).pendingCount =
      ((empty : Store V I).run g calls).values.length := by
  have hv := length_visited_run (g := g) calls empty wellFormed_empty
  rw [← length_visited (wellFormed_empty.run calls), hv]
  simp only [visited, empty, List.rdrop_nil, List.length_nil, Nat.zero_add]

/-! ## §3 Propagation -/

omit [DecidableEq I] [DecidableEq V] in
theorem pop?_of_pendingCount_eq_zero {s : Store V I} (idle : s.pendingCount = 0) :
    s.pop? = none := by
  have hn : s.worklist[s.head]? = none := by
    simp only [pendingCount] at idle
    exact List.getElem?_eq_none (by omega)
  simp only [pop?, hn]

theorem step?_of_pendingCount_eq_zero {s : Store V I} (idle : s.pendingCount = 0) :
    s.step? g = none := by
  simp only [step?, pop?_of_pendingCount_eq_zero idle]

/-- The popped values of a propagation complete those popped before it to all
the tainted values. -/
theorem values_propagate {s : Store V I} (h : s.WellFormed) :
    (s.propagate g).store.values = s.visited ++ taken g (s.budget g) s := by
  rw [← visited_eq_values (pendingCount_propagate h)]
  exact visited_steps (s.budget g) s h

/-- What a propagation pops was pending or is newly tainted. -/
theorem mem_taken_propagate {s : Store V I} (h : s.WellFormed) (v : V) :
    v ∈ taken g (s.budget g) s ↔
      v ∈ s.pending ∨ v ∉ s.values ∧ v ∈ (s.propagate g).store.values := by
  have ht : (s.propagate g).store.WellFormed := h.perform .propagate
  have later : s.visited ++ s.pending <+: s.visited ++ taken g (s.budget g) s := by
    rw [visited_append_pending h, ← values_propagate h]
    exact (extends_of_moves (perform_moves h .propagate)).values
  have hp : s.pending <+: taken g (s.budget g) s := (List.prefix_append_right_inj _).mp later
  have apart : ∀ w ∈ s.visited, w ∉ taken g (s.budget g) s := by
    have hd := ht.values_nodup
    rw [values_propagate h] at hd
    exact fun w hw hw' => List.disjoint_of_nodup_append hd hw hw'
  rw [values_propagate h, ← visited_append_pending h, List.mem_append, List.mem_append]
  constructor
  · intro hv
    by_cases hpend : v ∈ s.pending
    · exact Or.inl hpend
    · refine Or.inr ⟨?_, Or.inr hv⟩
      rintro (hvis | hpend')
      · exact apart v hvis hv
      · exact hpend hpend'
  · rintro (hv | ⟨hnew, hv | hv⟩)
    · exact hp.subset hv
    · exact absurd (Or.inl hv) hnew
    · exact hv

/-- Propagation takes one step for each pending or newly tainted value. -/
theorem stepCount_propagate {s : Store V I} (h : s.WellFormed) :
    stepCount g (s.budget g) s =
      {v | v ∈ s.pending ∨
        s.isTainted v = false ∧ (s.propagate g).store.isTainted v = true}.ncard := by
  have ht : (s.propagate g).store.WellFormed := h.perform .propagate
  have hset : {v | v ∈ s.pending ∨
      s.isTainted v = false ∧ (s.propagate g).store.isTainted v = true} =
        ((taken g (s.budget g) s).toFinset : Set V) := by
    ext v
    rw [Set.mem_ofPred_eq, ← Bool.not_eq_true, isTainted_iff h, isTainted_iff ht,
      List.coe_toFinset, Set.mem_ofPred_eq, mem_taken_propagate h]
  have hd : (taken g (s.budget g) s).Nodup := by
    have hd := ht.values_nodup
    rw [values_propagate h] at hd
    exact hd.of_append_right
  rw [hset, Set.ncard_coe_finset, List.toFinset_card_of_nodup hd, length_taken]

/-! ## §4 Rest -/

/-- The call hands over nothing that is not tainted already. -/
def IsRepeat (s : Store V I) (c : EngineCall V) : Prop :=
  ∀ v ∈ c.seeds, ∃ w, v = some w ∧ s.isTainted w = true

omit [DecidableEq I] in
theorem seedAll_of_tainted {s : Store V I} :
    ∀ (vs : List (Option V)), (∀ v ∈ vs, ∃ w, v = some w ∧ s.isTainted w = true) →
      (s.seedAll g vs).1.store = s := by
  intro vs
  induction vs with
  | nil => intro _; rfl
  | cons v rest ih =>
    intro tainted
    obtain ⟨w, rfl, hw⟩ := tainted v List.mem_cons_self
    have hrest := ih fun u hu => tainted u (List.mem_cons_of_mem _ hu)
    rcases seed_cases g s (some w) with he | ⟨u, hu, -, ⟨-, he⟩ | ⟨hn, -⟩⟩
    · simp only [seedAll, he]
    · simp only [seedAll, he]
      exact hrest
    · cases hu
      exact absurd (of_decide_eq_true hw) hn

/-- At rest, a call that brings nothing new changes nothing. -/
theorem perform_of_isRepeat {s : Store V I} {c : EngineCall V} (idle : s.pendingCount = 0)
    (hc : s.IsRepeat c) : s.perform g c = s := by
  have stuck := step?_of_pendingCount_eq_zero (g := g) idle
  cases c with
  | seed v =>
    rw [perform_seed]
    exact seedAll_of_tainted [v] hc
  | seedAll vs => exact seedAll_of_tainted vs hc
  | step => simp only [perform, stuck]
  | propagate =>
    simp only [perform, propagate]
    cases s.budget g with
    | zero => rfl
    | succ n => simp only [steps, stuck]

/-- At rest, calls that bring nothing new change nothing. -/
theorem run_of_isRepeat {s : Store V I} (idle : s.pendingCount = 0) :
    ∀ calls : List (EngineCall V), (∀ c ∈ calls, s.IsRepeat c) → s.run g calls = s := by
  intro calls
  induction calls with
  | nil => intro _; rfl
  | cons c rest ih =>
    intro hall
    change (s.perform g c).run g rest = s
    rw [perform_of_isRepeat idle (hall c List.mem_cons_self)]
    exact ih fun d hd => hall d (List.mem_cons_of_mem c hd)

/-- **Propagation terminates**, on every function and from every store that
calls lead to. It makes as many steps as there are values that are pending or
become tainted, no more can be made, and then there is no step. A run that
ends with nothing pending has made one step per tainted value, and calls that
hand over nothing new leave its store as it is. -/
theorem propagate_terminates (g : UseDef V I) (calls : List (EngineCall V)) :
    let s := (empty : Store V I).run g calls
    let t := (s.propagate g).store
    (∃ n, StepsTo g n s t ∧ t.step? g = none ∧ (∀ m u, StepsTo g m s u → m ≤ n) ∧
      n = {v | v ∈ s.pending ∨ s.isTainted v = false ∧ t.isTainted v = true}.ncard) ∧
    (s.pendingCount = 0 → stepsDuring g empty calls = s.values.length) ∧
    stepsDuring g empty (calls ++ [.propagate]) = t.values.length ∧
    ∀ more, (∀ c ∈ more, t.IsRepeat c) → t.run g more = t := by
  intro s t
  have h : s.WellFormed := wellFormed_empty.run calls
  have idle : t.pendingCount = 0 := pendingCount_propagate h
  have stuck : t.step? g = none := step?_of_pendingCount_eq_zero idle
  have reached : StepsTo g (stepCount g (s.budget g) s) s t := stepsTo_steps (s.budget g) s
  refine ⟨⟨_, reached, stuck, ?_, stepCount_propagate h⟩, ?_, ?_, run_of_isRepeat idle⟩
  · exact fun m u hm => hm.le_of_step?_eq_none reached stuck
  · intro hs
    have hc := stepsDuring_add_pendingCount (g := g) calls
    rwa [show ((empty : Store V I).run g calls).pendingCount = 0 from hs] at hc
  · have hc := stepsDuring_add_pendingCount (g := g) (calls ++ [.propagate])
    have ht : (empty : Store V I).run g (calls ++ [.propagate]) = t := by
      rw [run, List.foldl_append]
      rfl
    rwa [ht, idle] at hc

/-- Two seeds are pending when the loop through memory is drained; two more
values become tainted on the way. -/
theorem propagate_terminates_memoryLoop :
    let calls : List (EngineCall Build.Value) :=
      [.seed (some (.param 0)), .seed none, .seed (some (.param 1)), .propagate]
    ((empty : Store Build.Value Nat).run Build.memoryLoop.view calls).pendingCount = 0 ∧
      stepsDuring Build.memoryLoop.view (empty : Store Build.Value Nat) calls =
        ((empty : Store Build.Value Nat).run Build.memoryLoop.view calls).values.length ∧
      ((empty : Store Build.Value Nat).run Build.memoryLoop.view calls).values.length = 4 := by
  intro calls
  have idle :
      ((empty : Store Build.Value Nat).run Build.memoryLoop.view calls).pendingCount = 0 := by
    decide
  exact ⟨idle, (propagate_terminates Build.memoryLoop.view calls).2.1 idle, by decide⟩

end ArgTaint.Store
