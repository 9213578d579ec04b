/-
ArgTaint.Proofs.Parallel — a pool of workers maps, whatever the schedule.

The invariant of a pool has two sides. The producer, the workers, the closer
and the collector agree with the channels and the wait group (`Coordinated`),
and every index of an item is in exactly one place: with the producer, with a
worker, or filled in among the results (`Tracked`). From the first it follows
that no move fails and that a move is possible until all have ended, from the
second that nothing is delivered twice and that the results are right.

  §1 Places    — the indices on their way, the moves that are left.
  §2 Moves     — `Step`: what a move does; it takes one of the moves left and
                 keeps an index in one place.
  §3 Invariant — `Coordinated` and `Tracked`, at the start and after a move.
  §4 Faults    — a move of a coordinated pool does not fail.
  §5 Progress  — the scheduled move is possible until the pool is final.
  §6 Runs      — any moves, one after the other; the final results.
-/
import ArgTaint.Parallel
import Mathlib

namespace ArgTaint.Parallel

variable {α β : Type}

/-! ## §1 Places -/

namespace Worker

/-- The index of the item that the worker has. -/
def index? : Worker α β → Option Nat
  | .waiting => none
  | .computing k _ => some k
  | .delivering k _ => some k

/-- The number of moves that the worker makes when no item is handed to it. -/
def movesLeft : Worker α β → Nat
  | .waiting => 1
  | .computing _ _ => 3
  | .delivering _ _ => 2

/-- What the worker has belongs to its index. -/
def Agrees (f : α → β) (items : List α) : Worker α β → Prop
  | .waiting => True
  | .computing k x => items[k]? = some x
  | .delivering k y => (items.map f)[k]? = some y

end Worker

namespace Pool

variable {f : α → β} {items : List α} {p q : Pool α β} {m : Move}

/-- The indices that have not been delivered. -/
def pending (p : Pool α β) : List Nat :=
  p.todo.map Prod.fst ++ p.workers.filterMap Worker.index?

/-- The number of moves until all have ended. -/
def movesLeft (p : Pool α β) : Nat :=
  3 * p.todo.length + (p.workers.map Worker.movesLeft).sum +
    p.producing.toNat + p.closing.toNat + p.collecting.toNat

/-- The index that a move delivers to the collector. -/
def delivers? (p : Pool α β) : Move → Option Nat
  | .deliver w => p.workers[w]?.bind fun
    | .delivering k _ => some k
    | _ => none
  | _ => none

/-- All have ended. -/
structure IsFinal (p : Pool α β) : Prop where
  todo : p.todo = []
  producing : p.producing = false
  workers : p.workers = []
  closing : p.closing = false
  collecting : p.collecting = false

/-- At the start no index has been delivered. -/
theorem pending_start (items : List α) (workers : Int) :
    (start items workers : Pool α β).pending = List.range items.length := by
  have hw : (List.replicate (max workers.toNat 1) Worker.waiting).filterMap
      (Worker.index? (α := α) (β := β)) = [] := by
    simp [Worker.index?]
  simp only [pending, start, hw, List.append_nil]
  exact List.map_fst_zip (by simp)

/-- An item takes three moves; the workers, the producer, the closer and the
collector end once. -/
theorem movesLeft_start (items : List α) (workers : Int) :
    (start items workers : Pool α β).movesLeft =
      3 * items.length + max workers.toNat 1 + 3 := by
  simp [movesLeft, start, Worker.movesLeft]

/-! ## §2 Moves -/

/-- What a move that does not fail does, with its conditions. -/
inductive Step (f : α → β) (p : Pool α β) : Move → Pool α β → Prop where
  | hand {w k : Nat} {x : α} {rest : List (Nat × α)} (todo : p.todo = (k, x) :: rest)
      (isOpen : p.inputOpen = true) (worker : p.workers[w]? = some .waiting) :
      Step f p (.hand w) { p with todo := rest, workers := p.workers.set w (.computing k x) }
  | compute {w k : Nat} {x : α} (worker : p.workers[w]? = some (.computing k x)) :
      Step f p (.compute w) { p with workers := p.workers.set w (.delivering k (f x)) }
  | deliver {w k : Nat} {y : β} (worker : p.workers[w]? = some (.delivering k y))
      (isOpen : p.outputOpen = true) (collecting : p.collecting = true)
      (slot : k < p.results.length) :
      Step f p (.deliver w)
        { p with workers := p.workers.set w .waiting, results := p.results.set k (some y) }
  | closeInput (producing : p.producing = true) (todo : p.todo = [])
      (isOpen : p.inputOpen = true) :
      Step f p .closeInput { p with producing := false, inputOpen := false }
  | finish {w n : Nat} (worker : p.workers[w]? = some .waiting) (closed : p.inputOpen = false)
      (signedIn : p.waitGroup = n + 1) :
      Step f p (.finish w) { p with workers := p.workers.eraseIdx w, waitGroup := n }
  | closeOutput (closing : p.closing = true) (deserted : p.waitGroup = 0)
      (isOpen : p.outputOpen = true) :
      Step f p .closeOutput { p with closing := false, outputOpen := false }
  | stop (collecting : p.collecting = true) (closed : p.outputOpen = false) :
      Step f p .stop { p with collecting := false }

/-- A move that does not fail is a step. -/
theorem step_of_after? (h : p.after? f m = some (.ok q)) : Step f p m q := by
  cases m with
  | hand w =>
    simp only [after?] at h
    split at h
    · cases h
    · next k x rest todo =>
      split at h
      · next isOpen =>
        split at h
        · next worker =>
          cases h
          exact .hand todo isOpen worker
        · cases h
      · cases h
  | compute w =>
    simp only [after?] at h
    split at h
    · next k x worker =>
      cases h
      exact .compute worker
    · cases h
  | deliver w =>
    simp only [after?, Bool.not_eq_true'] at h
    split at h
    · next k y worker =>
      split at h
      · cases h
      · next isOpen =>
        split at h
        · cases h
        · next collecting =>
          split at h
          · next slot =>
            cases h
            exact .deliver worker (Bool.not_eq_false _ ▸ isOpen)
              (Bool.not_eq_false _ ▸ collecting) slot
          · cases h
    · cases h
  | closeInput =>
    simp only [after?, Bool.and_eq_true, List.isEmpty_iff] at h
    split at h
    · next ready =>
      split at h
      · next isOpen =>
        cases h
        exact .closeInput ready.1 ready.2 isOpen
      · cases h
    · cases h
  | finish w =>
    simp only [after?] at h
    split at h
    · next worker =>
      split at h
      · cases h
      · next closed =>
        split at h
        · cases h
        · next n signedIn =>
          cases h
          exact .finish worker (Bool.not_eq_true _ ▸ closed) signedIn
    · cases h
  | closeOutput =>
    simp only [after?, Bool.and_eq_true, beq_iff_eq] at h
    split at h
    · next ready =>
      split at h
      · next isOpen =>
        cases h
        exact .closeOutput ready.1 ready.2 isOpen
      · cases h
    · cases h
  | stop =>
    simp only [after?, Bool.and_eq_true, Bool.not_eq_true'] at h
    split at h
    · next ready =>
      cases h
      exact .stop ready.1 ready.2
    · cases h

/-- A step is a move that does not fail. -/
theorem Step.after? (s : Step f p m q) : p.after? f m = some (.ok q) := by
  cases s with
  | hand todo isOpen worker => simp [Pool.after?, todo, isOpen, worker]
  | compute worker => simp [Pool.after?, worker]
  | deliver worker isOpen collecting slot =>
    simp [Pool.after?, worker, isOpen, collecting, slot]
  | closeInput producing todo isOpen => simp [Pool.after?, producing, todo, isOpen]
  | finish worker closed signedIn => simp [Pool.after?, worker, closed, signedIn]
  | closeOutput closing deserted isOpen => simp [Pool.after?, closing, deserted, isOpen]
  | stop collecting closed => simp [Pool.after?, collecting, closed]

/-- A worker and the others. -/
theorem workers_perm {l : List (Worker α β)} {w : Nat} {a : Worker α β} (h : l[w]? = some a) :
    l.Perm (a :: l.eraseIdx w) := by
  obtain ⟨hlt, rfl⟩ := List.getElem?_eq_some_iff.mp h
  exact (List.getElem_cons_eraseIdx_perm hlt).symm

/-- A worker that goes on, and the others. -/
theorem set_workers_perm {l : List (Worker α β)} {w : Nat} {a : Worker α β} (h : l[w]? = some a)
    (b : Worker α β) : (l.set w b).Perm (b :: l.eraseIdx w) :=
  List.set_perm_cons_eraseIdx (List.getElem?_eq_some_iff.mp h).1 b

/-- A move takes one of the moves that are left. -/
theorem Step.movesLeft (s : Step f p m q) : q.movesLeft + 1 = p.movesLeft := by
  have sum_eq {l l' : List (Worker α β)} (h : l.Perm l') :
      (l.map Worker.movesLeft).sum = (l'.map Worker.movesLeft).sum := (h.map _).sum_nat
  cases s with
  | hand todo _ worker =>
    simp only [Pool.movesLeft, todo, sum_eq (workers_perm worker),
      sum_eq (set_workers_perm worker _), List.map_cons, List.sum_cons, List.length_cons,
      Worker.movesLeft]
    omega
  | compute worker =>
    simp only [Pool.movesLeft, sum_eq (workers_perm worker), sum_eq (set_workers_perm worker _),
      List.map_cons, List.sum_cons, Worker.movesLeft]
    omega
  | deliver worker _ _ _ =>
    simp only [Pool.movesLeft, sum_eq (workers_perm worker), sum_eq (set_workers_perm worker _),
      List.map_cons, List.sum_cons, Worker.movesLeft]
    omega
  | closeInput producing _ _ =>
    simp only [Pool.movesLeft, producing, Bool.toNat_true, Bool.toNat_false]
    omega
  | finish worker _ _ =>
    simp only [Pool.movesLeft, sum_eq (workers_perm worker), List.map_cons, List.sum_cons,
      Worker.movesLeft]
    omega
  | closeOutput closing _ _ =>
    simp only [Pool.movesLeft, closing, Bool.toNat_true, Bool.toNat_false]
    omega
  | stop collecting _ =>
    simp only [Pool.movesLeft, collecting, Bool.toNat_true, Bool.toNat_false]

/-- A move delivers an index that was pending, and keeps the others pending. -/
theorem Step.pending_perm (s : Step f p m q) :
    ((p.delivers? m).toList ++ q.pending).Perm p.pending := by
  have index_perm {l l' : List (Worker α β)} (h : l.Perm l') :
      (l.filterMap Worker.index?).Perm (l'.filterMap Worker.index?) := h.filterMap _
  cases s with
  | @hand w k x rest todo _ worker =>
    have before := index_perm (workers_perm worker)
    have after := index_perm (set_workers_perm worker (.computing k x))
    simp only [Pool.pending, delivers?, todo, List.map_cons, Option.toList_none,
      List.nil_append]
    exact ((after.trans (before.symm.cons k)).append_left _).trans List.perm_middle
  | @compute w k x worker =>
    have before := index_perm (workers_perm worker)
    have after := index_perm (set_workers_perm worker (.delivering k (f x)))
    simp only [Pool.pending, delivers?, Option.toList_none, List.nil_append]
    exact (after.trans before.symm).append_left _
  | @deliver w k y worker _ _ _ =>
    have before := index_perm (workers_perm worker)
    have after := index_perm (set_workers_perm worker .waiting)
    simp only [Pool.pending, delivers?, worker, Option.bind_some, Option.toList_some,
      List.singleton_append]
    exact ((after.append_left _).cons k).trans
      (List.perm_middle.symm.trans (before.symm.append_left _))
  | closeInput _ _ _ => exact .refl _
  | finish worker _ _ => exact (index_perm (workers_perm worker)).symm.append_left _
  | closeOutput _ _ _ => exact .refl _
  | stop _ _ => exact .refl _

/-! ## §3 Invariant -/

/-- The parties agree with the channels and the wait group. -/
structure Coordinated (p : Pool α β) : Prop where
  waitGroup : p.waitGroup = p.workers.length
  producer : p.producing = p.inputOpen
  closer : p.closing = p.outputOpen
  /-- The input is closed when all the items have been handed over. -/
  handedOver : p.inputOpen = false → p.todo = []
  /-- Workers end only when the input is closed. -/
  staffed : p.inputOpen = true → p.workers ≠ []
  /-- The output is closed when all the workers have ended. -/
  deserted : p.outputOpen = false → p.workers = []
  /-- The collector stops when the output is closed. -/
  collected : p.collecting = false → p.outputOpen = false

/-- Every index is in one place, with what belongs to it. -/
structure Tracked (f : α → β) (items : List α) (p : Pool α β) : Prop where
  todo : ∀ (k : Nat) x, (k, x) ∈ p.todo → items[k]? = some x
  workers : ∀ w ∈ p.workers, w.Agrees f items
  length_results : p.results.length = items.length
  results : ∀ (k : Nat) y, p.results[k]? = some (some y) → (items.map f)[k]? = some y
  pending_nodup : p.pending.Nodup
  mem_pending : ∀ k, k ∈ p.pending ↔ p.results[k]? = some none

theorem coordinated_start (items : List α) (workers : Int) :
    (start items workers : Pool α β).Coordinated where
  waitGroup := by simp [start]
  producer := rfl
  closer := rfl
  handedOver h := by cases h
  staffed _ := by
    simp only [start, ne_eq, List.replicate_eq_nil_iff]
    omega
  deserted h := by cases h
  collected h := by cases h

theorem tracked_start (f : α → β) (items : List α) (workers : Int) :
    (start items workers).Tracked f items where
  todo k x h := by
    obtain ⟨i, hi⟩ := List.mem_iff_getElem?.mp h
    obtain ⟨hk, hx⟩ := List.getElem?_zip_eq_some.mp hi
    obtain ⟨hlt, rfl⟩ := List.getElem?_eq_some_iff.mp hk
    rwa [List.getElem_range]
  workers w h := by
    rw [List.eq_of_mem_replicate h]
    trivial
  length_results := List.length_replicate
  results k y h := by
    simp [start, List.getElem?_replicate] at h
  pending_nodup := by
    rw [pending_start]
    exact List.nodup_range
  mem_pending k := by
    rw [pending_start]
    simp [start, List.getElem?_replicate]

/-- Every move keeps the parties coordinated. -/
theorem Step.coordinated (s : Step f p m q) (h : p.Coordinated) : q.Coordinated := by
  have set_ne_nil {w : Nat} {a : Worker α β} (hn : p.workers ≠ []) :
      p.workers.set w a ≠ [] := by
    simpa using hn
  -- a worker that moves shows that the output is open
  have occupied {w : Nat} {a : Worker α β} (worker : p.workers[w]? = some a) :
      p.outputOpen ≠ false := by
    intro closed
    rw [h.deserted closed] at worker
    cases worker
  cases s with
  | hand todo isOpen worker =>
    exact { h with
      waitGroup := h.waitGroup.trans List.length_set.symm
      handedOver := fun closed => absurd (isOpen.symm.trans closed) (by decide)
      staffed := fun hopen => set_ne_nil (h.staffed hopen)
      deserted := fun closed => absurd closed (occupied worker) }
  | compute worker =>
    exact { h with
      waitGroup := h.waitGroup.trans List.length_set.symm
      staffed := fun hopen => set_ne_nil (h.staffed hopen)
      deserted := fun closed => absurd closed (occupied worker) }
  | deliver worker _ _ _ =>
    exact { h with
      waitGroup := h.waitGroup.trans List.length_set.symm
      staffed := fun hopen => set_ne_nil (h.staffed hopen)
      deserted := fun closed => absurd closed (occupied worker) }
  | closeInput _ todo _ =>
    exact { h with
      producer := rfl
      handedOver := fun _ => todo
      staffed := fun hopen => by cases hopen }
  | @finish w n worker closed signedIn =>
    have hlt := (List.getElem?_eq_some_iff.mp worker).1
    exact { h with
      waitGroup := by
        have hl := h.waitGroup
        simp only [List.length_eraseIdx, hlt, if_true]
        omega
      staffed := fun hopen => absurd (hopen.symm.trans closed) (by decide)
      deserted := fun hclosed => absurd hclosed (occupied worker) }
  | closeOutput _ deserted _ =>
    exact { h with
      closer := rfl
      deserted := fun _ => List.eq_nil_of_length_eq_zero (h.waitGroup.symm.trans deserted)
      collected := fun _ => rfl }
  | stop _ closed => exact { h with collected := fun _ => closed }

/-- A worker that goes on with what belongs to its index. -/
theorem Tracked.set_workers (h : p.Tracked f items) (w : Nat) {b : Worker α β}
    (hb : b.Agrees f items) : ∀ a ∈ p.workers.set w b, a.Agrees f items := by
  intro a ha
  rcases List.mem_or_eq_of_mem_set ha with ha | rfl
  · exact h.workers a ha
  · exact hb

/-- A move that delivers nothing leaves the indices where they are. -/
theorem Step.mem_pending_iff (s : Step f p m q) (none : p.delivers? m = none) (k : Nat) :
    k ∈ q.pending ↔ k ∈ p.pending := by
  have hp := s.pending_perm
  rw [none] at hp
  exact hp.mem_iff

/-- Every move keeps every index in one place. -/
theorem Step.tracked (s : Step f p m q) (h : p.Tracked f items) : q.Tracked f items := by
  have nodup : q.pending.Nodup :=
    List.Nodup.of_append_right (s.pending_perm.nodup_iff.mpr h.pending_nodup)
  have same := s.mem_pending_iff
  have perm := s.pending_perm
  cases s with
  | @hand w k x rest todo _ worker =>
    have hx : items[k]? = some x := h.todo k x (by rw [todo]; exact List.mem_cons_self)
    exact { h with
      todo := fun j y hj => h.todo j y (by rw [todo]; exact List.mem_cons_of_mem _ hj)
      workers := h.set_workers w hx
      pending_nodup := nodup
      mem_pending := fun j => (same rfl j).trans (h.mem_pending j) }
  | @compute w k x worker =>
    have hx : items[k]? = some x := h.workers _ (List.mem_of_getElem? worker)
    exact { h with
      workers := h.set_workers w (by
        simp only [Worker.Agrees, List.getElem?_map, hx, Option.map_some])
      pending_nodup := nodup
      mem_pending := fun j => (same rfl j).trans (h.mem_pending j) }
  | @deliver w k y worker _ _ slot =>
    have hy : (items.map f)[k]? = some y := h.workers _ (List.mem_of_getElem? worker)
    simp only [delivers?, worker, Option.bind_some, Option.toList_some,
      List.singleton_append] at perm
    have gone : k ∉ _ := (List.nodup_cons.mp (perm.nodup_iff.mpr h.pending_nodup)).1
    exact {
      todo := h.todo
      workers := h.set_workers w trivial
      length_results := List.length_set.trans h.length_results
      results := by
        intro j z hj
        by_cases hjk : k = j
        · subst hjk
          rw [List.getElem?_set_self slot] at hj
          cases hj
          exact hy
        · rw [List.getElem?_set_ne hjk] at hj
          exact h.results j z hj
      pending_nodup := nodup
      mem_pending := by
        intro j
        by_cases hjk : k = j
        · subst hjk
          simp only [gone, List.getElem?_set_self slot, false_iff]
          exact fun hs => by cases hs
        · rw [List.getElem?_set_ne hjk, ← h.mem_pending j, ← perm.mem_iff, List.mem_cons]
          simp only [Ne.symm hjk, false_or] }
  | closeInput _ _ _ => exact { h with }
  | finish worker _ _ =>
    exact { h with
      workers := fun a ha => h.workers a (List.mem_of_mem_eraseIdx ha)
      pending_nodup := nodup
      mem_pending := fun j => (same rfl j).trans (h.mem_pending j) }
  | closeOutput _ _ _ => exact { h with }
  | stop _ _ => exact { h with }

/-! ## §4 Faults -/

/-- The slot of a result that a worker delivers is there. -/
theorem Tracked.slot (h : p.Tracked f items) {w k : Nat} {y : β}
    (worker : p.workers[w]? = some (.delivering k y)) : k < p.results.length := by
  have hk : k ∈ p.pending :=
    List.mem_append_right _ (List.mem_filterMap.mpr ⟨_, List.mem_of_getElem? worker, rfl⟩)
  exact (List.getElem?_eq_some_iff.mp ((h.mem_pending k).mp hk)).1

/-- The output is open as long as there is a worker. -/
theorem Coordinated.outputOpen (c : p.Coordinated) {w : Nat} {a : Worker α β}
    (worker : p.workers[w]? = some a) : p.outputOpen = true := by
  by_contra hclosed
  rw [c.deserted (Bool.not_eq_true _ ▸ hclosed)] at worker
  cases worker

/-- No move fails. -/
theorem after?_ne_error (c : p.Coordinated) (t : p.Tracked f items) (m : Move) (e : Fault) :
    p.after? f m ≠ some (.error e) := by
  intro h
  cases m with
  | hand w =>
    simp only [after?] at h
    split at h
    · cases h
    · next k x rest todo =>
      split at h
      · split at h <;> cases h
      · next closed =>
        rw [c.handedOver (Bool.not_eq_true _ ▸ closed)] at todo
        cases todo
  | compute w =>
    simp only [after?] at h
    split at h <;> cases h
  | deliver w =>
    simp only [after?] at h
    split at h
    · next k y worker =>
      simp only [c.outputOpen worker, Bool.not_true, Bool.false_eq_true, if_false,
        if_pos (t.slot worker)] at h
      split at h <;> cases h
    · cases h
  | closeInput =>
    simp only [after?, c.producer, Bool.and_eq_true] at h
    split at h
    · next ready =>
      rw [if_pos ready.1] at h
      cases h
    · cases h
  | finish w =>
    simp only [after?] at h
    split at h
    · next worker =>
      split at h
      · cases h
      · split at h
        · next empty =>
          have hl := (List.getElem?_eq_some_iff.mp worker).1
          rw [← c.waitGroup, empty] at hl
          cases hl
        · cases h
    · cases h
  | closeOutput =>
    simp only [after?, c.closer, Bool.and_eq_true] at h
    split at h
    · next ready =>
      rw [if_pos ready.1] at h
      cases h
    · cases h
  | stop =>
    simp only [after?] at h
    split at h <;> cases h

/-! ## §5 Progress -/

/-- The first worker can go on, when the input is closed in case it waits. -/
theorem exists_after?_firstMove (c : p.Coordinated) (t : p.Tracked f items) {a : Worker α β}
    (first : p.workers[0]? = some a) (closed : a = .waiting → p.inputOpen = false) :
    ∃ q, p.after? f a.firstMove = some (.ok q) := by
  have hopen := c.outputOpen first
  cases a with
  | waiting =>
    have hl := (List.getElem?_eq_some_iff.mp first).1
    obtain ⟨n, hn⟩ : ∃ n, p.waitGroup = n + 1 := Nat.exists_eq_add_one.mpr (c.waitGroup ▸ hl)
    exact ⟨_, (Step.finish first (closed rfl) hn).after?⟩
  | computing k x => exact ⟨_, (Step.compute first).after?⟩
  | delivering k y =>
    have hcollect : p.collecting = true := by
      by_contra hstopped
      rw [c.collected (Bool.not_eq_true _ ▸ hstopped)] at hopen
      cases hopen
    exact ⟨_, (Step.deliver first hopen hcollect (t.slot first)).after?⟩

/-- While items are left, the next move can be made. -/
theorem exists_after?_of_todo (c : p.Coordinated) (t : p.Tracked f items)
    (producing : p.producing = true) {k : Nat} {x : α} {rest : List (Nat × α)}
    (todo : p.todo = (k, x) :: rest) :
    ∃ m q, p.next? = some m ∧ p.after? f m = some (.ok q) := by
  have hopen : p.inputOpen = true := c.producer ▸ producing
  simp only [next?, producing, todo, List.isEmpty_cons, Bool.false_eq_true, if_true, if_false]
  cases hw : p.workers.findIdx? Worker.isWaiting with
  | some w =>
    obtain ⟨hlt, hwait, -⟩ := List.findIdx?_eq_some_iff_getElem.mp hw
    have worker : p.workers[w]? = some .waiting := by
      rw [List.getElem?_eq_getElem hlt]
      cases ha : p.workers[w] with
      | waiting => rfl
      | computing i y => rw [ha] at hwait; cases hwait
      | delivering i y => rw [ha] at hwait; cases hwait
    exact ⟨.hand w, _, rfl, (Step.hand todo hopen worker).after?⟩
  | none =>
    cases hws : p.workers with
    | nil => exact absurd hws (c.staffed hopen)
    | cons a others =>
      have first : p.workers[0]? = some a := by rw [hws]; rfl
      have busy : a ≠ .waiting := by
        rintro rfl
        have hall := List.findIdx?_eq_none_iff.mp hw .waiting (List.mem_of_getElem? first)
        cases hall
      obtain ⟨q, hq⟩ := exists_after?_firstMove c t first fun hwait => absurd hwait busy
      exact ⟨a.firstMove, q, rfl, hq⟩

/-- Until all have ended, the next move of the schedule is possible. -/
theorem exists_after?_next? (c : p.Coordinated) (t : p.Tracked f items) :
    p.IsFinal ∨ ∃ m q, p.next? = some m ∧ p.after? f m = some (.ok q) := by
  cases producing : p.producing with
  | true =>
    right
    cases todo : p.todo with
    | cons kx rest => exact exists_after?_of_todo c t producing todo
    | nil =>
      have hopen : p.inputOpen = true := c.producer ▸ producing
      exact ⟨.closeInput, _, by simp [next?, producing, todo],
        (Step.closeInput producing todo hopen).after?⟩
  | false =>
    have closed : p.inputOpen = false := c.producer ▸ producing
    cases hws : p.workers with
    | cons a others =>
      have first : p.workers[0]? = some a := by rw [hws]; rfl
      obtain ⟨q, hq⟩ := exists_after?_firstMove c t first fun _ => closed
      exact Or.inr ⟨a.firstMove, q, by simp [next?, producing, hws], hq⟩
    | nil =>
      have deserted : p.waitGroup = 0 := by rw [c.waitGroup, hws]; rfl
      cases closing : p.closing with
      | true =>
        have hopen : p.outputOpen = true := c.closer ▸ closing
        exact Or.inr ⟨.closeOutput, _, by simp [next?, producing, hws, closing],
          (Step.closeOutput closing deserted hopen).after?⟩
      | false =>
        have hclosed : p.outputOpen = false := c.closer ▸ closing
        cases collecting : p.collecting with
        | true =>
          exact Or.inr ⟨.stop, _, by simp [next?, producing, hws, closing, collecting],
            (Step.stop collecting hclosed).after?⟩
        | false => exact Or.inl ⟨c.handedOver closed, producing, hws, closing, collecting⟩

/-! ## §6 Runs -/

/-- Moves that are made one after the other, and the indices that they
deliver, in order. -/
inductive Run (f : α → β) : Pool α β → List Move → List Nat → Pool α β → Prop where
  | done (p : Pool α β) : Run f p [] [] p
  | move {p q r : Pool α β} {m : Move} {moves : List Move} {delivered : List Nat}
      (first : p.after? f m = some (.ok q)) (rest : Run f q moves delivered r) :
      Run f p (m :: moves) ((p.delivers? m).toList ++ delivered) r

variable {moves : List Move} {delivered : List Nat}

/-- Moves keep the parties coordinated and the indices tracked. -/
theorem Run.invariant (r : Run f p moves delivered q) (c : p.Coordinated)
    (t : p.Tracked f items) : q.Coordinated ∧ q.Tracked f items := by
  induction r with
  | done p => exact ⟨c, t⟩
  | move first _ ih =>
    have s := step_of_after? first
    exact ih (s.coordinated c) (s.tracked t)

/-- A run takes as many of the moves left as it has moves. -/
theorem Run.movesLeft (r : Run f p moves delivered q) :
    q.movesLeft + moves.length = p.movesLeft := by
  induction r with
  | done p => rfl
  | move first _ ih =>
    rw [← (step_of_after? first).movesLeft, ← ih, List.length_cons, Nat.add_assoc]

/-- What a run delivers and what is pending after it was pending before. -/
theorem Run.pending_perm (r : Run f p moves delivered q) :
    (delivered ++ q.pending).Perm p.pending := by
  induction r with
  | done p => exact .refl _
  | @move p q r m moves delivered first _ ih =>
    rw [List.append_assoc]
    exact (ih.append_left _).trans (step_of_after? first).pending_perm

/-- The results are complete and right when all have ended. -/
theorem IsFinal.results (e : p.IsFinal) (t : p.Tracked f items) :
    p.results = (items.map f).map some := by
  have none_pending : p.pending = [] := by
    rw [pending, e.todo, e.workers]
    rfl
  apply List.ext_getElem?
  intro k
  cases hk : p.results[k]? with
  | none =>
    have hle : items.length ≤ k := t.length_results ▸ List.getElem?_eq_none_iff.mp hk
    rw [List.getElem?_eq_none (by simpa using hle)]
  | some slot =>
    cases slot with
    | none =>
      have hp := (t.mem_pending k).mpr hk
      rw [none_pending] at hp
      cases hp
    | some y => rw [List.getElem?_map, t.results k y hk, Option.map_some]

/-- As many moves as are left end in a final pool. -/
theorem isFinal_run :
    ∀ (bound : Nat) (p : Pool α β), p.Coordinated → p.Tracked f items → p.movesLeft ≤ bound →
      (p.run f bound).IsFinal ∧ (p.run f bound).Tracked f items := by
  intro bound
  induction bound with
  | zero =>
    intro p c t hle
    rcases exists_after?_next? c t with e | ⟨m, q, -, hq⟩
    · exact ⟨e, t⟩
    · have := (step_of_after? hq).movesLeft
      omega
  | succ bound ih =>
    intro p c t hle
    rcases exists_after?_next? c t with e | ⟨m, q, hm, hq⟩
    · have stuck : p.advance? f = none := by
        simp [advance?, next?, e.producing, e.workers, e.closing, e.collecting]
      simp only [run, stuck]
      exact ⟨e, t⟩
    · have s := step_of_after? hq
      have hadv : p.advance? f = some q := by simp only [advance?, hm, Option.bind_some, hq]
      have := s.movesLeft
      simp only [run, hadv]
      exact ih q (s.coordinated c) (s.tracked t) (by omega)

/-- What the schedule does is a run. -/
theorem exists_run (f : α → β) :
    ∀ (bound : Nat) (p : Pool α β), ∃ moves delivered,
      Run f p moves delivered (p.run f bound) := by
  intro bound
  induction bound with
  | zero => exact fun p => ⟨[], [], .done p⟩
  | succ bound ih =>
    intro p
    simp only [run]
    split
    · next q hq =>
      obtain ⟨moves, delivered, rest⟩ := ih q
      simp only [advance?] at hq
      split at hq
      · next r hr =>
        cases hq
        obtain ⟨m, -, first⟩ := Option.bind_eq_some_iff.mp hr
        exact ⟨_, _, .move first rest⟩
      · cases hq
    · exact ⟨[], [], .done p⟩

/-- A pool that has ended has the images of the items as its results. -/
theorem Run.results {workers : Int} (r : Run f (.start items workers) moves delivered q)
    (e : q.IsFinal) : q.results.filterMap id = items.map f := by
  obtain ⟨-, t⟩ := r.invariant (coordinated_start items workers) (tracked_start f items workers)
  rw [e.results t, List.filterMap_map]
  exact List.filterMap_some

end Pool

/-- The scheduled pool maps. -/
theorem map_eq_map (f : α → β) (items : List α) (workers : Int) :
    map f items workers = items.map f := by
  have hbound : (Pool.start items workers : Pool α β).movesLeft ≤
      3 * items.length + (Pool.start items workers : Pool α β).workers.length + 3 := by
    rw [Pool.movesLeft_start]
    simp [Pool.start]
  obtain ⟨e, t⟩ := Pool.isFinal_run _ _ (Pool.coordinated_start items workers)
    (Pool.tracked_start f items workers) hbound
  rw [map, e.results t, List.filterMap_map]
  exact List.filterMap_some

/-- **A pool maps, whatever the interleaving of its moves.** With any number of
workers asked for, and after any moves: no index has been delivered twice, no
move fails, a move is possible unless all have ended, and the number of moves
is bounded. When all have ended the results are the images of the items, in
order; and the schedule that `map` follows ends so. -/
theorem pool_maps (f : α → β) (items : List α) (workers : Int) (moves : List Move)
    (delivered : List Nat) (p : Pool α β)
    (run : Pool.Run f (.start items workers) moves delivered p) :
    delivered.Nodup ∧
    (∀ m e, p.after? f m ≠ some (.error e)) ∧
    (p.IsFinal ∨ ∃ m q, p.after? f m = some (.ok q)) ∧
    moves.length ≤ 3 * items.length + max workers.toNat 1 + 3 ∧
    (p.IsFinal → p.results = (items.map f).map some) ∧
    map f items workers = items.map f := by
  obtain ⟨c, t⟩ := run.invariant (Pool.coordinated_start items workers)
    (Pool.tracked_start f items workers)
  refine ⟨?_, Pool.after?_ne_error c t, ?_, ?_, fun e => e.results t,
    map_eq_map f items workers⟩
  · have hp := run.pending_perm
    rw [Pool.pending_start] at hp
    exact List.Nodup.of_append_left (hp.nodup_iff.mpr List.nodup_range)
  · rcases Pool.exists_after?_next? c t with e | ⟨m, q, -, hq⟩
    · exact Or.inl e
    · exact Or.inr ⟨m, q, hq⟩
  · have hm := run.movesLeft
    rw [Pool.movesLeft_start] at hm
    omega

/-- Two workers overtake each other: the second item is delivered first. -/
theorem pool_maps_overtaking :
    ∃ p : Pool Nat Nat,
      Pool.Run (· + 1) (.start [10, 20] 2)
        [.hand 1, .hand 0, .compute 0, .deliver 0, .compute 1, .closeInput, .deliver 1,
          .finish 1, .finish 0, .closeOutput, .stop] [1, 0] p ∧
      p.IsFinal ∧ p.results = ([10, 20].map (· + 1)).map some := by
  have run : ∃ p : Pool Nat Nat,
      Pool.Run (· + 1) (.start [10, 20] 2)
        [.hand 1, .hand 0, .compute 0, .deliver 0, .compute 1, .closeInput, .deliver 1,
          .finish 1, .finish 0, .closeOutput, .stop] [1, 0] p ∧ p.IsFinal :=
    ⟨_, .move rfl (.move rfl (.move rfl (.move rfl (.move rfl (.move rfl (.move rfl (.move rfl
      (.move rfl (.move rfl (.move rfl (.done _))))))))))), ⟨rfl, rfl, rfl, rfl, rfl⟩⟩
  obtain ⟨p, r, e⟩ := run
  exact ⟨p, r, e, (pool_maps _ _ _ _ _ p r).2.2.2.2.1 e⟩

end ArgTaint.Parallel
