/-
ArgTaint.Proofs.Workbench — engines on functions that grow.

The engine reads a function only while a call runs, so what its calls keep for
every function they keep when the function changes between them.

* `Workbench.run_induction` — what engine calls keep whatever the function is,
  all calls keep.
* `Workbench.store_representation` — the fields of the store agree after any
  calls, values are popped in the order in which they were tainted, and the
  lists of the store only grow at the end.
-/
import ArgTaint.Workbench
import ArgTaint.Proofs.Engine.Moves

namespace ArgTaint.Workbench

/-- What engine calls keep, whatever the function is, all calls keep. -/
theorem run_induction {P : Store Build.Value Nat → Prop}
    (call : ∀ (b : Build) s c, s.WellFormed → P s → P (s.perform b.view c)) :
    ∀ (calls : List Call) (w : Workbench), w.store.WellFormed → P w.store →
      P (w.run calls).store := by
  intro calls
  induction calls with
  | nil => intro w _ hw; exact hw
  | cons c rest ih =>
    intro w h hw
    cases c with
    | build c => exact ih (w.perform (.build c)) h hw
    | engine c =>
      exact ih (w.perform (.engine c)) (h.perform c) (call w.build w.store c h hw)

theorem wellFormed_run (calls : List Call) {w : Workbench} (h : w.store.WellFormed) :
    (w.run calls).store.WellFormed :=
  run_induction (fun _ _ c _ hs => hs.perform c) calls w h h

theorem extends_perform {w : Workbench} (h : w.store.WellFormed) (c : Call) :
    w.store.Extends (w.perform c).store := by
  cases c with
  | build c => exact Store.Extends.refl _
  | engine c => exact Store.extends_of_moves (Store.perform_moves h c)

/-- The values popped by a call. -/
def takenBy (w : Workbench) : Call → List Build.Value
  | .build _ => []
  | .engine c => w.store.takenBy w.build.view c

def taken (w : Workbench) : List Call → List Build.Value
  | [] => []
  | c :: rest => w.takenBy c ++ (w.perform c).taken rest

/-- A call visits the values that it takes. -/
theorem visited_perform {w : Workbench} (h : w.store.WellFormed) (c : Call) :
    (w.perform c).store.visited = w.store.visited ++ w.takenBy c := by
  cases c with
  | build c => exact (List.append_nil _).symm
  | engine c => exact Store.visited_perform h c

/-- Calls visit the values that they take, in order. -/
theorem visited_run :
    ∀ (calls : List Call) (w : Workbench), w.store.WellFormed →
      (w.run calls).store.visited = w.store.visited ++ w.taken calls := by
  intro calls
  induction calls with
  | nil => intro w _; exact (List.append_nil _).symm
  | cons c rest ih =>
    intro w h
    have hc : (w.perform c).store.WellFormed := wellFormed_run [c] h
    have hrun : (w.run (c :: rest)).store = ((w.perform c).run rest).store := rfl
    rw [hrun, ih (w.perform c) hc, visited_perform h c, List.append_assoc]
    rfl

/-- **The fields of a store stay in step** through any calls to the engine,
refused ones included, and any calls that build the function in between. What
has been popped and what is pending are the tainted values, in order; and a
further call only adds to the ends of the lists. -/
theorem store_representation (name : String) (params : List String) (calls : List Call) :
    let w := (new name params).run calls
    w.store.WellFormed ∧ w.store.seeds.Nodup ∧
      (new name params).taken calls ++ w.store.pending = w.store.values ∧
      ∀ c, w.store.Extends (w.perform c).store := by
  intro w
  have hw : w.store.WellFormed := wellFormed_run calls Store.wellFormed_empty
  refine ⟨hw, hw.values_nodup.sublist hw.seeds_sublist, ?_, extends_perform hw⟩
  have hv : w.store.visited = (new name params).taken calls :=
    visited_run calls (new name params) Store.wellFormed_empty
  rw [← hv]
  exact Store.visited_append_pending hw

end ArgTaint.Workbench
