/-
ArgTaint.Engine.Propagation — tainting along use-def edges.

Seeding taints values; a step pops the oldest pending value and visits its
users; propagation repeats the step until nothing is pending.

* `Store.seed`, `Store.seedAll` — seeding; what stands for no value is refused.
* `Store.visit`, `Store.step?` — one use, and all the uses of one value.
* `Store.propagate` — steps until nothing is pending. Each step takes one
  pending value away, and a value becomes pending only with an instruction
  that was not marked before, so `Store.budget` bounds the number of steps.
-/
import ArgTaint.Engine.Store
import ArgTaint.Engine.Event

namespace ArgTaint

/-- A store, and what happened on the way to it. -/
structure Progress (V I : Type) where
  store : Store V I
  events : List (Event V I) := []
  deriving DecidableEq, Repr

/-- Why a seed is refused: there is no value to taint. -/
inductive SeedError where
  | noValue
  deriving DecidableEq, Repr

def SeedError.message : SeedError → String
  | .noValue => "taint: cannot seed a nil value"

namespace Store

variable {V I : Type} [DecidableEq V] [DecidableEq I]

/-- Taint a value as a seed. A value that is tainted already is no new
seed. -/
def seed (g : UseDef V I) (s : Store V I) (v : Option V) :
    Except SeedError (Progress V I) :=
  match v with
  | none => .error .noValue
  | some v =>
    if g.isAbsent v then .error .noValue
    else
      match s.addValue? v with
      | none => .ok { store := s }
      | some s => .ok { store := s.withSeed v, events := [.seeded v] }

/-- Seed values in order. The first refusal ends the seeding; what was seeded
before it stays. -/
def seedAll (g : UseDef V I) (s : Store V I) :
    List (Option V) → Progress V I × Option SeedError
  | [] => ({ store := s }, none)
  | v :: rest =>
    match s.seed g v with
    | .error e => ({ store := s }, some e)
    | .ok p =>
      let (q, e) := p.store.seedAll g rest
      ({ q with events := p.events ++ q.events }, e)

/-- Mark an instruction that uses the tainted value `v`, and taint its
target. -/
def mark (g : UseDef V I) (s : Store V I) (v : V) (i : I) : Progress V I :=
  let dest := g.taints? i
  match s.addInstr? ⟨v, i, dest⟩ with
  | none => { store := s, events := [.remarked i] }
  | some s =>
    match dest with
    | none => { store := s, events := [.marked i] }
    | some t =>
      if g.isAbsent t then { store := s, events := [.marked i] }
      else
        match s.addValue? t with
        | none => { store := s, events := [.marked i] }
        | some s => { store := s, events := [.marked i, .tainted t] }

/-- Visit one use of the tainted value `v`. -/
def visit (g : UseDef V I) (s : Store V I) (v : V) (i : I) : Progress V I :=
  let p := (g.kind i).policy
  match p.action with
  | .propagate => s.mark g v i
  | .ignore => { store := s, events := if p.deferred then [.postponed i] else [] }
  | .opaqueSink => { store := s }
  | _ => { store := s, events := [.unhandled i] }

def visitAll (g : UseDef V I) (v : V) : Store V I → List I → Progress V I
  | s, [] => { store := s }
  | s, i :: rest =>
    let p := s.visit g v i
    let q := visitAll g v p.store rest
    { q with events := p.events ++ q.events }

/-- Pop the oldest pending value and visit its users; none when nothing is
pending. -/
def step? (g : UseDef V I) (s : Store V I) : Option (Progress V I) :=
  match s.pop? with
  | none => none
  | some (v, s) => some (visitAll g v s (g.users v))

/-- A bound on the number of steps that are left. -/
def budget (g : UseDef V I) (s : Store V I) : Nat :=
  s.pendingCount + (g.instrs.filter fun i => !s.isMarked i).length

/-- At most `bound` steps. -/
def steps (g : UseDef V I) : Nat → Store V I → Progress V I
  | 0, s => { store := s }
  | bound + 1, s =>
    match s.step? g with
    | none => { store := s }
    | some p =>
      let q := steps g bound p.store
      { q with events := p.events ++ q.events }

/-- Steps until nothing is pending. -/
def propagate (g : UseDef V I) (s : Store V I) : Progress V I := steps g (s.budget g) s

end Store

end ArgTaint
