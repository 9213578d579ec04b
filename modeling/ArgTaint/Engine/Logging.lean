/-
ArgTaint.Engine.Logging — an engine that writes while it works.

An engine holds a logger beside its store. Whatever happens is written at
once, and only if the logger shows its level.

* `Engine`, `Engine.say` — the engine, and the entry of one event.
* `Engine.seed`, `Engine.step?`, `Engine.propagate` — seeding and propagation
  with their diagnostics.
* `Engine.perform`, `Engine.run` — what one call, or a list of calls, leaves
  behind.
-/
import ArgTaint.Engine.Call

namespace ArgTaint

/-- A store with the logger that is told what happens to it. -/
structure Engine (V I : Type) where
  logger : Log.Group := .standard
  store : Store V I := .empty
  /-- What the logger has shown, oldest first. -/
  log : List Log.Entry := []
  deriving DecidableEq, Repr

namespace Engine

variable {V I : Type} [DecidableEq V] [DecidableEq I]

def new (logger : Log.Group) : Engine V I := { logger := logger }

/-- Write what happened, if the logger shows it. -/
def say (g : UseDef V I) (e : Engine V I) (event : Event V I) : Engine V I :=
  if e.logger.shows event.level then { e with log := e.log ++ [event.entry g] } else e

/-- Taint a value as a seed. -/
def seed (g : UseDef V I) (e : Engine V I) (v : Option V) : Except SeedError (Engine V I) :=
  match v with
  | none => .error .noValue
  | some v =>
    if g.isAbsent v then .error .noValue
    else
      match e.store.addValue? v with
      | none => .ok e
      | some s => .ok (say g { e with store := s.withSeed v } (.seeded v))

/-- Seed values in order, up to the first refusal. -/
def seedAll (g : UseDef V I) (e : Engine V I) : List (Option V) → Engine V I × Option SeedError
  | [] => (e, none)
  | v :: rest =>
    match e.seed g v with
    | .error err => (e, some err)
    | .ok e => e.seedAll g rest

def mark (g : UseDef V I) (e : Engine V I) (v : V) (i : I) : Engine V I :=
  let dest := g.taints? i
  match e.store.addInstr? ⟨v, i, dest⟩ with
  | none => e.say g (.remarked i)
  | some s =>
    let e := say g { e with store := s } (.marked i)
    match dest with
    | none => e
    | some t =>
      if g.isAbsent t then e
      else
        match e.store.addValue? t with
        | none => e
        | some s => say g { e with store := s } (.tainted t)

def visit (g : UseDef V I) (v : V) (e : Engine V I) (i : I) : Engine V I :=
  let p := (g.kind i).policy
  match p.action with
  | .propagate => e.mark g v i
  | .ignore => if p.deferred then e.say g (.postponed i) else e
  | .opaqueSink => e
  | _ => e.say g (.unhandled i)

def step? (g : UseDef V I) (e : Engine V I) : Option (Engine V I) :=
  match e.store.pop? with
  | none => none
  | some (v, s) => some ((g.users v).foldl (visit g v) { e with store := s })

/-- At most `bound` steps. -/
def steps (g : UseDef V I) : Nat → Engine V I → Engine V I
  | 0, e => e
  | bound + 1, e =>
    match e.step? g with
    | none => e
    | some e => steps g bound e

def propagate (g : UseDef V I) (e : Engine V I) : Engine V I := steps g (e.store.budget g) e

def perform (g : UseDef V I) (e : Engine V I) : EngineCall V → Engine V I
  | .seed v => (e.seedAll g [v]).1
  | .seedAll vs => (e.seedAll g vs).1
  | .step => (e.step? g).getD e
  | .propagate => e.propagate g

def run (g : UseDef V I) (e : Engine V I) (calls : List (EngineCall V)) : Engine V I :=
  calls.foldl (perform g) e

end Engine

end ArgTaint
