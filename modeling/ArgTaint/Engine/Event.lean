/-
ArgTaint.Engine.Event — what the engine has to say about a run.

Events are data; their level and wording are fixed here. They never influence
the store.
-/
import ArgTaint.UseDef
import ArgTaint.Log

namespace ArgTaint

/-- Something that happened during a run. -/
inductive Event (V I : Type) where
  /-- The value is tainted as a seed. -/
  | seeded (v : V)
  /-- The instruction is marked. -/
  | marked (i : I)
  /-- The value is tainted by a marked instruction. -/
  | tainted (v : V)
  /-- The instruction was marked before. -/
  | remarked (i : I)
  /-- The instruction is of a kind whose propagation is put off. -/
  | postponed (i : I)
  /-- The instruction is of a kind without a policy. -/
  | unhandled (i : I)
  deriving DecidableEq, Repr

namespace Event

variable {V I : Type}

def level : Event V I → Log.Level
  | .seeded _ | .marked _ | .tainted _ => .trace
  | .remarked _ | .postponed _ => .debug
  | .unhandled _ => .warn

def text (g : UseDef V I) : Event V I → String
  | .seeded v => "Seed " ++ g.name v
  | .marked i => "Taint new instruction: " ++ g.text i
  | .tainted v => "Taint new value: " ++ g.name v
  | .remarked i => "Instruction already tainted: " ++ g.text i
  | .postponed i =>
    "No propagation implemented for " ++ (g.kind i).name ++ " instructions, ignoring " ++
      g.text i
  | .unhandled i =>
    "Don't know how to handle " ++ (g.kind i).name ++ " instruction: " ++ g.text i

def entry (g : UseDef V I) (e : Event V I) : Log.Entry := ⟨e.level, e.text g⟩

end Event

end ArgTaint
