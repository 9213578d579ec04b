/-
ArgTaint.Engine.Store — what has been tainted so far.

A store holds the tainted values and the marked instructions in the order in
which they were found, the edge that explains each marked instruction, the
seeds, and a queue of the values whose users are still to be visited. What is
tainted or marked is also kept as a set, which is what membership is asked of.

* `Store.addValue?`, `Store.addInstr?` — mark before enqueue: a value or an
  instruction enters once.
* `Store.pop?` — the pending value that was tainted first. Taking a value
  clears its slot and moves the head on; a queue whose last slot is taken
  starts over at position zero.
-/

namespace ArgTaint

/-- Why an instruction is marked: `source` is tainted and used by `instr`, so
`dest` is tainted too, when there is such a value. -/
structure Edge (V I : Type) where
  source : V
  instr : I
  dest : Option V
  deriving DecidableEq, Repr

/-- The state of the taint engine. -/
structure Store (V I : Type) where
  /-- The tainted values, oldest first. -/
  values : List V := []
  /-- The tainted values as a set; the order means nothing. -/
  valueSet : List V := []
  /-- The marked instructions, oldest first. -/
  instrs : List I := []
  /-- The marked instructions as a set; the order means nothing. -/
  instrSet : List I := []
  /-- One edge per marked instruction. -/
  edges : List (Edge V I) := []
  /-- The values that were tainted by seeding. -/
  seeds : List V := []
  /-- The queue. The slots before the head are cleared; the values from there
  on are still to be visited, oldest first. -/
  worklist : List (Option V) := []
  /-- The position of the next value to take. -/
  head : Nat := 0
  deriving DecidableEq, Repr

namespace Store

variable {V I : Type} [DecidableEq V] [DecidableEq I]

def empty : Store V I := {}

def isTainted (s : Store V I) (v : V) : Bool := decide (v ∈ s.valueSet)

def isMarked (s : Store V I) (i : I) : Bool := decide (i ∈ s.instrSet)

def pendingCount (s : Store V I) : Nat := s.worklist.length - s.head

/-- The values that are still to be visited, oldest first. -/
def pending (s : Store V I) : List V := (s.worklist.drop s.head).filterMap id

/-- The store with one more tainted value, which is pending. -/
def withValue (s : Store V I) (v : V) : Store V I :=
  { s with
    valueSet := v :: s.valueSet
    values := s.values ++ [v]
    worklist := s.worklist ++ [some v] }

def withSeed (s : Store V I) (v : V) : Store V I := { s with seeds := s.seeds ++ [v] }

/-- The store with the instruction of the edge marked. -/
def withEdge (s : Store V I) (e : Edge V I) : Store V I :=
  { s with
    instrSet := e.instr :: s.instrSet
    instrs := s.instrs ++ [e.instr]
    edges := s.edges ++ [e] }

/-- The store with the value tainted and pending; none when it was tainted
before. -/
def addValue? (s : Store V I) (v : V) : Option (Store V I) :=
  if v ∈ s.valueSet then none else some (s.withValue v)

/-- The store with the instruction of the edge marked; none when it was
marked before. -/
def addInstr? (s : Store V I) (e : Edge V I) : Option (Store V I) :=
  if e.instr ∈ s.instrSet then none else some (s.withEdge e)

def pop? (s : Store V I) : Option (V × Store V I) :=
  match s.worklist[s.head]? with
  | some (some v) =>
    if s.head + 1 = s.worklist.length then some (v, { s with worklist := [], head := 0 })
    else some (v, { s with worklist := s.worklist.set s.head none, head := s.head + 1 })
  | _ => none

end Store

end ArgTaint
