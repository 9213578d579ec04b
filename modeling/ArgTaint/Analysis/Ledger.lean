/-
ArgTaint.Analysis.Ledger — statistics whose counters by kind are shared.

In memory a tally is a map behind a reference, and several statistics may have
the same one; statistics without a reference have no map yet. Adding writes into
the map of the statistics that are added to, and makes one first where there is
none. It goes through the map of the other ones, which has no order: each time
its entries may come in another one.

* `Memory`, `Memory.mergeInto` — the maps by reference, and the loop that merges
  one into another.
* `Ledger`, `Ledger.read` — statistics in memory, and what they say.
* `Ledger.add`, `Ledger.Sums` — adding one, and adding some in turn.
-/
import ArgTaint.Analysis.Stats

namespace ArgTaint

/-- The maps in memory; a reference is a place in the list. -/
abbrev Memory := List Tally

namespace Memory

/-- The entries behind a reference; without one there are none. -/
def tally (mem : Memory) : Option Nat → Tally
  | some r => mem.getD r []
  | none => []

/-- The memory after the entries of a map, in the order in which they are met,
are merged into the map behind `target`. -/
def mergeInto (both : Int64 → Int64 → Int64) (target : Nat) (met : Tally) (mem : Memory) :
    Memory :=
  met.foldl (fun mem (name, y) => mem.modify target fun t => t.upsert name y (both · y)) mem

end Memory

/-- Statistics in memory. -/
structure Ledger where
  functions : Int64 := 0
  taintedValues : Int64 := 0
  taintedInstructions : Int64 := 0
  targets : Int64 := 0
  cycles : Int64 := 0
  /-- The reference to the counters by kind, if there is a map. -/
  kinds : Option Nat := none
  deriving DecidableEq, Repr

namespace Ledger

/-- What the statistics say. -/
def read (s : Ledger) (mem : Memory) : Stats where
  functions := s.functions
  taintedValues := s.taintedValues
  taintedInstructions := s.taintedInstructions
  targets := s.targets
  cycles := s.cycles
  kinds := mem.tally s.kinds

/-- The statistics and the memory after `o` is added to `s`, when the entries of
`o` are met in the given order. -/
def add (s o : Ledger) (met : Tally) (mem : Memory) : Ledger × Memory :=
  let (target, mem) :=
    match s.kinds with
    | some r => (r, mem)
    | none => (mem.length, mem ++ [[]])
  ({ functions := s.functions + o.functions
     taintedValues := s.taintedValues + o.taintedValues
     taintedInstructions := s.taintedInstructions + o.taintedInstructions
     targets := s.targets + o.targets
     cycles := s.cycles + o.cycles
     kinds := some target },
    mem.mergeInto (· + ·) target met)

/-- Adding the statistics of a list in turn leads from the first statistics and
memory to the second; each time the entries are met in some order. -/
inductive Sums : List Ledger → Ledger × Memory → Ledger × Memory → Prop
  | nil (a : Ledger × Memory) : Sums [] a a
  | cons {o : Ledger} {os : List Ledger} {s : Ledger} {mem : Memory} {b : Ledger × Memory}
      (met : Tally) (any : met.Perm (mem.tally o.kinds)) (rest : Sums os (s.add o met mem) b) :
      Sums (o :: os) (s, mem) b

end Ledger

end ArgTaint
