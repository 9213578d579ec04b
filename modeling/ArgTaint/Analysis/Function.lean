/-
ArgTaint.Analysis.Function — what depends on the arguments of one function.

The parameters are seeds, and so are the free variables when the options ask
for it. Targets are selected once nothing is pending any more.

* `Options` — what counts as a target, and the helper for it.
* `FunctionResult` — the final store, the targets, the cycles, the statistics.
* `Ssa.Function.analyze` — the analysis.
-/
import ArgTaint.Analysis.Target
import ArgTaint.Analysis.Stats
import ArgTaint.Engine.Flow
import ArgTaint.Ssa.View

namespace ArgTaint

/-- What the analysis of a function is asked for. -/
structure Options where
  /-- The kinds of the tainted instructions that are targets. -/
  targetKinds : List Kind
  /-- The function that would replace the targets. -/
  helper : Text
  /-- Are the free variables of closures seeds too? -/
  seedFreeVars : Bool := false
  deriving DecidableEq, Repr

/-- The result of the analysis of a function. -/
structure FunctionResult where
  function : Ssa.Function
  /-- The store when nothing is pending. -/
  store : Store Nat Nat
  /-- The targets, in the order in which they were marked. -/
  findings : List Finding
  /-- The groups of values that influence one another. -/
  cycles : List (List Nat)
  stats : Stats
  deriving DecidableEq, Repr

/-- Is this the result for a function with the given name, full or short? -/
def FunctionResult.isNamed (r : FunctionResult) (name : String) : Bool :=
  r.function.fullName = name || r.function.name = name

namespace Ssa.Function

def seeds (f : Function) (o : Options) : List (Option Nat) :=
  f.params.map some ++ (if o.seedFreeVars then f.freeVars.map some else [])

/-- The engine at rest after seeding, and what happened until then. -/
def taint (f : Function) (o : Options) : Progress Nat Nat :=
  let seeded := (Store.empty.seedAll f.view (f.seeds o)).1
  let final := seeded.store.propagate f.view
  { final with events := seeded.events ++ final.events }

/-- The finding for a marked instruction. -/
def finding (f : Function) (helper : Text) (i : Nat) : Finding :=
  let place := f.instrPosition i
  { target :=
      { function := f.fullName
        position := place.describe
        instruction := f.view.text i
        kind := f.view.kind i
        helper := helper }
    instr := i
    place := place }

/-- The targets among the marked instructions. -/
def findings (f : Function) (o : Options) (s : Store Nat Nat) : List Finding :=
  (s.instrs.filter fun i => o.targetKinds.contains (f.view.kind i)).map (f.finding o.helper)

/-- The statistics of a store with the given numbers of targets and cycles. -/
def tally (f : Function) (s : Store Nat Nat) (targets cycles : Nat) : Stats where
  functions := 1
  taintedValues := .ofNat s.values.length
  taintedInstructions := .ofNat s.instrs.length
  targets := .ofNat targets
  cycles := .ofNat cycles
  kinds := .ofNames (s.instrs.map fun i => (f.view.kind i).name)

def resultOf (f : Function) (o : Options) (s : Store Nat Nat) : FunctionResult :=
  let findings := f.findings o s
  let cycles := s.flowCycles f.view
  { function := f
    store := s
    findings := findings
    cycles := cycles
    stats := f.tally s findings.length cycles.length }

def summary (f : Function) (r : FunctionResult) : List Log.Entry :=
  [⟨.debug, f.fullName ++ ": " ++ toString r.store.instrs.length ++ " tainted instructions, " ++
      toString r.findings.length ++ " targets"⟩,
   ⟨.trace, f.fullName ++ ": flow graph " ++ (r.store.flowGraph f.view).stats.describe⟩]

/-- The analysis of a function with a body, and the diagnostics on the way. -/
def analyze (f : Function) (o : Options) : FunctionResult × List Log.Entry :=
  let p := f.taint o
  let r := f.resultOf o p.store
  (r, p.events.map (Event.entry f.view) ++ f.summary r)

end Ssa.Function

end ArgTaint
