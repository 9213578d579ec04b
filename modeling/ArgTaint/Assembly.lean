/-
ArgTaint.Assembly — functions that are built side by side.

Several functions may be under construction at a time, and an instruction of
one of them may use values of another. An assembly keeps the parameters,
constants, blocks and instructions of all its functions in one graph, where
they are numbered in the order in which they were made; a function lists the
numbers of its own parameters and blocks.

* `Assembly.Call`, `Assembly.perform`, `Assembly.run` — building call by call.
  A call that fails leaves behind what it did before the failure;
  `Assembly.construct` is building in which no call fails.
* `Assembly.instrsOf` — the instructions of a function, in block order.
-/
import ArgTaint.Workbench

namespace ArgTaint

namespace Assembly

/-- Where a block belongs. -/
structure Block where
  /-- The position of the block in its function. -/
  index : Nat
  /-- The number of the function. -/
  parent : Nat
  deriving DecidableEq, Repr

/-- A function of an assembly. -/
structure Function where
  name : String
  /-- The numbers of the parameters, in order. -/
  params : List Nat
  /-- The numbers of the blocks, in order. -/
  blocks : List Nat := []
  deriving DecidableEq, Repr

/-- A call that builds functions. Functions, blocks and instructions are given
by their numbers. -/
inductive Call where
  | newFunction (name : String) (params : List String)
  | newBlock (function : Nat)
  | newConst (name : String)
  | emit (block : Nat) (kind : Kind) (name : String) (operands : List (Option Build.Value))
  | emitVoid (block : Nat) (kind : Kind) (operands : List (Option Build.Value))
  | addOperand (instr : Nat) (operand : Option Build.Value)
  deriving DecidableEq, Repr

end Assembly

/-- Functions under construction. -/
structure Assembly where
  /-- What all the functions consist of. -/
  graph : Build
  functions : List Assembly.Function := []
  /-- The blocks of the graph, by number. -/
  blocks : List Assembly.Block := []
  deriving DecidableEq, Repr

namespace Assembly

def empty : Assembly where
  graph := .new "" []

/-- The assembly with a new function that has one parameter per name and no
blocks. -/
def newFunction (a : Assembly) (name : String) (params : List String) : Assembly :=
  { a with
    graph := { a.graph with params := a.graph.params ++ (Build.new name params).params }
    functions := a.functions ++
      [{ name := name, params := List.range' a.graph.params.length params.length }] }

/-- The assembly in which a function has a new empty block. -/
def newBlock (a : Assembly) (function : Nat) : Assembly × Option Build.Failure :=
  match a.functions[function]? with
  | none => (a, some .outOfRange)
  | some f =>
    let (graph, number) := a.graph.newBlock
    ({ graph := graph
       functions := a.functions.set function { f with blocks := f.blocks ++ [number] }
       blocks := a.blocks ++ [⟨f.blocks.length, function⟩] }, none)

/-- The assembly after a call that changes its graph alone. -/
def onGraph (a : Assembly) (call : Build.Call) : Assembly × Option Build.Failure :=
  (a.graph.perform call).map (fun graph => { a with graph := graph }) id

/-- The assembly that a call leaves behind, and why the call failed. -/
def perform (a : Assembly) : Call → Assembly × Option Build.Failure
  | .newFunction name params => (a.newFunction name params, none)
  | .newBlock function => a.newBlock function
  | .newConst name => a.onGraph (.newConst name)
  | .emit block kind name operands => a.onGraph (.emit block kind name operands)
  | .emitVoid block kind operands => a.onGraph (.emitVoid block kind operands)
  | .addOperand instr operand => a.onGraph (.addOperand instr operand)

def run (a : Assembly) (calls : List Call) : Assembly :=
  calls.foldl (fun a c => (a.perform c).1) a

/-- The assembly that calls build when none of them fails. -/
def construct (a : Assembly) : List Call → Except Build.Failure Assembly
  | [] => .ok a
  | c :: rest =>
    match a.perform c with
    | (a, none) => a.construct rest
    | (_, some e) => .error e

/-- The instructions of a function, in block order. -/
def instrsOf (a : Assembly) (f : Function) : List Nat :=
  f.blocks.flatMap fun number => a.graph.blocks[number]?.getD []

end Assembly

end ArgTaint
