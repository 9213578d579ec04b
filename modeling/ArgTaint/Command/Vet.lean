/-
ArgTaint.Command.Vet — targets as diagnostics of a checker.

The checker looks at the functions of one package, in order, and reports each
target that no directive silences.

* `Vet.Settings` — the settings, with their defaults.
* `Vet.diagnostics` — the diagnostics of a package under some options.
* `Vet.check` — the diagnostics of a package under the settings.
-/
import ArgTaint.Analysis.Function
import ArgTaint.Command.Flag

namespace ArgTaint.Command.Vet

/-- The settings of the checker. -/
structure Settings where
  helper : String := "MatrixMult"
  /-- The target kinds, as a comma-separated list. -/
  targetKinds : String := "compare"
  seedFreeVars : Bool := false
  deriving DecidableEq, Repr

namespace Settings

/-- The settings with one of them given by name; a value that is refused
changes nothing. -/
def assign (s : Settings) (name value : String) : Settings × Option String :=
  match name with
  | "helper" => ({ s with helper := value }, none)
  | "target-kinds" => ({ s with targetKinds := value }, none)
  | "seed-free-vars" =>
    match switchValue? value with
    | some b => ({ s with seedFreeVars := b }, none)
    | none => (s, some ValueError.notSwitch.message)
  | name => (s, some ("no such flag -" ++ name))

/-- The settings that are given by name, and why some of them are refused. -/
def ofFlags (flags : List (String × String)) : Settings × List (String × String) :=
  flags.foldl
    (fun (s, errors) (name, value) =>
      match s.assign name value with
      | (s, none) => (s, errors)
      | (s, some e) => (s, errors ++ [(name, e)]))
    ({}, [])

end Settings

/-- What is reported at a place. -/
structure Diagnostic where
  position : Position
  message : String
  deriving DecidableEq, Repr

/-- The diagnostics of one function. They are reported at the positions of
their instructions, and silenced by the places of the targets. -/
def ofFunction (o : Options) (directives : Directives) (f : Ssa.Function) : List Diagnostic :=
  if f.isExternal then []
  else
    ((f.analyze o).1.findings.filter fun d => !directives.isIgnored d.place).map fun d =>
      ⟨f.instrPosition d.instr, d.target.message⟩

def diagnostics (p : Ssa.Program) (o : Options) : List Diagnostic :=
  p.functions.flatMap (ofFunction o p.directives)

def check (p : Ssa.Program) (s : Settings) : Except TargetKinds.Error (List Diagnostic) :=
  match TargetKinds.parse (Text.ofString s.targetKinds) with
  | .ok kinds => .ok (diagnostics p ⟨kinds, Text.ofString s.helper, s.seedFreeVars⟩)
  | .error e => .error e

end ArgTaint.Command.Vet
