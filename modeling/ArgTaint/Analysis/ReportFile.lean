/-
ArgTaint.Analysis.ReportFile — reports as YAML files.

* `Report.render` — the text of a report.
* `Report.parse` — the report of a text.
* `Report.write`, `Report.read` — a report in a file.
* `Report.Error` — why a report could not be written or read.
-/
import ArgTaint.Analysis.Program
import ArgTaint.Host
import ArgTaint.Yaml.KeyOrder
import ArgTaint.Yaml.Record
import ArgTaint.Yaml.Write

namespace ArgTaint.Report

/-! ## Writing -/

def renderTarget (t : Target) : String :=
  let line (key text : String) : String := Yaml.writeLine key (Yaml.writeText 8 text)
  "    - " ++ line "function" t.function ++ "      " ++ line "position" t.position ++
    "      " ++ line "instruction" t.instruction ++ "      " ++ line "kind" t.kind.name ++
    "      " ++ Yaml.writeLine "helper" (Yaml.writeBytes 8 t.helper)

def renderTargets (ts : List Target) : String :=
  if ts.isEmpty then "targets: []\n" else "targets:\n" ++ String.join (ts.map renderTarget)

def renderKinds (kinds : Tally) : String :=
  if kinds.isEmpty then "    kinds: \x7b\x7d\n"
  else
    "    kinds:\n" ++
      String.join ((Yaml.sortByKey kinds).map fun (name, n) =>
        Yaml.writeEntry 8 name (toString n))

def renderStats (s : Stats) : String :=
  "stats:\n    functions: " ++ toString s.functions ++
    "\n    tainted-values: " ++ toString s.taintedValues ++
    "\n    tainted-instructions: " ++ toString s.taintedInstructions ++
    "\n    targets: " ++ toString s.targets ++
    "\n    cycles: " ++ toString s.cycles ++ "\n" ++ renderKinds s.kinds

def render (r : Report) : String :=
  renderTargets r.targets ++ "ignored: " ++ toString r.ignored ++ "\n" ++ renderStats r.stats

/-! ## Reading -/

open Yaml in
def targetRecord : Record Target where
  typeName := "symobf.Target"
  field? name :=
    match name with
    | "function" => some (field .string Target.function fun t v => { t with function := v })
    | "position" => some (field .string Target.position fun t v => { t with position := v })
    | "instruction" =>
      some (field .string Target.instruction fun t v => { t with instruction := v })
    | "kind" => some (field .kind Target.kind fun t v => { t with kind := v })
    | "helper" => some (field .text Target.helper fun t v => { t with helper := v })
    | _ => none

open Yaml in
def counter {α : Type} (get : α → Int64) (set : α → Int64 → α) :
    Bool → References → Node → α → Decoder α :=
  field .int (fun a => (get a).toInt) fun a v => set a (.ofInt v)

open Yaml in
def statsRecord : Record Stats where
  typeName := "symobf.Stats"
  field? name :=
    match name with
    | "functions" => some (counter Stats.functions fun s v => { s with functions := v })
    | "tainted-values" =>
      some (counter Stats.taintedValues fun s v => { s with taintedValues := v })
    | "tainted-instructions" =>
      some (counter Stats.taintedInstructions fun s v => { s with taintedInstructions := v })
    | "targets" => some (counter Stats.targets fun s v => { s with targets := v })
    | "cycles" => some (counter Stats.cycles fun s v => { s with cycles := v })
    | "kinds" => some (field .tally Stats.kinds fun s v => { s with kinds := v })
    | _ => none

open Yaml in
def record : Record Report where
  typeName := "symobf.Report"
  field? name :=
    match name with
    | "targets" =>
      some (field (.list targetRecord.reader {}) Report.targets fun r v =>
        { r with targets := v })
    | "ignored" => some (counter Report.ignored fun r v => { r with ignored := v })
    | "stats" => some (field statsRecord.reader Report.stats fun r v => { r with stats := v })
    | _ => none

def parse (text : String) : Except Yaml.Failure Report := Yaml.decode record.reader text {}

/-! ## Files -/

/-- Why a report could not be written or read. -/
inductive Error where
  | create (cause : FileError)
  | read (cause : FileError)
  | content (cause : Yaml.Failure)
  deriving DecidableEq, Repr

def Error.message : Error → String
  | .create cause => "could not create report file: " ++ cause.message
  | .read cause => "could not read report: " ++ cause.message
  | .content cause => "could not unmarshal report: " ++ cause.message

/-- The name of a report file; the star stands for a number. -/
def filePattern : String := "targets-*.yaml"

variable {m : Type → Type} [Monad m] [Host m]

/-- Write the report to a new file in a directory; the answer is its path. -/
def write (directory : String) (r : Report) : m (Except Error String) := do
  return (← Host.writeNew directory filePattern r.render).mapError .create

def read (path : String) : m (Except Error Report) := do
  match ← Host.readFile path with
  | .ok text => return (parse text).mapError .content
  | .error e => return .error (.read e)

end ArgTaint.Report
