/-
ArgTaint.Config.Parse — settings from a YAML text.

Settings that the text does not give have their defaults; so have an empty
list of kinds, an empty helper and a log level of zero.

* `Config.parse` — the settings of a text.
* `Config.Error` — why a text is refused.
-/
import ArgTaint.Config.Basic
import ArgTaint.Yaml.Record

namespace ArgTaint.Config

/-- Why settings are refused. -/
inductive Error where
  | unreadable (cause : Yaml.Failure)
  | logLevel (level : Int)
  deriving DecidableEq, Repr

def Error.message : Error → String
  | .unreadable cause => "could not unmarshal config file: " ++ cause.message
  | .logLevel level =>
    "invalid log-level " ++ toString level ++ ", must be between " ++ toString logLevels.1 ++
      " and " ++ toString logLevels.2

open Yaml in
def optionsRecord : Record Config where
  typeName := "config.Options"
  field? name :=
    match name with
    | "reports-dir" => some (field .string reportsDir fun c v => { c with reportsDir := v })
    | "pkg-filter" => some (field .text packageFilter fun c v => { c with packageFilter := v })
    | "report-targets" =>
      some (field .bool reportTargets fun c v => { c with reportTargets := v })
    | "log-level" => some (field .int logLevel fun c v => { c with logLevel := v })
    | "silence-warn" => some (field .bool silenceWarn fun c v => { c with silenceWarn := v })
    | "exclude-paths" =>
      some (field (.list .string "") excludePaths fun c v => { c with excludePaths := v })
    | _ => none

open Yaml in
def record : Record Config where
  typeName := "config.Config"
  field? name :=
    match name with
    | "options" => some (field optionsRecord.reader id fun _ c => c)
    | "target-kinds" =>
      some (field (.list .kind .unknown) targetKinds fun c v => { c with targetKinds := v })
    | "helper-function" => some (field .text helper fun c v => { c with helper := v })
    | "seed-free-vars" =>
      some (field .bool seedFreeVars fun c v => { c with seedFreeVars := v })
    | _ => none

/-- The settings in which what was left empty has its default. -/
def complete (c : Config) : Config :=
  { c with
    targetKinds := if c.targetKinds.isEmpty then standard.targetKinds else c.targetKinds
    helper := if c.helper.isEmpty then standard.helper else c.helper
    logLevel := if c.logLevel = 0 then standard.logLevel else c.logLevel }

/-- The settings, if their log level is one. -/
def validate (c : Config) : Except Error Config :=
  let c := c.complete
  if logLevels.1 ≤ c.logLevel ∧ c.logLevel ≤ logLevels.2 then .ok c
  else .error (.logLevel c.logLevel)

def parse (text : String) : Except Error Config :=
  match Yaml.decode record.reader text { standard with targetKinds := [] } with
  | .error e => .error (.unreadable e)
  | .ok c => c.validate

end ArgTaint.Config
