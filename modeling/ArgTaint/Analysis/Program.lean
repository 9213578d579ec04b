/-
ArgTaint.Analysis.Program — what depends on arguments in a whole program.

The functions with a body that were written by someone, that belong to a
package of the filter and to a file that is not excluded, are analysed in the
order of their names. Targets on a line with a directive are left out and
counted.

* `Config.selects` — is a function analysed?
* `Report` — targets, ignored targets and statistics.
* `Ssa.Program.analyze` — the analysis and its log.
-/
import ArgTaint.Config.Basic
import ArgTaint.Exclusion
import ArgTaint.Parallel

namespace ArgTaint

/-- The outcome of an analysis. -/
structure Report where
  targets : List Target := []
  /-- The number of targets that directives silence. -/
  ignored : Int64 := 0
  stats : Stats := {}
  deriving DecidableEq, Repr

/-- The result of the analysis of a program. -/
structure Result where
  /-- The results by function, in the order of their names. -/
  functions : List FunctionResult := []
  /-- The targets that no directive silences. -/
  findings : List Finding := []
  /-- The targets that a directive silences. -/
  silenced : List Finding := []
  stats : Stats := {}
  deriving DecidableEq, Repr

/-- The outcome without its places in the program. -/
def Result.report (r : Result) : Report where
  targets := r.findings.map Finding.target
  ignored := .ofNat r.silenced.length
  stats := r.stats

/-- The results for the functions with the given name, full or short. -/
def Result.named (r : Result) (name : String) : List FunctionResult :=
  r.functions.filter fun f => f.isNamed name

/-- Does the filter of the settings select the function? -/
def Config.selects (c : Config) (f : Ssa.Function) : Bool :=
  !f.isExternal && f.synthetic = "" &&
    match f.countsFor with
    | some package => c.matchesPackage package
    | none => false

namespace Ssa.Program

def sorted (p : Program) : List Function :=
  p.functions.mergeSort fun f g => !decide (g.fullName < f.fullName)

/-- The functions that are analysed, seen from a working directory. -/
def selected (p : Program) (c : Config) (working : String) : List Function :=
  let excluded := Exclusion.absolute working c.excludePaths
  p.sorted.filter fun f => c.selects f && !Exclusion.isExcluded excluded f.file

/-- The result for the results of the functions. -/
def resultOf (directives : Directives) (results : List FunctionResult) : Result :=
  let all := results.flatMap FunctionResult.findings
  let kept := all.filter fun d => !directives.isIgnored d.place
  let total := (results.map FunctionResult.stats).foldl Stats.add {}
  { functions := results
    findings := kept
    silenced := all.filter fun d => directives.isIgnored d.place
    stats := { total with targets := .ofNat kept.length } }

def silencedEntry (d : Finding) : Log.Entry := ⟨.debug, "Ignoring target " ++ d.target.describe⟩

/-- The entries before the functions are analysed. -/
def openingEntries (c : Config) (functions : List Function) : List Log.Entry :=
  (if functions.isEmpty then
    [⟨.warn, "No function to analyse, check the package filter " ++
        Text.quote c.packageFilter⟩]
  else []) ++
    [⟨.info, "Analysing " ++ toString functions.length ++ " functions ..."⟩]

/-- The analysis of a program with some number of workers, seen from a working
directory; `elapsed` are the seconds that it takes, as text. -/
def analyze (p : Program) (c : Config) (directives : Directives) (working elapsed : String)
    (workers : Int) : Result × List Log.Entry :=
  let functions := p.selected c working
  let results := Parallel.map (fun f => f.analyze c.options) functions workers
  let result := resultOf directives (results.map Prod.fst)
  (result,
    openingEntries c functions ++ results.flatMap Prod.snd ++
      [⟨.info, "Analysis done (" ++ elapsed ++ " s)."⟩] ++ result.silenced.map silencedEntry)

end Ssa.Program

end ArgTaint
