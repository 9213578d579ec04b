/-
ArgTaint.Config.Basic — what an analysis is asked for.

* `Config` — the settings, with their defaults.
* `Config.matchesPackage` — is a package analysed? The filter is a pattern
  that may match anywhere; a filter that is no pattern is the start of a name.
* `Config.options`, `Config.logGroup` — the parts for the analysis of a
  function and for the log.
* `Config.relativeTo` — a path seen from the file of the settings.
-/
import ArgTaint.Analysis.Function
import ArgTaint.Path
import ArgTaint.Pattern.Machine
import ArgTaint.Pattern.Parse

namespace ArgTaint

/-- The settings of an analysis. -/
structure Config where
  /-- The kinds of the instructions that are targets. -/
  targetKinds : List Kind := [.compare]
  /-- The function that would replace the targets. -/
  helper : Text := Text.ofString "MatrixMult"
  seedFreeVars : Bool := false
  /-- The directory of reports. -/
  reportsDir : String := ""
  /-- Which packages are analysed; all when it is empty. -/
  packageFilter : Text := []
  /-- Are the targets written to a report? -/
  reportTargets : Bool := false
  logLevel : Int := 3
  silenceWarn : Bool := false
  /-- Files and directories whose functions are left out. -/
  excludePaths : List String := []
  /-- The file that the settings come from. -/
  sourceFile : String := ""
  deriving DecidableEq, Repr

namespace Config

/-- The settings when nothing else is asked for. -/
def standard : Config := {}

/-- The least and the greatest level of the log. -/
def logLevels : Int × Int := (1, 5)

/-- The level at which the log tells about each function. -/
def debugLevel : Int := 4

def isVerbose (c : Config) : Bool := debugLevel ≤ c.logLevel

def matchesPackage (c : Config) (package : String) : Bool :=
  if c.packageFilter.isEmpty then true
  else
    match c.packageFilter.string?.bind Pattern.parse? with
    | some p => p.occursIn package
    | none => c.packageFilter.toBytes.isPrefixOf (Text.ofString package).toBytes

def isTarget (c : Config) (k : Kind) : Bool := c.targetKinds.contains k

/-- The path seen from the file of the settings. -/
def relativeTo (c : Config) (path : String) : String := Path.join [Path.dir c.sourceFile, path]

def options (c : Config) : Options := ⟨c.targetKinds, c.helper, c.seedFreeVars⟩

def logGroup (c : Config) : Log.Group := ⟨c.logLevel, c.silenceWarn⟩

end Config

end ArgTaint
