/-
ArgTaint.Config.Load — settings from a file and from the command line.

* `Config.load` — the settings of a file. Excluded paths are seen from the
  file; when targets are to be reported, the directory of reports is made.
* `Config.choose` — the settings of the file that the command line names, or
  the defaults, with what the command line adds.
-/
import ArgTaint.Config.Parse
import ArgTaint.Host

namespace ArgTaint.Config

/-- Why settings cannot be loaded. -/
inductive LoadError where
  | read (cause : FileError)
  | parse (cause : Error)
  | newDirectory (cause : FileError)
  | directory (path : String) (cause : FileError)
  deriving DecidableEq, Repr

def LoadError.message : LoadError → String
  | .read cause => "could not read config file: " ++ cause.message
  | .parse cause => cause.message
  | .newDirectory cause => "could not create temp dir for reports: " ++ cause.message
  | .directory path cause => "could not create directory " ++ path ++ ": " ++ cause.message

def located (c : Config) (path : String) : Config :=
  let c := { c with sourceFile := path }
  { c with
    excludePaths :=
      c.excludePaths.map fun p => if Path.isAbsolute p then p else c.relativeTo p }

variable {m : Type → Type} [Monad m] [Host m]

/-- The settings, with a directory for reports that is there. -/
def prepareReports (c : Config) : m (Except LoadError Config) := do
  if c.reportsDir = "" then
    match ← Host.makeNewDirectory (Path.dir c.sourceFile) "*-report" with
    | .ok directory => return .ok { c with reportsDir := directory }
    | .error e => return .error (.newDirectory e)
  else
    match ← Host.makeDirectory c.reportsDir with
    | .ok _ => return .ok c
    | .error e => return .error (.directory c.reportsDir e)

def load (path : String) : m (Except LoadError Config) := do
  match ← Host.readFile path with
  | .error e => return .error (.read e)
  | .ok text =>
    match parse text with
    | .error e => return .error (.parse e)
    | .ok c =>
      let c := c.located path
      if c.reportTargets then c.prepareReports else return .ok c

/-- The settings with what the command line adds: verbosity and excluded
paths. -/
def extend (c : Config) (verbose : Bool) (exclude : List String) : Config :=
  { c with
    logLevel := if verbose then debugLevel else c.logLevel
    excludePaths := c.excludePaths ++ exclude }

/-- The settings of the file with the given path, or the defaults when the
path is empty, with what the command line adds. -/
def choose (path : String) (verbose : Bool) (exclude : List String) :
    m (Except LoadError Config) := do
  let loaded ← if path = "" then pure (.ok standard) else load path
  return loaded.map fun c => c.extend verbose exclude

def chooseMessage (path : String) (e : LoadError) : String :=
  "failed to load config file " ++ path ++ ": " ++ e.message

end ArgTaint.Config
