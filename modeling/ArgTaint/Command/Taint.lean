/-
ArgTaint.Command.Taint — listing what depends on function arguments.

* `Failure` — why a command fails.
* `analyze` — the analysis of a program, with its log, and the report file
  when the settings ask for one.
* `taintSettings`, `taintWith`, `runTaint` — the taint command: its settings, then
  the analysis with them.
-/
import ArgTaint.Analysis.ReportFile
import ArgTaint.Analysis.Summary
import ArgTaint.Command.Options
import ArgTaint.Config.Load
import ArgTaint.Dot

namespace ArgTaint.Command

def version : String := "v0.1.0"

/-- Why a command fails. -/
inductive Failure where
  | options (cause : OptionsError)
  | config (path : String) (cause : Config.LoadError)
  | kinds (cause : TargetKinds.Error)
  | noReportsDir
  | reportsDir (path : String) (cause : FileError)
  | load (cause : LoadError)
  | report (cause : Report.Error)
  | noFunction (name : String)
  | render (name : String) (cause : FileError)
  | drawing (cause : Dot.Fault)
  deriving DecidableEq, Repr

def analysisMessage (cause : Report.Error) : String :=
  "failed to write targets report: " ++ cause.message

def drawingMessage (cause : FileError) : String := "could not create file: " ++ cause.message

def Failure.message : Failure → String
  | .options cause => cause.message
  | .config path cause => Config.chooseMessage path cause
  | .kinds cause => cause.message
  | .noReportsDir => "-report requires reports-dir to be set in the config"
  | .reportsDir path cause => "could not create directory " ++ path ++ ": " ++ cause.message
  | .load cause => "could not load program: " ++ cause.message
  | .report cause => "analysis failed: " ++ analysisMessage cause
  | .noFunction name => "no function named " ++ name ++ " in the analysed functions"
  | .render name cause => "could not render " ++ name ++ ": " ++ drawingMessage cause
  | .drawing cause => cause.message

variable {m : Type → Type} [Monad m] [Host m]

/-- A step that may fail. -/
abbrev Run (m : Type → Type) := ExceptT Failure m

/-- The answer of a step, or why the command fails. -/
def orFail {ε α : Type} (wrap : ε → Failure) (step : m (Except ε α)) : Run m α := do
  match ← (step : m _) with
  | .ok a => return a
  | .error e => throw (wrap e)

def say (line : String) : Run m Unit :=
  ((Host.print (Log.terminated line) : m Unit) : Run m Unit)

def log (c : Config) (entries : List Log.Entry) : Run m Unit :=
  ((Host.print (c.logGroup.write entries) : m Unit) : Run m Unit)

def workers : Int := 4

/-- Analyse a program. The answer is the result and the report file, which is
empty when none is written. -/
def analyze (c : Config) (p : Ssa.Program) (directives : Directives) :
    Run m (Result × String) := do
  let working ← (Host.working : m String)
  let elapsed ← (Host.elapsed 2 : m String)
  let (result, entries) := p.analyze c directives working elapsed workers
  log c entries
  if c.reportTargets then
    let file ← orFail .report (result.report.write c.reportsDir)
    log c [⟨.info, "Targets written to " ++ file⟩]
    return (result, file)
  else return (result, "")

/-- Load the program to analyse. Errors in its sources are printed. -/
def load (o : CommonOptions) : Run m Ssa.Program := do
  match ← (Host.load o.arguments : m _) with
  | .ok p => return p
  | .error e =>
    match e with
    | .broken errors => (Host.printError (String.join errors) : m Unit)
    | .noPackages => pure ()
    throw (.load e)

def override (o : TaintOptions) (c : Config) : Except Failure Config :=
  let c := if o.helper = "" then c else { c with helper := Text.ofString o.helper }
  if o.targetKinds = "" then .ok c
  else
    match TargetKinds.parse (Text.ofString o.targetKinds) with
    | .ok kinds => .ok { c with targetKinds := kinds }
    | .error e => .error (.kinds e)

/-- The settings in which targets are reported, when the options ask for it. -/
def enableReport (o : TaintOptions) (c : Config) : Run m Config := do
  if o.report && !c.reportTargets then
    if c.reportsDir = "" then throw .noReportsDir
    else
      orFail (.reportsDir c.reportsDir) (Host.makeDirectory c.reportsDir)
      return { c with reportTargets := true }
  else return c

def sizeLine (n : Ssa.Counts) : String :=
  "Program has " ++ toString n.functions ++ " functions (" ++ toString n.nonempty ++
    " with a body), " ++ toString n.blocks ++ " blocks and " ++ toString n.instructions ++
    " instructions"

/-- The settings of the taint command: those that its options choose, with what
they override. -/
def taintSettings (o : TaintOptions) : Run m Config := do
  let c ← orFail (.config o.config) (Config.choose o.config o.verbose o.exclude)
  let c ← (override o c : Except Failure Config)
  enableReport o c

/-- Load and analyse a program with the given settings, and print what is
found. -/
def taintWith (colors : Bool) (o : TaintOptions) (c : Config) : Run m Unit := do
  say (Terminal.Style.faint.paint colors ("symobf taint - " ++ version))
  say (Terminal.Style.faint.paint colors "Reading sources")
  let p ← load o.toCommonOptions
  if o.verbose then say (sizeLine (.of p.functions))
  let (result, file) ← analyze c p p.directives
  say ("Analysis took " ++ (← (Host.elapsed 4 : m String)) ++ " s")
  (Host.print (result.report.summary colors file) : m Unit)

def runTaint (colors : Bool) (o : TaintOptions) : Run m Unit := do
  let c ← taintSettings o
  taintWith colors o c

end ArgTaint.Command
