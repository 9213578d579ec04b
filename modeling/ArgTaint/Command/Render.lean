/-
ArgTaint.Command.Render — drawing what depends on function arguments.

* `runRender` — the render command: the drawings of the functions with the
  given name, in one file.
-/
import ArgTaint.Analysis.FlowGraph
import ArgTaint.Command.Taint

namespace ArgTaint.Command

variable {m : Type → Type} [Monad m] [Host m]

/-- The render command. It writes no report. -/
def runRender (colors : Bool) (o : RenderOptions) : Run m Unit := do
  let c ← orFail (.config o.config) (Config.choose o.config o.verbose o.exclude)
  let c := { c with reportTargets := false }
  say (Terminal.Style.faint.paint colors "Reading sources")
  let p ← load o.toCommonOptions
  let (result, _) ← analyze c p p.directives
  match result.named o.function with
  | [] => throw (.noFunction o.function)
  | selected =>
    let file := outputFile (Text.ofString o.function) o.output
    say ("Writing " ++ toString selected.length ++ " flow graphs to " ++ file)
    match renderAll selected with
    | .ok text => orFail (.render o.function) (Host.writeFile file text)
    | .error fault => throw (.drawing fault)

end ArgTaint.Command
