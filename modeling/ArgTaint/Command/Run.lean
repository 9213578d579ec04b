/-
ArgTaint.Command.Run — the program as a whole.

* `runCommand?` — one command with its arguments.
* `run` — the program; its answer is the exit status.
-/
import ArgTaint.Command.Hint
import ArgTaint.Command.Render

namespace ArgTaint.Command

def about : String :=
  "symobf: argument taint for symbolic-execution obfuscation\n" ++
    "Usage:\n  symobf [tool] [options] <package path(s)>\n" ++
    "Tools:\n" ++
    "  - taint: lists the instructions whose outcome depends on function arguments\n" ++
    "  - render: writes the taint flow graph of a function in graphviz format\n" ++
    "Examples:\n" ++
    "  Run the taint analysis: symobf taint -config config.yaml ./...\n" ++
    "  Render a function: symobf render -fn check -o check.dot ./..."

variable {m : Type → Type} [Monad m] [Host m]

/-- Print what is printed about options, and go on with the options. -/
def withOptions {σ : Type} (p : Parsed σ) (command : σ → Run m Unit) : Run m Unit := do
  (Host.printError p.printed : m Unit)
  match p.options with
  | .ok o => command o
  | .error e => throw (.options e)

/-- Run a command with its arguments; none when there is no such command.
Colors are used unless the options turn them off. -/
def runCommand? (colors : Bool) (command : String) (arguments : List String) :
    Option (Run m Unit) :=
  match command with
  | "taint" =>
    some (withOptions (parseTaint arguments) fun o => runTaint (colors && !o.noColor) o)
  | "render" =>
    some (withOptions (parseRender arguments) fun o => runRender (colors && !o.noColor) o)
  | _ => none

def errorStatus : UInt32 := 2

/-- Print a failure, with advice; the answer is the exit status. -/
def explain (e : Failure) : m UInt32 := do
  match e with
  | .options cause =>
    if cause.isHelp then return 0
  | _ => pure ()
  Host.printError ("error: " ++ e.message ++ "\n")
  let advice := hint e.message
  if advice ≠ "" then Host.printError ("Hint: " ++ advice ++ "\n")
  return errorStatus

def run (colors : Bool) (arguments : List String) : m UInt32 := do
  match arguments with
  | [] =>
    Host.printError ("error: expected subcommand\n" ++ about ++ "\n")
    return errorStatus
  | first :: rest =>
    if first = "-help" || first = "--help" then
      Host.print (about ++ "\n")
      return 0
    else if first = "-version" || first = "--version" then
      Host.print (version ++ "\n")
      return 0
    else
      match runCommand? (m := m) colors first rest with
      | none =>
        Host.printError
          ("error: unexpected command: " ++ first ++ "\nusage:\n" ++ about ++ "\n")
        return errorStatus
      | some command =>
        match ← command.run with
        | .ok _ => return 0
        | .error e => explain e

end ArgTaint.Command
