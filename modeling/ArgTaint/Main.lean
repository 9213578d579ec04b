/-
ArgTaint.Main — the command line on the real file system.

There is no front end for source files in this library: a program in SSA form
is handed to the commands by whoever builds one, and the command line finds
no packages to load.

* `Shell` — the surroundings of the process, with the time of its start.
* `main` — the program.
-/
import ArgTaint.Command.Run
import ArgTaint.Workspace

namespace ArgTaint

/-- The surroundings of the process, with the time of its start in
milliseconds. -/
abbrev Shell := ReaderT Nat IO

namespace Shell

def fileError (operation path : String) : IO.Error → FileError
  | .noFileOrDirectory .. => .notFound operation path
  | .inappropriateType .. => .notDirectory operation path
  | e => .refused operation path (toString e)

def attempt {α : Type} (operation path : String) (action : IO α) :
    Shell (Except FileError α) := do
  match ← (action.toBaseIO : BaseIO _) with
  | .ok a => return .ok a
  | .error e => return .error (fileError operation path e)

/-- A path in a directory, with a random number in the place of the star of a
pattern. -/
def freshPath (directory pattern : String) : IO String := do
  let number ← IO.rand 0 4294967295
  return Workspace.within directory (pattern.replace "*" (toString number))

/-- Milliseconds as seconds, with a number of decimals. -/
def seconds (milliseconds decimals : Nat) : String :=
  let units := milliseconds * Nat.pow 10 decimals / 1000
  let fraction := toString (units % Nat.pow 10 decimals)
  toString (units / Nat.pow 10 decimals) ++ "." ++
    String.ofList (List.replicate (decimals - fraction.length) '0') ++ fraction

instance : Host Shell where
  readFile path := attempt "open" path (IO.FS.readFile path)
  writeFile path text := attempt "open" path (IO.FS.writeFile path text)
  writeNew directory pattern text := do
    let path ← freshPath directory pattern
    return (← attempt "open" path (IO.FS.writeFile path text)).map fun _ => path
  makeDirectory path := attempt "mkdir" path (IO.FS.createDirAll path)
  makeNewDirectory directory pattern := do
    let path ← freshPath directory pattern
    return (← attempt "mkdir" path (IO.FS.createDir path)).map fun _ => path
  print text := IO.print text
  printError text := IO.eprint text
  load _ := return .error .noPackages
  working := return (← IO.currentDir).toString
  elapsed decimals := do
    let start ← read
    return seconds ((← IO.monoMsNow) - start) decimals

end Shell

end ArgTaint

/-- The program; its exit status is 2 when a command fails. Colors are for
terminals. -/
def main (arguments : List String) : IO UInt32 := do
  let start ← IO.monoMsNow
  let colors ← (← IO.getStdout).isTty
  (ArgTaint.Command.run (m := ArgTaint.Shell) colors arguments).run start
