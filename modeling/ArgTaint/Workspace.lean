/-
ArgTaint.Workspace — surroundings in memory.

A workspace holds the files of a working directory, what has been printed,
and the program that loading gives. New names have a star in the place of
their random part.

* `Workspace` — files, directories, output.
* `Workspace.created` — the files that were not there at the start.
-/
import ArgTaint.Host
import ArgTaint.Path

namespace ArgTaint

/-- Surroundings in memory. -/
structure Workspace where
  /-- The files by clean path. -/
  files : List (String × String) := []
  /-- The paths of the files at the start. -/
  given : List String := []
  /-- The directories that have been made, by clean path. -/
  directories : List String := []
  printed : String := ""
  printedErrors : String := ""
  program : Except LoadError Ssa.Program := .ok {}
  working : String := "/"
  /-- What is shown for a time. -/
  elapsed : String := ""

namespace Workspace

def ofFiles (files : List (String × String)) (program : Except LoadError Ssa.Program)
    (elapsed : String) : Workspace :=
  let files := files.map fun (path, text) => (Path.clean path, text)
  { files := files, given := files.map Prod.fst, program := program, elapsed := elapsed }

def hasFile (w : Workspace) (path : String) : Bool :=
  (w.files.map Prod.fst).contains (Path.clean path)

def temporary : String := "/tmp"

/-- Is there a directory at the path? The directories of files are. -/
def hasDirectory (w : Workspace) (path : String) : Bool :=
  let path := Path.clean path
  path = "." || path = "/" || path = temporary || w.directories.contains path ||
    w.files.any fun (file, _) => file.startsWith (path ++ "/")

/-- The paths of the directories around a path, outermost first, then the path
itself, as they are written. -/
def ancestors (path : String) : List String :=
  let cs := (path.toList.reverse.dropWhile (· == '/')).reverse
  let ends := (List.range cs.length).filter fun n => cs[n]? == some '/' && 0 < n
  (ends.map fun n => String.ofList (cs.take n)) ++ [String.ofList cs]

def missing (w : Workspace) (operation path : String) : FileError :=
  if (ancestors path).dropLast.any w.hasFile then .notDirectory operation path
  else .notFound operation path

def readFile (w : Workspace) (path : String) : Except FileError String :=
  match w.files.lookup (Path.clean path) with
  | some text => .ok text
  | none => .error (w.missing "open" path)

/-- The workspace with a file, which replaces one with the same path. -/
def writeFile (w : Workspace) (path text : String) : Except FileError Workspace :=
  if w.hasDirectory (Path.dir path) then
    let path := Path.clean path
    .ok { w with files := w.files.filter (fun f => f.1 ≠ path) ++ [(path, text)] }
  else .error (w.missing "open" path)

/-- The workspace with a directory and those around it. -/
def makeDirectory (w : Workspace) (path : String) : Except FileError Workspace :=
  match (ancestors path).find? w.hasFile with
  | some file => .error (.notDirectory "mkdir" file)
  | none => .ok { w with directories := w.directories ++ (ancestors path).map Path.clean }

/-- A path in a directory; that of temporary files when it is empty. -/
def within (directory name : String) : String :=
  if directory = "" then temporary ++ "/" ++ name
  else if directory.endsWith "/" then directory ++ name else directory ++ "/" ++ name

/-- The files that were not there at the start. -/
def created (w : Workspace) : List (String × String) :=
  w.files.filter fun (path, _) => !w.given.contains path

def update (f : Workspace → Except FileError Workspace) :
    StateM Workspace (Except FileError Unit) :=
  fun w =>
    match f w with
    | .ok w => (.ok (), w)
    | .error e => (.error e, w)

instance : Host (StateM Workspace) where
  readFile path := return (← get).readFile path
  writeFile path text := update fun w => w.writeFile path text
  writeNew directory pattern text := do
    let path := within directory pattern
    return (← update fun w => w.writeFile path text).map fun _ => path
  makeDirectory path := update fun w => w.makeDirectory path
  makeNewDirectory directory pattern := do
    let path := within directory pattern
    return (← update fun w =>
      if w.hasDirectory directory then w.makeDirectory path
      else .error (w.missing "mkdir" path)).map fun _ => path
  print text := modify fun w => { w with printed := w.printed ++ text }
  printError text := modify fun w => { w with printedErrors := w.printedErrors ++ text }
  load _ := return (← get).program
  working := return (← get).working
  elapsed _ := return (← get).elapsed

end Workspace

end ArgTaint
