/-
ArgTaint.Host — what the commands need of their surroundings.

* `FileError` — what goes wrong with files.
* `LoadError` — why there is no program to analyse.
* `Host` — files, output, the program to analyse and the time.
-/
import ArgTaint.Ssa.Basic

namespace ArgTaint

/-- What goes wrong with a file: the operation, and its path. -/
inductive FileError where
  | notFound (operation path : String)
  | notDirectory (operation path : String)
  | refused (operation path cause : String)
  deriving DecidableEq, Repr

def FileError.message : FileError → String
  | .notFound operation path => operation ++ " " ++ path ++ ": no such file or directory"
  | .notDirectory operation path => operation ++ " " ++ path ++ ": not a directory"
  | .refused operation path cause => operation ++ " " ++ path ++ ": " ++ cause

/-- Why there is no program to analyse. -/
inductive LoadError where
  | noPackages
  /-- The sources have errors, which are listed. -/
  | broken (errors : List String)
  deriving DecidableEq, Repr

def LoadError.message : LoadError → String
  | .noPackages => "no packages"
  | .broken _ => "errors found, exiting"

/-- What the commands need of their surroundings. -/
class Host (m : Type → Type) where
  readFile : String → m (Except FileError String)
  /-- Write a file with the given path and text. -/
  writeFile : String → String → m (Except FileError Unit)
  /-- Write a file in a directory, with a new name after a pattern; the answer
  is its path. An empty directory stands for that of temporary files. -/
  writeNew : String → String → String → m (Except FileError String)
  /-- Make a directory, and those around it, unless they are there. -/
  makeDirectory : String → m (Except FileError Unit)
  /-- Make a directory in another one, with a new name after a pattern; the
  answer is its path. -/
  makeNewDirectory : String → String → m (Except FileError String)
  print : String → m Unit
  printError : String → m Unit
  /-- The program that the given packages make up. -/
  load : List String → m (Except LoadError Ssa.Program)
  /-- The working directory. -/
  working : m String
  /-- The seconds that the command has taken, with a number of decimals. -/
  elapsed : Nat → m String

end ArgTaint
