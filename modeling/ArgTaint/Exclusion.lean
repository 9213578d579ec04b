/-
ArgTaint.Exclusion — files whose functions are left out.

An excluded path that ends in `.go` is a file; any other path is a directory
and stands for all the files below it.

* `Exclusion.covers` — does one excluded path cover a file?
* `Exclusion.isExcluded` — does one of the excluded paths?
* `Exclusion.absolute` — excluded paths seen from the working directory.
-/
import ArgTaint.Path

namespace ArgTaint.Exclusion

def covers (excluded file : String) : Bool :=
  if excluded.endsWith ".go" then file == excluded
  else if excluded.endsWith "/" then file.startsWith excluded
  else file.startsWith (excluded ++ "/")

/-- Is the file left out? What is declared in no file never is. -/
def isExcluded (excluded : List String) (file : String) : Bool :=
  file ≠ "" && excluded.any fun e => covers e file

/-- The excluded paths seen from the working directory. -/
def absolute (working : String) (excluded : List String) : List String :=
  excluded.map (Path.absolute working)

end ArgTaint.Exclusion
