/-
ArgTaint.Command.Hint — advice for errors of the commands.
-/
import ArgTaint.Kind
import ArgTaint.Pattern.Machine
import ArgTaint.Pattern.Parse
import ArgTaint.Text.Space

namespace ArgTaint.Command

/-- Does the message say that an option was taken for a file? -/
def namesOptionAsFile (message : String) : Bool :=
  match Pattern.parse? "-: named files must be .go files: -(\\w)" with
  | some p => p.occursIn message
  | none => false

/-- The advice for an error message; empty when there is none. -/
def hint (message : String) : String :=
  let mentions (words : String) : Bool :=
    Text.holds (Text.ofString words) (Text.ofString message)
  if mentions "could not load program" then
    if namesOptionAsFile message then
      "all command line flags should be before the path to the Go files to analyze"
    else "make sure you have provided the right arguments for an analyzer to load a Go program"
  else if mentions "unknown instruction kind" then
    "target-kinds must be among: " ++ ", ".intercalate (Kind.all.map Kind.name)
  else if mentions "no function named" then
    "the function must have a body and belong to a package matched by pkg-filter"
  else ""

end ArgTaint.Command
