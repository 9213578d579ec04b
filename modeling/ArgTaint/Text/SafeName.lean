/-
ArgTaint.Text.SafeName — names that are safe as file names.

The safe characters are the ASCII letters and digits, the full stop, the
hyphen and the underscore. `Text.safeName` keeps them and writes one
underscore for every maximal run of anything else.
-/
import ArgTaint.Text.Symbol

namespace ArgTaint

def Text.isSafe (c : Char) : Bool := c.isAlphanum || c == '.' || c == '-' || c == '_'

def Symbol.safe? : Symbol → Option Char
  | .char c => if Text.isSafe c then some c else none
  | .stray _ => none

namespace Text

/-- The safe characters of a text with one underscore for each run of other
symbols; `inRun` says that the underscore of the current run is written. -/
def collapse (inRun : Bool) : Text → List Char
  | [] => []
  | s :: rest =>
    match s.safe? with
    | some c => c :: collapse false rest
    | none => if inRun then collapse true rest else '_' :: collapse true rest

def safeName (t : Text) : String := String.ofList (collapse false t)

end Text

end ArgTaint
