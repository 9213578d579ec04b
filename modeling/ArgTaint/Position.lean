/-
ArgTaint.Position — places in source files.

A position is valid when its line is positive; the position of what has no
place in a file is `Position.none`.
-/

namespace ArgTaint

/-- A place in a source file. -/
structure Position where
  file : String := ""
  line : Int := 0
  column : Int := 0
  deriving DecidableEq, Repr, Inhabited

namespace Position

/-- The position of what has no place. -/
def none : Position := {}

def isValid (p : Position) : Bool := decide (0 < p.line)

/-- The position as text: file, line and column, as far as they are known. -/
def describe (p : Position) : String :=
  if p.isValid then
    let place := toString p.line ++ (if p.column = 0 then "" else ":" ++ toString p.column)
    if p.file = "" then place else p.file ++ ":" ++ place
  else if p.file = "" then "-"
  else p.file

end Position

end ArgTaint
