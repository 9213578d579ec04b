/-
ArgTaint.Terminal — colored output.

A style is a template with one place for the text. With colors off the text
stands alone.

* `Terminal.Piece`, `Terminal.join` — values set one after the other, with a
  space between two that are no strings.
* `Terminal.Style` — the styles of the reports.
-/
import ArgTaint.Template

namespace ArgTaint.Terminal

/-- A value to be set in a line of output. -/
inductive Piece where
  | text (s : String)
  | integer (n : Int)
  | boolean (b : Bool)
  | nothing
  deriving DecidableEq, Repr

def Piece.render : Piece → String
  | .text s => s
  | .integer n => toString n
  | .boolean true => "true"
  | .boolean false => "false"
  | .nothing => "<nil>"

def Piece.isText : Piece → Bool
  | .text _ => true
  | _ => false

/-- The texts of the pieces, with a space between two neighbours that are no
strings. -/
def join : List Piece → String
  | [] => ""
  | [p] => p.render
  | p :: q :: rest =>
    p.render ++ (if p.isText || q.isText then "" else " ") ++ join (q :: rest)

/-- The text in the given template when colors are on, alone otherwise. -/
def paint (template : String) (colors : Bool) (text : String) : String :=
  if colors then Template.fill template text else text

/-- The styles of the reports. -/
inductive Style where
  | bold
  | faint
  | red
  | green
  | yellow
  | cyan
  deriving DecidableEq, Repr

def Style.template : Style → String
  | .bold => "\x1b[1m%s\x1b[0m"
  | .faint => "\x1b[2m%s\x1b[0m"
  | .red => "\x1b[1;31m%s\x1b[0m"
  | .green => "\x1b[1;32m%s\x1b[0m"
  | .yellow => "\x1b[1;33m%s\x1b[0m"
  | .cyan => "\x1b[1;36m%s\x1b[0m"

def Style.paint (style : Style) (colors : Bool) (text : String) : String :=
  Terminal.paint style.template colors text

end ArgTaint.Terminal
