/-
ArgTaint.Directive — comments that silence targets.

A comment is a directive when it has the marker `symobf:` and the word
`ignore` is the first word after it; a reason may follow. A directive
applies to its own line and to the line below.

* `Directive.parse?` — the directive of a comment.
* `SourceFile`, `Comment.ofFiles` — files, and all their comments in order.
* `Directives.find` — the directives of the comments of a program.
* `Directives.isIgnored` — does an ignore directive apply to a position?
-/
import ArgTaint.Position
import ArgTaint.Text.Space

namespace ArgTaint

/-- The word of a directive. -/
structure Directive where
  kind : String
  /-- The comment that the directive was read from. -/
  comment : Option Text := none
  deriving DecidableEq, Repr

/-- A comment of a program. -/
structure Comment where
  text : Text
  position : Position
  deriving DecidableEq, Repr

/-- A source file as far as its comments go, which stand in groups. -/
structure SourceFile where
  groups : List (List Comment) := []
  deriving DecidableEq, Repr

/-- The comments of files, file by file and group by group. -/
def Comment.ofFiles (files : List SourceFile) : List Comment :=
  files.flatMap fun f => f.groups.flatten

/-- The word of the directives that silence a line. -/
def Directive.ignoreWord : String := "ignore"

/-- What stands in front of the word of a directive. -/
def Directive.marker : Text := Text.ofString "symobf:"

def Directive.parse? (comment : Text) : Option Directive :=
  match Text.cut? Directive.marker comment with
  | none => none
  | some (_, after) =>
    match Text.fields after with
    | [] => none
    | word :: _ =>
      if word = Text.ofString Directive.ignoreWord then
        some ⟨Directive.ignoreWord, some comment⟩
      else none

/-- Directives by file and line; one directive per line. -/
abbrev Directives := List ((String × Int) × Directive)

namespace Directives

/-- The directives without the one on a line. -/
def without (ds : Directives) (file : String) (line : Int) : Directives :=
  ds.filter fun e => e.1 ≠ (file, line)

/-- The directives with one more; it replaces the one on the same line. -/
def insert (ds : Directives) (file : String) (line : Int) (d : Directive) : Directives :=
  ds.without file line ++ [((file, line), d)]

def get? (ds : Directives) (file : String) (line : Int) : Option Directive :=
  ds.lookup (file, line)

/-- The directives with that of a comment, if it is one and has a place. -/
def add (ds : Directives) (c : Comment) : Directives :=
  if c.position.isValid then
    match Directive.parse? c.text with
    | some d => ds.insert c.position.file c.position.line d
    | none => ds
  else ds

/-- The directives of comments, in order; the last one on a line counts. -/
def find (comments : List Comment) : Directives := comments.foldl add []

def ignores (ds : Directives) (file : String) (line : Int) : Bool :=
  match ds.get? file line with
  | some d => d.kind == Directive.ignoreWord
  | none => false

/-- Does an ignore directive apply to the position? -/
def isIgnored (ds : Directives) (p : Position) : Bool :=
  p.isValid && (ds.ignores p.file p.line || ds.ignores p.file (p.line - 1))

/-- The directives as text, one line each, in byte order. -/
def describe (ds : Directives) : List String :=
  let line := fun (e : (String × Int) × Directive) =>
    e.1.1 ++ ":" ++ toString e.1.2 ++ " " ++ e.2.kind ++ " " ++
      String.ofList ((e.2.comment.getD []).filterMap fun
        | .char c => some c
        | .stray _ => none)
  (ds.map line).mergeSort fun a b => !decide (b < a)

end Directives

end ArgTaint
