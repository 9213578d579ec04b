/-
ArgTaint.Analysis.Target — the instructions worth replacing.

* `Target` — a tainted instruction and the helper that would replace it.
* `Target.message`, `Target.describe` — its wordings.
* `Finding` — a target together with its place in the program.
* `TargetKinds.parse` — the kinds of a comma-separated list.
-/
import ArgTaint.Kind
import ArgTaint.Position
import ArgTaint.Text.Space
import ArgTaint.Text.Quoted

namespace ArgTaint

/-- A tainted instruction that a call of a helper function could replace. -/
structure Target where
  /-- The full name of the function that holds the instruction. -/
  function : String := ""
  /-- The position of the instruction, as text. -/
  position : String := ""
  /-- The text of the instruction. -/
  instruction : String := ""
  kind : Kind := .unknown
  helper : Text := []
  deriving DecidableEq, Repr

namespace Target

def message (t : Target) : String :=
  (if t.kind = .compare then "comparison" else t.kind.name) ++
    " depends on function arguments; candidate for rewrite with " ++ t.helper.display

def describe (t : Target) : String :=
  t.position ++ ": " ++ t.instruction ++ " in " ++ t.function

end Target

/-- A target found in a function, with its place there. -/
structure Finding where
  target : Target
  /-- The number of the instruction. -/
  instr : Nat
  place : Position
  deriving DecidableEq, Repr

/-! ## Lists of kinds -/

namespace TargetKinds

/-- Why a list of kinds is refused. -/
inductive Error where
  | unknown (cause : Kind.Error)
  | none (list : Text)
  deriving DecidableEq, Repr

def Error.message : Error → String
  | .unknown cause => "invalid -target-kinds: " ++ cause.message
  | .none list => "invalid -target-kinds: no kind in " ++ Text.quote list

/-- The kinds with the given names, up to the first name that is none. -/
def parseAll : List Text → Except Kind.Error (List Kind)
  | [] => .ok []
  | name :: rest =>
    match Kind.parse name with
    | .error e => .error e
    | .ok k => (parseAll rest).map (k :: ·)

/-- The kinds of a comma-separated list. White space around a name and empty
names do not count; there must be a name. -/
def parse (list : Text) : Except Error (List Kind) :=
  match parseAll (((Text.splitOn ',' list).map Text.trim).filter (!·.isEmpty)) with
  | .error e => .error (.unknown e)
  | .ok [] => .error (.none list)
  | .ok kinds => .ok kinds

end TargetKinds

end ArgTaint
