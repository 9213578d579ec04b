/-
ArgTaint.Analysis.Summary — the outcome of an analysis for a reader.

* `Report.Item`, `Report.Item.lines` — what is printed of a target. The function
  and the instruction are printed without their control characters, the position
  and the helper as they are.
* `Report.lines`, `Report.print` — the lines of a report, with or without colors,
  and their text.
* `Report.summary` — the text of a report as a string.
-/
import ArgTaint.Analysis.Program
import ArgTaint.Terminal

namespace ArgTaint.Report

/-- What is printed of a target. -/
structure Item where
  kind : Kind
  function : Text
  position : Text
  instruction : Text
  helper : Text
  deriving DecidableEq, Repr

def Item.ofTarget (t : Target) : Item where
  kind := t.kind
  function := Text.ofString t.function
  position := Text.ofString t.position
  instruction := Text.ofString t.instruction
  helper := t.helper

def Item.lines (colors : Bool) (i : Item) : List Text :=
  [Text.ofString (Terminal.Style.yellow.paint colors i.kind.name ++ " in " ++
      Terminal.Style.cyan.paint colors i.function.sanitize ++ ":"),
   Text.ofString ("\t[SSA] " ++ i.instruction.sanitize),
   Text.ofString "\t[POSITION] " ++ i.position,
   Text.ofString "\t[REWRITE] " ++ i.helper]

def padRight (width : Nat) (s : String) : String :=
  s ++ String.ofList (List.replicate (width - s.length) ' ')

def kindLine (entry : String × Int64) : String :=
  "  " ++ padRight 24 entry.1 ++ " " ++ toString entry.2

/-- The counters by kind, in the order of the names. -/
def kindLines (kinds : Tally) : List String :=
  (kinds.mergeSort fun a b => !decide (b.1 < a.1)).map kindLine

/-- The outcome in one line. -/
def verdict (colors : Bool) (targets : Nat) : String :=
  if targets = 0 then
    Terminal.Style.green.paint colors "No instruction depends on function arguments"
  else
    Terminal.Style.red.paint colors
      (toString targets ++ " instructions depend on function arguments")

def counterText (label : String) (n : Int64) : String := label ++ ": " ++ toString n

def statsLine (s : Stats) : String :=
  counterText "Functions" s.functions ++ ", " ++ counterText "tainted values" s.taintedValues ++
    ", " ++ counterText "tainted instructions" s.taintedInstructions ++ ", " ++
    counterText "cycles" s.cycles

/-- The lines of a report; `file` is the file that it has been written to, if
any. -/
def lines (colors : Bool) (items : List Item) (ignored : Int64) (stats : Stats) (file : Text) :
    List Text :=
  [Text.ofString (String.ofList (List.replicate 80 '*')),
   Text.ofString (Terminal.Style.bold.paint colors "RESULT:"),
   Text.ofString ("\t\t" ++ verdict colors items.length)] ++
    items.flatMap (Item.lines colors) ++
    (if 0 < ignored then
      [Text.ofString (Terminal.Style.faint.paint colors
        (toString ignored ++ " targets ignored by directives"))]
    else []) ++
    [Text.ofString (statsLine stats)] ++ (kindLines stats.kinds).map Text.ofString ++
    (if file.isEmpty then [] else [Text.ofString "Targets written to " ++ file])

/-- The text of a report, each line with its line feed. -/
def print (colors : Bool) (items : List Item) (ignored : Int64) (stats : Stats) (file : Text) :
    Text :=
  (lines colors items ignored stats file).flatMap (· ++ [.char '\n'])

def summary (colors : Bool) (r : Report) (file : String) : String :=
  (print colors (r.targets.map Item.ofTarget) r.ignored r.stats (Text.ofString file)).display

end ArgTaint.Report
