/-
ArgTaint.Log — diagnostics with a level.

An entry is data: its level and its text. A group decides which entries are
shown; what an analysis does never depends on the group.

* `Log.Level`, `Log.Entry` — an entry and its written line.
* `Log.Group` — the verbosity, and whether warnings are silenced.
* `Log.Group.write` — the text of the entries that the group shows.
-/

namespace ArgTaint.Log

/-- The level of an entry. -/
inductive Level where
  | trace
  | debug
  | info
  | warn
  | error
  deriving DecidableEq, Repr

namespace Level

/-- The least verbosity at which entries of the level are shown. -/
def threshold : Level → Int
  | .error => 1
  | .warn => 2
  | .info => 3
  | .debug => 4
  | .trace => 5

def mark : Level → String
  | .trace => "[TRACE] "
  | .debug => "[DEBUG] "
  | .info => "[INFO] "
  | .warn => "[WARN] "
  | .error => "[ERROR] "

end Level

/-- A diagnostic. -/
structure Entry where
  level : Level
  text : String
  deriving DecidableEq, Repr

/-- The text with a line feed at its end, unless there is one. -/
def terminated (text : String) : String :=
  text ++ (if text.toList.getLast? = some '\n' then "" else "\n")

/-- The entry as it is written: its mark, then its text on a line of its
own. -/
def Entry.line (e : Entry) : String := e.level.mark ++ terminated e.text

/-- The verbosity of a run. -/
structure Group where
  level : Int
  silenceWarn : Bool := false
  deriving DecidableEq, Repr

namespace Group

/-- The verbosity when nothing else is asked for. -/
def standard : Group := { level := 3 }

def shows (g : Group) (l : Level) : Bool :=
  decide (l.threshold ≤ g.level) && !(decide (l = .warn) && g.silenceWarn)

def visible (g : Group) (entries : List Entry) : List Entry :=
  entries.filter fun e => g.shows e.level

def write (g : Group) (entries : List Entry) : String :=
  String.join ((g.visible entries).map Entry.line)

end Group

end ArgTaint.Log
