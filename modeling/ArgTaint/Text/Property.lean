/-
ArgTaint.Text.Property — the sets of characters that Unicode has names for.

A name is that of a general category, short or long, or that of a script
whose name is one word. Case, underscores, hyphens and spaces do not count.

* `Property` — ranges, or all that is outside of them.
* `plainName` — the form of a name that is looked up.
* `property?` — the set with a name.
-/
import ArgTaint.Text.Category
import ArgTaint.Text.Script

namespace ArgTaint.Text

/-- A set of characters: some ranges, or, when negated, all the others. -/
structure Property where
  ranges : List (Nat × Nat)
  negated : Bool := false
  deriving DecidableEq, Repr

/-- The form of a name that is looked up: a capital letter and small letters,
without underscores, hyphens and spaces. -/
def plainName (name : String) : String :=
  match name.toList.filter fun c => c != '_' && c != '-' && c != ' ' with
  | [] => ""
  | c :: rest => String.ofList (c.toUpper :: rest.map Char.toLower)

/-- The long names of the categories, in the form that is looked up. -/
def categoryNames : List (String × String) :=
  [("Other", "C"), ("Control", "Cc"), ("Cntrl", "Cc"), ("Format", "Cf"), ("Unassigned", "Cn"),
   ("Privateuse", "Co"), ("Surrogate", "Cs"), ("Letter", "L"), ("Casedletter", "Lc"),
   ("Lowercaseletter", "Ll"), ("Modifierletter", "Lm"), ("Otherletter", "Lo"),
   ("Titlecaseletter", "Lt"), ("Uppercaseletter", "Lu"), ("Mark", "M"), ("Combiningmark", "M"),
   ("Spacingmark", "Mc"), ("Enclosingmark", "Me"), ("Nonspacingmark", "Mn"), ("Number", "N"),
   ("Decimalnumber", "Nd"), ("Digit", "Nd"), ("Letternumber", "Nl"), ("Othernumber", "No"),
   ("Punctuation", "P"), ("Punct", "P"), ("Connectorpunctuation", "Pc"),
   ("Dashpunctuation", "Pd"), ("Closepunctuation", "Pe"), ("Finalpunctuation", "Pf"),
   ("Initialpunctuation", "Pi"), ("Otherpunctuation", "Po"), ("Openpunctuation", "Ps"),
   ("Symbol", "S"), ("Currencysymbol", "Sc"), ("Modifiersymbol", "Sk"), ("Mathsymbol", "Sm"),
   ("Othersymbol", "So"), ("Separator", "Z"), ("Lineseparator", "Zl"),
   ("Paragraphseparator", "Zp"), ("Spaceseparator", "Zs")]

/-- The category with the given short name. What has no meaning is a category
too, and counts among the characters that are not seen. -/
def category? (name : String) : Option Property :=
  match name with
  | "Any" => some { ranges := [(0, 0x10ffff)] }
  | "Ascii" => some { ranges := [(0, 0x7f)] }
  | "Assigned" => some { ranges := assignedRanges }
  | "Cn" => some { ranges := assignedRanges, negated := true }
  | "C" => some { ranges := textRanges, negated := true }
  | "Lc" => some { ranges := unionRanges ["Lu", "Ll", "Lt"] }
  | name => (categoryRanges? name).map fun ranges => { ranges := ranges }

/-- The script with the given name. Scripts are listed under their full names,
so those of several words are not found under a plain name. -/
def script? (name : String) : Option Property :=
  (scripts.lookup name).map fun ranges => { ranges := ranges }

def property? (name : String) : Option Property :=
  let name := plainName name
  (category? name).or ((script? name).or ((categoryNames.lookup name).bind category?))

end ArgTaint.Text
