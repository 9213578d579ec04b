/-
ArgTaint.Yaml.Scalar — what plain scalars stand for.

* `Scalar` — null, a truth value, a number, a time, or just the text.
* `Scalar.ofPlain` — the meaning of the text of a plain scalar.
* `Scalar.ofTagged?` — its meaning under an explicit tag; none when the text
  has no such meaning.
-/
import ArgTaint.Yaml.Number
import ArgTaint.Yaml.Timestamp

namespace ArgTaint.Yaml

/-- What a scalar stands for. -/
inductive Scalar where
  | null
  | bool (b : Bool)
  | int (n : Int)
  | float (r : Real)
  | timestamp
  /-- The key that merges other mappings; anywhere else it is a text. -/
  | merge
  | text
  deriving DecidableEq, Repr

namespace Scalar

def tag : Scalar → String
  | .null => "!!null"
  | .bool _ => "!!bool"
  | .int _ => "!!int"
  | .float _ => "!!float"
  | .timestamp => "!!timestamp"
  | .merge => "!!merge"
  | .text => "!!str"

def ofWord? (text : String) : Option Scalar :=
  match text with
  | "true" | "True" | "TRUE" => some (.bool true)
  | "false" | "False" | "FALSE" => some (.bool false)
  | "" | "~" | "null" | "Null" | "NULL" => some .null
  | ".nan" | ".NaN" | ".NAN" => some (.float .nan)
  | ".inf" | ".Inf" | ".INF" | "+.inf" | "+.Inf" | "+.INF" => some (.float (.infinite false))
  | "-.inf" | "-.Inf" | "-.INF" => some (.float (.infinite true))
  | "<<" => some .merge
  | _ => none

/-- The meaning of a text that starts with a digit or a sign and is no word;
`times` is whether it can be a time. Underscores in numbers do not count. -/
def ofNumeral (times : Bool) (cs : List Char) : Scalar :=
  if times && isTimestamp cs then .timestamp
  else
    let plain := cs.filter (· != '_')
    match integer? plain with
    | some n => .int n
    | none =>
      match decimal? plain with
      | some r => .float r
      | none =>
        match markedInteger? plain with
        | some n => .int n
        | none => .text

/-- The meaning of the text of a plain scalar; `times` is whether it can be a
time. -/
def ofText (times : Bool) (text : String) : Scalar :=
  match ofWord? text with
  | some s => s
  | none =>
    let cs := text.toList
    match cs with
    | [] => .null
    | c :: _ =>
      if c.isDigit || c == '+' || c == '-' then ofNumeral times cs
      else if c == '.' && underscoresFit false cs then
        match decimal? (cs.filter (· != '_')) with
        | some r => .float r
        | none => .text
      else .text

def ofPlain (text : String) : Scalar := ofText true text

/-- Does the tag say what a text stands for? Under any other tag it is just a
text. -/
def isMeaningful (tag : String) : Bool :=
  ["!!bool", "!!int", "!!float", "!!null", "!!timestamp"].contains tag

/-- The meaning of a text under a tag. A whole number is also a number with a
fraction; any text can be tagged as text. -/
def ofTagged? (tag text : String) : Option Scalar :=
  if isMeaningful tag then
    let s := ofText (tag = "!!timestamp") text
    if s.tag = tag then some s
    else
      match s with
      | .int n => if tag = "!!float" && n < Int.pow 2 63 then some (.float (.ofInt n)) else none
      | _ => none
  else some .text

end Scalar

end ArgTaint.Yaml
