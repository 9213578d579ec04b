/-
ArgTaint.Yaml.Write — writing YAML.

A text is written plain where that reads back as the same text, else between
single quotes, else between double quotes. A text that would read as null, a
truth value, a number or a time, in this or an older version of the format,
is put between double quotes at once. A text with line feeds is a block.

* `writeText` — a text as a value.
* `writeBytes` — the same for a text whose bytes need not be UTF-8.
* `writeLine`, `writeEntry` — entries of a mapping.
-/
import ArgTaint.Yaml.Base64
import ArgTaint.Yaml.Cursor
import ArgTaint.Yaml.Scalar
import ArgTaint.Text.Quoted

namespace ArgTaint.Yaml

/-! ## Texts that mean something else -/

/-- Is the text a truth value of an older version? -/
def isOldBool (text : String) : Bool :=
  ["y", "Y", "yes", "Yes", "YES", "on", "On", "ON", "n", "N", "no", "No", "NO", "off", "Off",
    "OFF"].contains text

/-- The rest after groups of a colon and a number below sixty, and whether
there was one; `bound` is the number of groups that may still be read. -/
def dropSixties : Nat → Bool → List Char → Bool × List Char
  | bound + 1, _, ':' :: a :: b :: rest =>
    if '0' ≤ a && a ≤ '5' && b.isDigit then dropSixties bound true rest
    else if a.isDigit then dropSixties bound true (b :: rest)
    else (false, [])
  | _, _, [':', a] => (a.isDigit, [])
  | _, found, cs => (found, cs)

/-- Is the text a number of base sixty, of an older version? -/
def isSexagesimal (text : String) : Bool :=
  let cs :=
    match text.toList with
    | '-' :: rest => rest
    | '+' :: rest => rest
    | cs => cs
  match cs with
  | [] => false
  | c :: rest =>
    c.isDigit &&
      match dropSixties text.length false (rest.dropWhile fun d => d.isDigit || d == '_') with
      | (true, []) => true
      | (true, '.' :: fraction) => fraction.all fun d => d.isDigit || d == '_'
      | _ => false

/-- Does the plain text read as a text, in this version and in older ones? -/
def readsAsText (text : String) : Bool :=
  (Scalar.ofPlain text = .text || Scalar.ofPlain text = .merge) &&
    !isOldBool text && !isSexagesimal text

/-! ## What each style can hold -/

/-- Can the character be written without an escape? -/
def isWritable (c : Char) : Bool :=
  let n := c.toNat
  n == 0xa || (decide (0x20 ≤ n) && decide (n ≤ 0x7e)) ||
    (decide (0xa0 ≤ n) && decide (n ≤ 0xfffd) && n != 0xfeff)

/-- Is the character never the first one of a plain text? -/
def isIndicator (c : Char) : Bool :=
  c == '#' || c == ',' || c == '[' || c == ']' || c == '\x7b' || c == '\x7d' || c == '&' ||
    c == '*' || c == '!' || c == '|' || c == '>' || c == '\'' || c == '"' || c == '%' ||
    c == '@' || c.toNat == 0x60

def spaceAhead : List Char → Bool
  | [] => true
  | c :: _ => isBlank c

/-- Has the text an indicator in its middle: a colon in front of a blank, or a
number sign after one? -/
def hasIndicator : Bool → List Char → Bool
  | _, [] => false
  | afterBlank, c :: rest =>
    (c == ':' && spaceAhead rest) || (c == '#' && afterBlank) ||
      hasIndicator (isBlank c || isBreak c) rest

def startsWithIndicator : List Char → Bool
  | [] => false
  | c :: rest =>
    isIndicator c || ((c == '?' || c == ':' || c == '-') && spaceAhead rest) ||
      ['-', '-', '-'].isPrefixOf (c :: rest) || ['.', '.', '.'].isPrefixOf (c :: rest)

def hasSpaceAtBreak : List Char → Bool
  | [] => false
  | [_] => false
  | a :: b :: rest =>
    (a == ' ' && isBreak b) || (isBreak a && b == ' ') || hasSpaceAtBreak (b :: rest)

def hasSpaceBeforeBreak : List Char → Bool
  | [] => false
  | [_] => false
  | a :: b :: rest => (a == ' ' && isBreak b) || hasSpaceBeforeBreak (b :: rest)

def allowsPlain (cs : List Char) : Bool :=
  cs.all (fun c => isWritable c && !isBreak c) && cs.head? != some ' ' &&
    cs.getLast? != some ' ' && !startsWithIndicator cs && !hasIndicator true cs

def allowsSingle (cs : List Char) : Bool := cs.all isWritable && !hasSpaceAtBreak cs

def allowsBlock (cs : List Char) : Bool :=
  cs.all (fun c => isWritable c || c == '\t') && cs.getLast? != some ' ' &&
    !hasSpaceBeforeBreak cs

/-! ## Styles -/

def spaces (n : Nat) : String := String.ofList (List.replicate n ' ')

/-- Where the writing of a text over several lines is. -/
inductive LinePlace where
  /-- On the line of the marks, before the first line of the text. -/
  | marks
  /-- After a line break. -/
  | start
  /-- Inside a line. -/
  | inside
  deriving DecidableEq, Repr

/-- What goes in front of a character of a line. -/
def LinePlace.margin (indent : Nat) : LinePlace → String
  | .marks => "\n" ++ spaces indent
  | .start => spaces indent
  | .inside => ""

/-- Characters on lines of their own, each as `write` puts it, and each line
indented. A line break at the start takes the place of the one after the
marks. -/
def indentLines (indent : Nat) (write : Char → String) (place : LinePlace) : List Char → String
  | [] => ""
  | c :: rest =>
    if isBreak c then String.singleton c ++ indentLines indent write .start rest
    else place.margin indent ++ write c ++ indentLines indent write .inside rest

def quoteSingle (c : Char) : String := if c == '\'' then "''" else String.singleton c

def writeSingle (indent : Nat) (text : String) : String :=
  "'" ++ indentLines indent quoteSingle .inside text.toList ++ "'"

def upperHex (width n : Nat) : String :=
  String.ofList ((Text.hexDigits width n).map Char.toUpper)

/-- A character between double quotes as an escape. -/
def escaped (c : Char) : String :=
  match c.toNat with
  | 0x0 => "\\0"
  | 0x7 => "\\a"
  | 0x8 => "\\b"
  | 0x9 => "\\t"
  | 0xa => "\\n"
  | 0xb => "\\v"
  | 0xc => "\\f"
  | 0xd => "\\r"
  | 0x1b => "\\e"
  | 0x22 => "\\\""
  | 0x5c => "\\\\"
  | 0x85 => "\\N"
  | 0xa0 => "\\_"
  | 0x2028 => "\\L"
  | 0x2029 => "\\P"
  | n =>
    if n ≤ 0xff then "\\x" ++ upperHex 2 n
    else if n ≤ 0xffff then "\\u" ++ upperHex 4 n
    else "\\U" ++ upperHex 8 n

def needsEscape (c : Char) : Bool := !isWritable c || isBreak c || c == '"' || c == '\\'

/-- The text between double quotes. When it starts with a byte order mark, all
its characters are escaped. -/
def writeDouble (text : String) : String :=
  let all := (text.toList.head?.map isOrderMark).getD false
  let write (c : Char) : String :=
    if all || needsEscape c then escaped c else String.singleton c
  "\"" ++ String.join (text.toList.map write) ++ "\""

/-- The marks of a block: how far it is indented, when that does not show, and
what becomes of the line breaks at its end. -/
def blockMarks (cs : List Char) : String :=
  let start := (cs.head?.map fun c => c == ' ' || isBreak c).getD false
  let chomping :=
    match cs.reverse with
    | [] => "-"
    | [c] => if isBreak c then "+" else "-"
    | c :: d :: _ => if !isBreak c then "-" else if isBreak d then "+" else ""
  (if start then "4" else "") ++ chomping

def writeBlock (indent : Nat) (text : String) : String :=
  "|" ++ blockMarks text.toList ++ indentLines indent String.singleton .marks text.toList

/-- The text as a value; what needs lines of its own is indented. -/
def writeText (indent : Nat) (text : String) : String :=
  let cs := text.toList
  if cs.contains '\n' then
    if allowsBlock cs then writeBlock indent text else writeDouble text
  else if !readsAsText text then writeDouble text
  else if allowsPlain cs then text
  else if allowsSingle cs then writeSingle indent text
  else writeDouble text

/-- The text as a value; when its bytes are not UTF-8, it is tagged as
binary. -/
def writeBytes (indent : Nat) (text : Text) : String :=
  match text.string? with
  | some s => writeText indent s
  | none =>
    let encoded := encodeBase64 text
    "!!binary " ++ (if encoded.contains '\n' then writeBlock indent encoded else encoded)

/-! ## Entries -/

/-- A written value with the end of its line, which a block may have
already. -/
def endLine (written : String) : String :=
  if (written.toList.getLast?.map isBreak).getD false then written else written ++ "\n"

/-- An entry with a short key that is written plain. -/
def writeLine (key written : String) : String := endLine (key ++ ": " ++ written)

/-- The text as a key, with its value after it, at an indentation. A long key,
or one of several lines, has a mark of its own. -/
def writeEntry (indent : Nat) (key value : String) : String :=
  let inner := (indent + 4) / 4 * 4
  if key.utf8ByteSize ≤ 128 && !key.toList.any isBreak then
    spaces indent ++ writeText inner key ++ ": " ++ value ++ "\n"
  else
    endLine (spaces indent ++ "? " ++ writeText inner key) ++ spaces indent ++ ": " ++
      value ++ "\n"

end ArgTaint.Yaml
