/-
ArgTaint.Yaml.Cursor — a place in a YAML text, and the characters there.

* `isBlank`, `isBreak` — what separates words and lines.
* `Cursor` — the text that is left, the line and column it starts at, and how
  much of it has been taken in.
* `Folding` — the text of a scalar that may run over several lines: a line
  break between two words is read as a space, further ones are kept.
-/
import ArgTaint.Yaml.Window

namespace ArgTaint.Yaml

/-! ## Characters -/

def isBlank (c : Char) : Bool := c == ' ' || c == '\t'

def isBreak (c : Char) : Bool :=
  c == '\n' || c == '\r' || c.toNat == 0x85 || c.toNat == 0x2028 || c.toNat == 0x2029

/-- Is the next character a blank or a line break, or is there none? -/
def blankAhead : List Char → Bool
  | [] => true
  | c :: _ => isBlank c || isBreak c

/-- Is the next character a line break, or is there none? -/
def breakAhead : List Char → Bool
  | [] => true
  | c :: _ => isBreak c

/-- Is the character part of a name of an anchor, a handle or a directive? -/
def isNameChar (c : Char) : Bool := c.isAlphanum || c == '_' || c == '-'

/-! ## Places -/

/-- A place in a text. -/
structure Cursor where
  rest : List Char
  index : Nat := 0
  line : Nat := 0
  column : Nat := 0
  /-- Are there only blanks between the last line break and the place? -/
  fresh : Bool := false
  /-- What has been taken in of the text. -/
  window : Window := {}
  deriving DecidableEq, Repr

namespace Cursor

/-- The place, when `n` characters from it on can be taken in. -/
def need? (k : Cursor) (n : Nat) : Option Cursor :=
  (k.window.reach? n k.rest.head?).map fun w => { k with window := w }

/-- The place after one more character of the same line. -/
def advance (k : Cursor) : Cursor :=
  { rest := k.rest.drop 1
    index := k.index + 1
    line := k.line
    column := k.column + 1
    fresh := k.fresh && (k.rest.head?.map isBlank).getD false
    window := k.window.pass 1 }

/-- The place after `n` more characters of the same line, with `look`
characters taken in after each. -/
def pass? (look : Nat) : Nat → Cursor → Option Cursor
  | 0, k => some k
  | n + 1, k =>
    match k.advance.need? look with
    | some k => pass? look n k
    | none => none

/-- The place after `n` more characters of the same line, which have been
taken in. -/
def advanceBy : Nat → Cursor → Cursor
  | 0, k => k
  | n + 1, k => advanceBy n k.advance

/-- The place after the line break that takes `n` characters. -/
def toNextLine (k : Cursor) (n : Nat) : Cursor :=
  { rest := k.rest.drop n
    index := k.index + n
    line := k.line + 1
    column := 0
    fresh := true
    window := k.window.pass n }

/-- The line break at a place as it counts in a scalar, and the place after
it. A carriage return with a line feed is one line break. -/
def takeBreak? (k : Cursor) : Option (Char × Cursor) :=
  match k.rest with
  | '\r' :: '\n' :: _ => some ('\n', k.toNextLine 2)
  | c :: _ =>
    if isBreak c then
      some (if c.toNat == 0x2028 || c.toNat == 0x2029 then c else '\n', k.toNextLine 1)
    else none
  | [] => none

/-- The place after a line break; the same place when there is none. -/
def skipBreak (k : Cursor) : Cursor :=
  match k.takeBreak? with
  | some (_, k) => k
  | none => k

/-- The place after the characters of the line that satisfy `p`. -/
def skipWhile? (k : Cursor) (p : Char → Bool) : Option Cursor :=
  pass? 1 (k.rest.takeWhile p).length k

def skipBlanks? (k : Cursor) : Option Cursor := k.skipWhile? isBlank

def skipLine? (k : Cursor) : Option Cursor := k.skipWhile? fun c => !isBreak c

/-- The place after the line break, if there is one at the place. -/
def nextLine? (k : Cursor) : Option Cursor :=
  match k.rest with
  | c :: _ => if isBreak c then (k.need? 2).map skipBreak else some k
  | [] => some k

/-- Does the text there start with the mark, followed by a blank or the end
of the line? -/
def atMark (k : Cursor) (mark : List Char) : Bool :=
  mark.isPrefixOf k.rest && blankAhead (k.rest.drop mark.length)

/-- Is this the start of a line that starts or ends a document? -/
def atDocumentMark (k : Cursor) : Bool :=
  k.column == 0 && (k.atMark ['-', '-', '-'] || k.atMark ['.', '.', '.'])

end Cursor

/-! ## Texts over several lines -/

/-- The text of a scalar that is being read. -/
structure Folding where
  /-- The text up to the last word, last character first. -/
  text : List Char := []
  /-- The blanks after it, on the same line, last first. -/
  blanks : List Char := []
  /-- The first line break after it. An escaped line break stands for
  nothing. -/
  first : Option (List Char) := none
  /-- The line breaks after that, last first. -/
  more : List Char := []
  deriving DecidableEq, Repr

namespace Folding

/-- The text with one more blank. Blanks at the start of a line do not
count. -/
def blank (f : Folding) (c : Char) : Folding :=
  if f.first.isSome then f else { f with blanks := c :: f.blanks }

def lineBreak (f : Folding) (c : Char) : Folding :=
  if f.first.isSome then { f with more := c :: f.more }
  else { f with blanks := [], first := some [c] }

def escapedBreak (f : Folding) : Folding := { f with blanks := [], first := some [] }

/-- The text in which the blanks and breaks at the end are settled. -/
def settle (f : Folding) : Folding :=
  match f.first with
  | none => { text := f.blanks ++ f.text }
  | some ['\n'] => { text := (if f.more.isEmpty then [' '] else f.more) ++ f.text }
  | some l => { text := f.more ++ l ++ f.text }

def push (f : Folding) (c : Char) : Folding := { text := c :: f.settle.text }

def pushAll (f : Folding) (word : List Char) : Folding :=
  if word.isEmpty then f else { text := word.reverse ++ f.settle.text }

/-- The text that has been read, without blanks and breaks at the end. -/
def result (f : Folding) : List Char := f.text.reverse

end Folding

end ArgTaint.Yaml
