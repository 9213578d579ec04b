/-
ArgTaint.Text.Space — white space, trimming and fields.

White space is the Unicode property: the ASCII blanks and line controls,
U+0085, U+00A0, the spaces of general punctuation, the separators U+2028 and
U+2029, U+3000. The zero-width space U+200B is not in it.

* `Text.trim` — a text without the white space at its two ends.
* `Text.fields` — the maximal runs of symbols that are not white space.
* `Text.splitOn` — the pieces between the occurrences of one character.
* `Text.cut?` — the text before and after the first occurrence of a word.
-/
import ArgTaint.Text.Symbol

namespace ArgTaint

namespace Text

def isSpace (c : Char) : Bool :=
  let n := c.toNat
  (decide (0x09 ≤ n) && decide (n ≤ 0x0d)) || n == 0x20 || n == 0x85 || n == 0xa0 ||
    n == 0x1680 || (decide (0x2000 ≤ n) && decide (n ≤ 0x200a)) || n == 0x2028 ||
    n == 0x2029 || n == 0x202f || n == 0x205f || n == 0x3000

end Text

/-- Is the symbol white space? A stray byte is not. -/
def Symbol.isSpace : Symbol → Bool
  | .char c => Text.isSpace c
  | .stray _ => false

namespace Text

def trimLeft (t : Text) : Text := t.dropWhile Symbol.isSpace

def trimRight (t : Text) : Text := (t.reverse.dropWhile Symbol.isSpace).reverse

def trim (t : Text) : Text := trimRight (trimLeft t)

/-- The fields of a text, with `field` holding the symbols of the field that
is being read, last first. -/
def fieldsFrom (field : Text) : Text → List Text
  | [] => if field.isEmpty then [] else [field.reverse]
  | s :: rest =>
    if s.isSpace then
      if field.isEmpty then fieldsFrom [] rest
      else field.reverse :: fieldsFrom [] rest
    else fieldsFrom (s :: field) rest

/-- The maximal runs of symbols that are not white space. -/
def fields (t : Text) : List Text := fieldsFrom [] t

/-- The pieces between the occurrences of `sep`; one piece when there is
none. -/
def splitOn (sep : Char) : Text → List Text
  | [] => [[]]
  | s :: rest =>
    if s = .char sep then [] :: splitOn sep rest
    else
      match splitOn sep rest with
      | [] => [[s]]
      | piece :: pieces => (s :: piece) :: pieces

/-- The text before and the text after the first occurrence of `word`. -/
def cut? (word : Text) : Text → Option (Text × Text)
  | [] => if word.isEmpty then some ([], []) else none
  | s :: rest =>
    if word.isPrefixOf (s :: rest) then
      some ([], (s :: rest).drop word.length)
    else (cut? word rest).map fun (before, after) => (s :: before, after)

def holds (word : Text) (t : Text) : Bool := (cut? word t).isSome

end Text

end ArgTaint
