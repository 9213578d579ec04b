/-
ArgTaint.Yaml.Token.Comment — passing over comments.

A comment runs to the end of its line. What may be a comment is looked for in
the 512 characters from a place on: after a token on the same line, after a
comment also on the lines that follow, where it may be indented by tabs.

* `commentAhead?` — how far the next comment is.
* `skipLineComment?` — past the comment after a token.
* `skipComments?` — past comments on lines of their own.
-/
import ArgTaint.Yaml.Cursor

namespace ArgTaint.Yaml

/-- The number of characters in which a comment is looked for. -/
def commentReach : Nat := 512

/-- Is the character a line break that comments may follow one another
across? -/
def isPlainBreak (c : Char) : Bool := c == '\n' || c == '\r'

/-- How many characters there are in front of the next comment, if there are
only blanks in front of it and, when `lines`, line feeds and carriage
returns; the first `i` characters have been looked at, `bound` more may be. A
line break of another kind ends the search one character later. -/
def commentAhead? (lines : Bool) : Nat → Nat → Cursor → Option (Cursor × Option Nat)
  | 0, _, k => some (k, none)
  | bound + 1, i, k => do
    let k ← k.need? (i + 1)
    match k.rest[i]? with
    | some c =>
      if isBlank c || (lines && isPlainBreak c) then commentAhead? lines bound (i + 1) k
      else if c == '#' then return (k, some i)
      else if lines && isBreak c && 0 < bound then
        let k ← k.need? (i + 2)
        return (k, none)
      else return (k, none)
    | none => return (k, none)

/-- The place with the given index, after blanks and line breaks. -/
def passGap (index : Nat) : Nat → Cursor → Cursor
  | 0, k => k
  | bound + 1, k =>
    if index ≤ k.index then k
    else
      match k.takeBreak? with
      | some (_, k) => passGap index bound k
      | none => passGap index bound k.advance

/-- The place after the comment that starts `i` characters further on. -/
def passComment? (k : Cursor) (i : Nat) : Option Cursor := (passGap (k.index + i) i k).skipLine?

/-- The place after the comment at the end of the line, if there is one. At
the start of a line there is none. -/
def skipLineComment? (k : Cursor) : Option Cursor :=
  if k.fresh then some k
  else do
    let (k, found) ← commentAhead? false commentReach 0 k
    match found with
    | some i => passComment? k i
    | none => return k

/-- The place after the comment at a place, and after the comments on the
lines that follow; `bound` is the number of comments that may be passed. -/
def skipComments? : Nat → Cursor → Option Cursor
  | 0, k => some k
  | bound + 1, k => do
    let k ← k.skipLine?
    let plain := (k.rest.head?.map isPlainBreak).getD true
    let (k, found) ← commentAhead? true (if plain then commentReach - 1 else 0) 1 (← k.need? 2)
    match found with
    | some i => skipComments? bound (passGap (k.index + i) i k)
    | none => return k

end ArgTaint.Yaml
