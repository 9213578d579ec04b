/-
ArgTaint.Yaml.Token — the units of a YAML text.

A token has the line that it starts on. The start and end of block
collections, which only the indentation shows, are tokens of their own.
-/

namespace ArgTaint.Yaml

/-- How a scalar is written. -/
inductive Style where
  | plain
  /-- Between quotes, or as a block. -/
  | explicit
  deriving DecidableEq, Repr

/-- A tag as it is written: its handle and its suffix. A tag in full has the
empty handle. -/
structure WrittenTag where
  handle : List Char
  suffix : List Char
  deriving DecidableEq, Repr

/-- What a token is. -/
inductive TokenKind where
  | streamStart
  | streamEnd
  | version (major minor : Nat)
  | tagDirective (handle expansion : List Char)
  | documentStart
  | documentEnd
  | blockSequenceStart
  | blockMappingStart
  | blockEnd
  | flowSequenceStart
  | flowSequenceEnd
  | flowMappingStart
  | flowMappingEnd
  | blockEntry
  | flowEntry
  | key
  | value
  | reference (name : List Char)
  | anchor (name : List Char)
  | tag (t : WrittenTag)
  | scalar (text : List Char) (style : Style)
  deriving DecidableEq, Repr

/-- A token and the line that it starts on, counted from zero. -/
structure Token where
  kind : TokenKind
  line : Nat
  deriving DecidableEq, Repr

end ArgTaint.Yaml
