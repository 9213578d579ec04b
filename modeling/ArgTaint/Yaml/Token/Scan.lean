/-
ArgTaint.Yaml.Token.Scan — the tokens of a YAML text, one after the other.

A text is read from left to right. That a node is a key of a mapping shows
only at the colon after it, so the place of a node that may turn out to be a
key is remembered, and the token for the key is put in front of it then. Such
a key stands on one line and takes at most 1024 characters. Tokens wait in a
queue until two more follow them, and until they cannot turn out to be a key.

* `KeyPlace`, `Level`, `Scan` — what has been read.
* `Scan.token?` — reading one more token.
* `Scan.next?` — the first token of the queue.
-/
import ArgTaint.Yaml.Token
import ArgTaint.Yaml.Token.Comment
import ArgTaint.Yaml.Token.Property
import ArgTaint.Yaml.Token.Scalar

namespace ArgTaint.Yaml

/-- A node that may turn out to be a key. -/
structure KeyPlace where
  /-- Is it an error if it is none? -/
  required : Bool
  /-- Do tokens wait for it? -/
  awaited : Bool := true
  index : Nat
  line : Nat
  column : Nat
  deriving DecidableEq, Repr

/-- A level of brackets. -/
structure Level where
  /-- The number of the bracket, or of the first token of the last node that
  might be a key. -/
  number : Nat := 0
  key : Option KeyPlace := none
  deriving DecidableEq, Repr

namespace Level

/-- Do tokens wait for the node that starts with the token of the given
number? -/
def holds (l : Level) (number : Nat) : Bool :=
  l.number == number && (l.key.map KeyPlace.awaited).getD false

/-- The level in which no token waits for the node that starts with the token
of the given number. -/
def release (l : Level) (number : Nat) : Level :=
  if l.number = number then { l with key := l.key.map fun k => { k with awaited := false } }
  else l

end Level

/-- What has been read of a text. -/
structure Scan where
  place : Cursor
  /-- Has the start of the text been read? -/
  started : Bool := false
  /-- The tokens that wait. -/
  queue : List Token := []
  /-- The number of tokens that have left the queue. -/
  taken : Nat := 0
  /-- Is the first token of the queue settled? -/
  settled : Bool := false
  /-- One more than the column of the block under way; zero outside. -/
  indent : Nat := 0
  /-- The same for the blocks around it, innermost first. -/
  outer : List Nat := []
  /-- The number of them. -/
  blocks : Nat := 0
  /-- The innermost level. -/
  level : Level := {}
  /-- The levels around it, innermost first. -/
  levels : List Level := []
  /-- The number of them. -/
  depth : Nat := 0
  /-- May a key start at the place? -/
  keyAllowed : Bool := true
  deriving Repr

namespace Scan

/-- The greatest number of blocks, or of brackets, inside one another. -/
def maxDepth : Nat := 10000

def inFlow (s : Scan) : Bool := !s.levels.isEmpty

def number (s : Scan) : Nat := s.taken + s.queue.length

def push (s : Scan) (kind : TokenKind) (line : Nat) : Scan :=
  { s with queue := s.queue ++ [⟨kind, line⟩] }

/-- The scan with a token in front of the token with the given number. When
that one has left the queue, the new one comes last. -/
def insert (s : Scan) (number : Nat) (kind : TokenKind) (line : Nat) : Scan :=
  if number < s.taken then s.push kind line
  else
    let i := number - s.taken
    { s with queue := s.queue.take i ++ ⟨kind, line⟩ :: s.queue.drop i }

def moveTo (s : Scan) (k : Cursor) : Scan := { s with place := k }

/-! ## Possible keys -/

/-- The number of characters that a key may take. -/
def keyReach : Nat := 1024

/-- May the node still be a key? -/
def isFresh (s : Scan) (key : KeyPlace) : Bool :=
  s.place.line ≤ key.line && s.place.index ≤ key.index + keyReach

def forgetKey (s : Scan) : Scan := { s with level := { s.level with key := none } }

/-- The scan without the possible key of its level; none when the key is
required. -/
def dropKey? (s : Scan) : Option Scan :=
  match s.level.key with
  | some key => if key.required then none else some s.forgetKey
  | none => some s

/-- The scan in which the node at the place is a possible key. -/
def saveKey? (s : Scan) : Option Scan :=
  if s.keyAllowed then
    s.dropKey?.map fun t =>
      { t with
        level :=
          { number := s.number
            key := some
              { required := !s.inFlow && s.indent == s.place.column + 1
                index := s.place.index
                line := s.place.line
                column := s.place.column } } }
  else some s

/-! ## Blocks -/

/-- The scan in a block that starts at a column, unless it is in one
already. -/
def openBlock? (s : Scan) (column : Nat) (number : Nat) (kind : TokenKind) (line : Nat) :
    Option Scan :=
  if s.inFlow || column < s.indent then some s
  else if maxDepth ≤ s.blocks then none
  else
    some
      { (s.insert number kind line) with
        indent := column + 1
        outer := s.indent :: s.outer
        blocks := s.blocks + 1 }

/-- The scan after the end of the blocks that are indented to `indent` or
more; `outer` are the blocks around the one under way. -/
def closeBlocks (s : Scan) (indent : Nat) : List Nat → Scan
  | [] => s
  | above :: outer =>
    if s.inFlow || s.indent ≤ indent then s
    else
      closeBlocks
        { (s.push .blockEnd s.place.line) with
          indent := above
          outer := outer
          blocks := s.blocks - 1 }
        indent outer

def closeTo (s : Scan) (indent : Nat) : Scan := s.closeBlocks indent s.outer

/-! ## Blanks and comments -/

/-- The scan at the next character that is part of a token. Tabs are blanks
only where no key may start. Outside brackets a key may start on a new line.
While a byte order mark is where blocks of the text were last taken in, the
first character of a line is passed over. -/
def toToken? : Nat → Scan → Option Scan
  | 0, s => some s
  | bound + 1, s => do
    let k ← s.place.need? 1
    let k := if k.column == 0 && k.window.marked then k.advance else k
    let k ← k.need? 1
    let tabs := s.inFlow || !s.keyAllowed
    let k ← k.skipWhile? fun c => c == ' ' || (tabs && c == '\t')
    let k ← if k.rest.head? == some '#' then skipComments? k.rest.length k else some k
    match k.rest with
    | c :: _ =>
      if isBreak c then
        let k ← k.nextLine?
        toToken? bound { s with place := k, keyAllowed := s.keyAllowed || !s.inFlow }
      else return s.moveTo k
    | [] => return s.moveTo k

def pastComment? (s : Scan) : Option Scan := (skipLineComment? s.place).map s.moveTo

/-! ## Tokens -/

def streamEnd? (s : Scan) : Option Scan :=
  let k := s.place
  let k := if k.column = 0 then k else { k with column := 0, line := k.line + 1 }
  ((s.moveTo k).closeTo 0).dropKey?.map fun s =>
    { (s.push .streamEnd s.place.line) with keyAllowed := false }

def directive? (s : Scan) : Option Scan := do
  let s ← (s.closeTo 0).dropKey?
  let (kind, k) ← readDirective? s.place
  return { (s.push kind s.place.line) with place := k, keyAllowed := false }

/-- The scan after a line that starts or ends a document. -/
def documentMark? (s : Scan) (kind : TokenKind) : Option Scan :=
  (s.closeTo 0).dropKey?.map fun s =>
    { (s.push kind s.place.line) with place := s.place.advanceBy 3, keyAllowed := false }

/-- The scan after a token of one character. -/
def indicator (s : Scan) (kind : TokenKind) (keyAllowed : Bool) : Scan :=
  { (s.push kind s.place.line) with place := s.place.advance, keyAllowed := keyAllowed }

def openFlow? (s : Scan) (kind : TokenKind) : Option Scan := do
  let s ← s.saveKey?
  if maxDepth ≤ s.depth then none
  else
    return { (s.indicator kind true) with
      level := { number := s.number }
      levels := s.level :: s.levels
      depth := s.depth + 1 }

/-- The scan after a closing bracket. When nothing inside the brackets might
have been a key, no token waits for the brackets themselves any more. -/
def closeFlow? (s : Scan) (kind : TokenKind) : Option Scan :=
  s.dropKey?.map fun s =>
    let s := s.indicator kind false
    match s.levels with
    | [] => s
    | level :: levels =>
      { s with level := level.release s.level.number, levels := levels, depth := s.depth - 1 }

/-- The scan after the mark of an entry of a block sequence. Inside brackets
it is left to whoever reads the tokens to refuse it. -/
def blockEntry? (s : Scan) : Option Scan :=
  if !s.inFlow && !s.keyAllowed then none
  else do
    let s ← s.openBlock? s.place.column s.number .blockSequenceStart s.place.line
    let s ← s.dropKey?
    return s.indicator .blockEntry true

def explicitKey? (s : Scan) : Option Scan :=
  if !s.inFlow && !s.keyAllowed then none
  else do
    let s ← s.openBlock? s.place.column s.number .blockMappingStart s.place.line
    let s ← s.dropKey?
    return s.indicator .key (!s.inFlow)

/-- The scan after a colon that follows no possible key. -/
def bareValue? (s : Scan) : Option Scan :=
  if !s.inFlow && !s.keyAllowed then none
  else do
    let s ← s.openBlock? s.place.column s.number .blockMappingStart s.place.line
    return s.indicator .value (!s.inFlow)

/-- The scan after the mark of a value. A possible key in front of it is a
key. -/
def value? (s : Scan) : Option Scan :=
  match s.level.key with
  | some key =>
    if s.isFresh key then do
      let number := s.level.number
      let s := (s.insert number .key key.line).forgetKey
      let s ← s.openBlock? key.column number .blockMappingStart key.line
      return s.indicator .value false
    else if key.required then none
    else s.forgetKey.bareValue?
  | none => s.bareValue?

/-- The scan after a node that is read by `read?`. -/
def node? (s : Scan) (read? : Cursor → Option (TokenKind × Cursor)) : Option Scan := do
  let s ← s.saveKey?
  let (kind, k) ← read? s.place
  return { (s.push kind s.place.line) with place := k, keyAllowed := false }

def quoted? (s : Scan) (single : Bool) : Option Scan :=
  s.node? fun k => (readQuoted? single k).map fun (text, k) => (.scalar text .explicit, k)

def block? (s : Scan) (literal : Bool) : Option Scan := do
  let s ← s.dropKey?
  let (text, k) ← readBlock? literal s.indent s.place
  return { (s.push (.scalar text .explicit) s.place.line) with place := k, keyAllowed := true }

/-- The scan after a plain scalar. A key may start after it when it ends at
the start of a line. -/
def plain? (s : Scan) : Option Scan := do
  let s ← s.saveKey?
  let (text, k, newLine) ← readPlain? s.inFlow s.indent s.place
  return { (s.push (.scalar text .plain) s.place.line) with place := k, keyAllowed := newLine }

def startsPlain (s : Scan) (c : Char) (rest : List Char) : Bool :=
  if c == '-' then !(rest.head?.map isBlank).getD false
  else if c == '?' || c == ':' then !s.inFlow && !blankAhead rest
  else
    !(isBlank c || isBreak c || c == ',' || c == '[' || c == ']' || c == '\x7b' ||
      c == '\x7d' || c == '#' || c == '&' || c == '*' || c == '!' || c == '|' || c == '>' ||
      c == '\'' || c == '"' || c == '%' || c == '@' || c.toNat == 0x60)

/-- The scan after a token other than the marks of documents and of the
entries of block sequences; it starts with `c`. -/
def content? (s : Scan) (c : Char) (rest : List Char) : Option Scan :=
  if c == '[' then s.openFlow? .flowSequenceStart
  else if c == '\x7b' then s.openFlow? .flowMappingStart
  else if c == ']' then s.closeFlow? .flowSequenceEnd
  else if c == '\x7d' then s.closeFlow? .flowMappingEnd
  else if c == ',' then s.dropKey?.map fun s => s.indicator .flowEntry true
  else if c == '?' && (s.inFlow || blankAhead rest) then s.explicitKey?
  else if c == ':' && (s.inFlow || blankAhead rest) then s.value?
  else if c == '*' then
    s.node? fun k => (readAnchor? k).map fun (name, k) => (.reference name, k)
  else if c == '&' then
    s.node? fun k => (readAnchor? k).map fun (name, k) => (.anchor name, k)
  else if c == '!' then
    s.node? fun k => (readTag? k).map fun (t, k) => (.tag t, k)
  else if c == '|' && !s.inFlow then s.block? true
  else if c == '>' && !s.inFlow then s.block? false
  else if c == '\'' then s.quoted? true
  else if c == '"' then s.quoted? false
  else if s.startsPlain c rest then s.plain?
  else none

/-- The scan after the next token, and after the block ends before it; none
when there is no well-formed token. A comment belongs to the token in front
of it, unless that is the mark of an entry. -/
def token? (s : Scan) : Option Scan := do
  let k ← s.place.need? 1
  if !s.started then
    return { ((s.moveTo k).push .streamStart k.line) with started := true }
  else
    let s ← toToken? (k.rest.length + 1) (s.moveTo k)
    let s := s.closeTo (s.place.column + 1)
    let k ← s.place.need? 4
    let s := s.moveTo k
    match k.rest with
    | [] => s.streamEnd?
    | c :: rest =>
      if k.column == 0 && c == '%' then s.directive?
      else if k.column == 0 && k.atMark ['-', '-', '-'] then s.documentMark? .documentStart
      else if k.column == 0 && k.atMark ['.', '.', '.'] then s.documentMark? .documentEnd
      else if c == '-' && blankAhead rest then s.blockEntry?
      else
        let s ← s.content? c rest
        s.pastComment?

/-! ## The queue -/

/-- The scan in which no token waits for the node that starts with the first
token of the queue. -/
def releaseFirst (s : Scan) : Scan :=
  { s with
    level := if s.level.holds s.taken then { s.level with key := none } else s.level
    levels := s.levels.map fun l => if l.holds s.taken then { l with key := none } else l }

/-- The scan in which the first token of the queue is settled: two more follow
it, and it does not start a node that may be a key. `bound` is the number of
tokens that may still be read. -/
def settle? : Nat → Scan → Option Scan
  | 0, _ => none
  | bound + 1, s =>
    if 2 < s.queue.length then
      match (s.level :: s.levels).find? fun l => l.holds s.taken with
      | none => some { s with settled := true }
      | some l =>
        match l.key with
        | none => some { s with settled := true }
        | some key =>
          if s.isFresh key then s.token?.bind (settle? bound)
          else if key.required then none
          else some { s.releaseFirst with settled := true }
    else s.token?.bind (settle? bound)

/-- The first token of the queue. Every token but those at the end of the text
takes a character. -/
def next? (s : Scan) : Option (Token × Scan) := do
  let s ← if s.settled then some s else settle? (s.place.rest.length + 8) s
  match s.queue with
  | [] => none
  | t :: _ => return (t, s)

def drop (s : Scan) : Scan :=
  { s with queue := s.queue.drop 1, taken := s.taken + 1, settled := false }

/-- The scan at the start of a text. A byte order mark in front of it does not
count. -/
def ofText (text : String) : Scan :=
  match text.toList with
  | [] => { place := { rest := [] } }
  | c :: rest =>
    if isOrderMark c then { place := { rest := rest, window := .ofText 3 rest } }
    else { place := { rest := c :: rest, window := .ofText 0 (c :: rest) } }

end Scan

end ArgTaint.Yaml
