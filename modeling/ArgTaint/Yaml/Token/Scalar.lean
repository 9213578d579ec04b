/-
ArgTaint.Yaml.Token.Scalar — reading scalars.

Every reader starts at the first character of the scalar and answers its text
and the place after it; none when the text is not well-formed. A bound on the
number of characters is passed along.

* `readPlain?` — a plain scalar; it ends at `: `, at ` #`, at a line that is
  not indented enough and, inside brackets, at a bracket or a comma.
* `readQuoted?` — a scalar between single or double quotes.
* `readBlock?` — a literal or folded block.
-/
import ArgTaint.Yaml.Cursor
import ArgTaint.Text.Quoted

namespace ArgTaint.Yaml

/-! ## Plain scalars -/

def endsInFlow (c : Char) : Bool :=
  c == ',' || c == '?' || c == '[' || c == ']' || c == '\x7b' || c == '\x7d'

/-- The characters of a plain scalar up to the next blank, line break or
indicator. -/
def plainWord (flow : Bool) : List Char → List Char
  | [] => []
  | c :: rest =>
    if isBlank c || isBreak c then []
    else if c == ':' && blankAhead rest then []
    else if flow && endsInFlow c then []
    else c :: plainWord flow rest

/-- The place after blanks and line breaks inside a plain scalar. A tab must
not stand for indentation. -/
def plainGap? (indent : Nat) : Nat → Cursor → Folding → Option (Cursor × Folding)
  | 0, _, _ => none
  | bound + 1, k, f =>
    match k.rest with
    | [] => some (k, f)
    | c :: _ =>
      if isBlank c then
        if f.first.isSome && k.column < indent && c == '\t' then none
        else do
          let k ← k.advance.need? 1
          plainGap? indent bound k (f.blank c)
      else if isBreak c then do
        let k ← k.need? 2
        let (b, k) ← k.takeBreak?
        let k ← k.need? 1
        plainGap? indent bound k (f.lineBreak b)
      else some (k, f)

def plainWords? (flow : Bool) (indent : Nat) :
    Nat → Cursor → Folding → Option (Cursor × Folding)
  | 0, _, _ => none
  | bound + 1, k, f => do
    let k ← k.need? 4
    if k.atDocumentMark || k.rest.head? == some '#' then return (k, f)
    else
      let word := plainWord flow k.rest
      let k ← k.pass? 2 word.length
      let f := f.pushAll word
      if !k.rest.isEmpty && blankAhead k.rest then
        let (k, f) ← plainGap? indent (bound + 1) k f
        if !flow && k.column < indent then return (k, f) else plainWords? flow indent bound k f
      else return (k, f)

/-- A plain scalar, and the place after it. The last answer is whether that
place is on a later line. -/
def readPlain? (flow : Bool) (indent : Nat) (k : Cursor) : Option (List Char × Cursor × Bool) :=
  (plainWords? flow indent (k.rest.length + 2) k {}).map fun (k, f) =>
    (f.result, k, f.first.isSome)

/-! ## Quoted scalars -/

/-- The character of a one-letter escape. -/
def escapedChar? (c : Char) : Option Char :=
  match c with
  | '0' => some (Char.ofNat 0x0)
  | 'a' => some (Char.ofNat 0x7)
  | 'b' => some (Char.ofNat 0x8)
  | 't' => some '\t'
  | '\t' => some '\t'
  | 'n' => some '\n'
  | 'v' => some (Char.ofNat 0xb)
  | 'f' => some (Char.ofNat 0xc)
  | 'r' => some '\r'
  | 'e' => some (Char.ofNat 0x1b)
  | ' ' => some ' '
  | '"' => some '"'
  | '\'' => some '\''
  | '\\' => some '\\'
  | 'N' => some (Char.ofNat 0x85)
  | '_' => some (Char.ofNat 0xa0)
  | 'L' => some (Char.ofNat 0x2028)
  | 'P' => some (Char.ofNat 0x2029)
  | _ => none

def escapeWidth? (c : Char) : Option Nat :=
  match c with
  | 'x' => some 2
  | 'u' => some 4
  | 'U' => some 8
  | _ => none

/-- The character of an escape, given the letter after its backslash and the
place after the letter, and the place after the escape. -/
def readEscaped? (letter : Char) (k : Cursor) : Option (Char × Cursor) :=
  match escapedChar? letter with
  | some e => some (e, k)
  | none => do
    let width ← escapeWidth? letter
    let k ← k.need? width
    let (n, _) ← Text.readHex? width 0 k.rest
    if (0xd800 ≤ n && n ≤ 0xdfff) || 0x10ffff < n then none
    else return (Char.ofNat n, k.advanceBy width)

/-- The words of a scalar between single quotes up to the next blank, line
break or closing quote. -/
def singleWord? : Nat → Cursor → Folding → Option (Cursor × Folding)
  | 0, _, _ => none
  | bound + 1, k, f =>
    match k.rest with
    | '\'' :: '\'' :: _ => do
      let k ← (k.advanceBy 2).need? 2
      singleWord? bound k (f.push '\'')
    | '\'' :: _ => some (k, f)
    | c :: _ =>
      if isBlank c || isBreak c then some (k, f)
      else do
        let k ← k.advance.need? 2
        singleWord? bound k (f.push c)
    | [] => some (k, f)

/-- The words of a scalar between double quotes up to the next blank, line
break or closing quote, or past an escaped line break. -/
def doubleWord? : Nat → Cursor → Folding → Option (Cursor × Folding)
  | 0, _, _ => none
  | bound + 1, k, f =>
    match k.rest with
    | '"' :: _ => some (k, f)
    | '\\' :: letter :: _ =>
      if isBreak letter then do
        let k ← k.need? 3
        return (k.advance.skipBreak, f.settle.escapedBreak)
      else do
        let (e, k) ← readEscaped? letter (k.advanceBy 2)
        let k ← k.need? 2
        doubleWord? bound k (f.push e)
    | ['\\'] => none
    | c :: _ =>
      if isBlank c || isBreak c then some (k, f)
      else do
        let k ← k.advance.need? 2
        doubleWord? bound k (f.push c)
    | [] => some (k, f)

/-- The place after blanks and line breaks between quotes. -/
def quotedGap? : Nat → Cursor → Folding → Option (Cursor × Folding)
  | 0, _, _ => none
  | bound + 1, k, f =>
    match k.rest with
    | [] => some (k, f)
    | c :: _ =>
      if isBlank c then do
        let k ← k.advance.need? 1
        quotedGap? bound k (f.blank c)
      else if isBreak c then do
        let k ← k.need? 2
        let (b, k) ← k.takeBreak?
        let k ← k.need? 1
        quotedGap? bound k (f.lineBreak b)
      else some (k, f)

/-- The words of a scalar up to its closing quote. -/
def quotedWords? (single : Bool) : Nat → Cursor → Folding → Option (Cursor × Folding)
  | 0, _, _ => none
  | bound + 1, k, f => do
    let k ← k.need? 4
    if k.atDocumentMark || k.rest.isEmpty then none
    else
      let (k, f) ← if single then singleWord? (bound + 1) k f else doubleWord? (bound + 1) k f
      let k ← k.need? 1
      if k.rest.head? == some (if single then '\'' else '"') then return (k.advance, f)
      else
        let (k, f) ← quotedGap? (bound + 1) k f
        quotedWords? single bound k f.settle

def readQuoted? (single : Bool) (k : Cursor) : Option (List Char × Cursor) :=
  (quotedWords? single (k.rest.length + 1) k.advance {}).map fun (k, f) => (f.settle.result, k)

/-! ## Blocks -/

/-- What becomes of the line breaks at the end of a block. -/
inductive Chomping where
  | strip
  | clip
  | keep
  deriving DecidableEq, Repr

def readChomping? (k : Cursor) : Option (Option Chomping × Cursor) := do
  let k ← k.need? 1
  match k.rest with
  | '+' :: _ => return (some .keep, k.advance)
  | '-' :: _ => return (some .strip, k.advance)
  | _ => return (none, k)

/-- The digit that gives the indentation of a block, and the place after it.
The outer answer is none when it is zero. -/
def readIndentation? (k : Cursor) : Option (Option Nat × Cursor) := do
  let k ← k.need? 1
  match k.rest with
  | c :: _ =>
    if c == '0' then none
    else if c.isDigit then return (some (c.toNat - 48), k.advance)
    else return (none, k)
  | [] => return (none, k)

/-- The marks after the indicator of a block, in either order. -/
def readBlockMarks? (k : Cursor) : Option (Chomping × Option Nat × Cursor) := do
  match ← readChomping? k with
  | (some chomping, k) =>
    let (indentation, k) ← readIndentation? k
    return (chomping, indentation, k)
  | (none, k) =>
    match ← readIndentation? k with
    | (none, k) => return (.clip, none, k)
    | (some indentation, k) =>
      let (chomping, k) ← readChomping? k
      return (chomping.getD .clip, some indentation, k)

/-- The number of spaces that indent a line of a block; an indentation of zero
is not known yet. -/
def indentation (indent : Nat) (k : Cursor) : Nat :=
  let room := if indent = 0 then k.rest.length else indent - k.column
  ((k.rest.take room).takeWhile (· == ' ')).length

/-- The place after the indentation and the empty lines of a block: the line
breaks, last first, and the greatest column reached. -/
def blockBreaks? (indent : Nat) :
    Nat → Cursor → List Char → Nat → Option (List Char × Nat × Cursor)
  | 0, _, _, _ => none
  | bound + 1, k, breaks, widest => do
    let k ← k.need? 1
    let k ← k.pass? 1 (indentation indent k)
    let widest := max widest k.column
    match k.rest with
    | c :: _ =>
      if (indent = 0 || k.column < indent) && c == '\t' then none
      else if isBreak c then
        let k ← k.need? 2
        let (b, k) ← k.takeBreak?
        blockBreaks? indent bound k (b :: breaks) widest
      else return (breaks, widest, k)
    | [] => return (breaks, widest, k)

/-- The indentation of a block that does not give it: that of its first line,
but more than that of what holds the block. -/
def inferredIndent (outer widest : Nat) : Nat := max (max widest outer) 1

/-- The lines of a block. `lead` is the line break after the text so far,
`breaks` are the line breaks of the empty lines after it, last first;
`blankLine` is whether the last line started with a blank. -/
def blockLines? (literal : Bool) (indent : Nat) :
    Nat → Cursor → List Char → List Char → List Char → Bool →
      Option (List Char × List Char × List Char × Cursor)
  | 0, _, _, _, _, _ => none
  | bound + 1, k, text, lead, breaks, blankLine =>
    if k.column == indent && !k.rest.isEmpty then do
      let startsBlank := (k.rest.head?.map isBlank).getD false
      let folds := !literal && !blankLine && !startsBlank && lead == ['\n']
      let joint := if folds then (if breaks.isEmpty then [' '] else []) else lead
      let line := k.rest.takeWhile fun c => !isBreak c
      let text := line.reverse ++ breaks ++ joint ++ text
      let k ← k.pass? 1 line.length
      let k ← k.need? 2
      let (lead, k) :=
        match k.takeBreak? with
        | some (b, k) => ([b], k)
        | none => ([], k)
      let (breaks, _, k) ← blockBreaks? indent (bound + 1) k [] 0
      blockLines? literal indent bound k text lead breaks startsBlank
    else some (text, lead, breaks, k)

/-- A literal or folded block inside what is indented to `outer - 1`, and the
place after it. -/
def readBlock? (literal : Bool) (outer : Nat) (k : Cursor) : Option (List Char × Cursor) := do
  let (chomping, indentation, k) ← readBlockMarks? k.advance
  let k ← k.need? 1
  let k ← k.skipBlanks?
  let k ← if k.rest.head? == some '#' then k.skipLine? else some k
  if !breakAhead k.rest then none
  else
    let k ← k.nextLine?
    let bound := k.rest.length + 2
    let given := (indentation.map (outer - 1 + ·)).getD 0
    let (breaks, widest, k) ← blockBreaks? given bound k [] 0
    let indent := if given = 0 then inferredIndent outer widest else given
    let (text, lead, breaks, k) ← blockLines? literal indent bound k [] [] breaks false
    let tail :=
      match chomping with
      | .strip => []
      | .clip => lead
      | .keep => breaks ++ lead
    return ((tail ++ text).reverse, k)

end ArgTaint.Yaml
