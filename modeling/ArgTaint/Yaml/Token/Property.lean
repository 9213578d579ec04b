/-
ArgTaint.Yaml.Token.Property — reading anchors, references, tags and
directives.

Every reader answers what it read and the place after it; none when the text
is not well-formed.
-/
import ArgTaint.Yaml.Cursor
import ArgTaint.Yaml.Token
import ArgTaint.Text.Quoted

namespace ArgTaint.Yaml

/-! ## Anchors -/

/-- May the name of an anchor end before what is left? -/
def nameEnds : List Char → Bool
  | [] => true
  | c :: _ =>
    isBlank c || isBreak c || c == '?' || c == ':' || c == ',' || c == ']' || c == '\x7d' ||
      c == '%' || c == '@' || c.toNat == 0x60

def readAnchor? (k : Cursor) : Option (List Char × Cursor) := do
  let k ← k.advance.need? 1
  let name := k.rest.takeWhile isNameChar
  let k ← k.pass? 1 name.length
  if name.isEmpty || !nameEnds k.rest then none else some (name, k)

/-! ## Tags -/

def isTagChar (c : Char) : Bool :=
  isNameChar c || c == ';' || c == '/' || c == '?' || c == ':' || c == '@' || c == '&' ||
    c == '=' || c == '+' || c == '$' || c == ',' || c == '.' || c == '!' || c == '~' ||
    c == '*' || c == '\'' || c == '(' || c == ')' || c == '[' || c == ']'

/-- The number of bytes of a character with the given lead byte; zero when no
character starts with it. -/
def encodedWidth (b : Nat) : Nat :=
  if b < 0x80 then 1
  else if 0xc0 ≤ b && b < 0xe0 then 2
  else if 0xe0 ≤ b && b < 0xf0 then 3
  else if 0xf0 ≤ b && b < 0xf8 then 4
  else 0

/-- The bytes of `width` percent escapes, and the place after them. -/
def readPercents? : Nat → Cursor → Option (List Nat × Cursor)
  | 0, k => some ([], k)
  | width + 1, k => do
    let k ← k.need? 3
    match k.rest with
    | '%' :: rest =>
      let (b, _) ← Text.readHex? 2 0 rest
      let (bs, k) ← readPercents? width (k.advanceBy 3)
      return (b :: bs, k)
    | _ => none

/-- The character of percent escapes, one for each of its bytes, and the
place after them. -/
def readPercentChar? (k : Cursor) : Option (List Char × Cursor) := do
  let (lead, _) ← readPercents? 1 k
  let width := encodedWidth (lead.headD 0)
  if width = 0 then none
  else
    let (bytes, k) ← readPercents? width k
    if (bytes.drop 1).all (fun b => 0x80 ≤ b && b < 0xc0) then
      return ((Text.ofBytes (bytes.map Nat.toUInt8)).display.toList, k)
    else none

/-- The characters of a tag, and the place after them; `bound` is the number
of characters that may still be read. -/
def readTagText? : Nat → Cursor → Option (List Char × Cursor)
  | 0, _ => none
  | bound + 1, k => do
    let k ← k.need? 1
    match k.rest with
    | [] => return ([], k)
    | c :: _ =>
      if c == '%' then
        let (cs, k) ← readPercentChar? k
        let (more, k) ← readTagText? bound k
        return (cs ++ more, k)
      else if isTagChar c then
        let (more, k) ← readTagText? bound k.advance
        return (c :: more, k)
      else return ([], k)

def readSomeTagText? (k : Cursor) : Option (List Char × Cursor) :=
  match readTagText? (k.rest.length + 1) k with
  | some ([], _) => none
  | found => found

/-- The handle of a tag: an exclamation mark, and a name with another
exclamation mark. -/
def readHandle? (k : Cursor) : Option (List Char × Cursor) := do
  let k ← k.need? 1
  match k.rest with
  | '!' :: rest =>
    let name := rest.takeWhile isNameChar
    let k ← k.pass? 1 (name.length + 1)
    match k.rest with
    | '!' :: _ => return ('!' :: name ++ ['!'], k.advance)
    | _ => return ('!' :: name, k)
  | _ => none

def isHandle (handle : List Char) : Bool := 1 < handle.length && handle.getLast? == some '!'

/-- A tag without its end. -/
def readTagBody? (k : Cursor) : Option (WrittenTag × Cursor) := do
  let k ← k.need? 2
  match k.rest with
  | '!' :: '<' :: _ =>
    let (suffix, k) ← readSomeTagText? (k.advanceBy 2)
    match k.rest with
    | '>' :: _ => return (⟨[], suffix⟩, k.advance)
    | _ => none
  | _ =>
    let (handle, k) ← readHandle? k
    if isHandle handle then
      let (suffix, k) ← readSomeTagText? k
      return (⟨handle, suffix⟩, k)
    else
      let (more, k) ← readTagText? (k.rest.length + 1) k
      let suffix := handle.drop 1 ++ more
      return (if suffix.isEmpty then ⟨[], ['!']⟩ else ⟨['!'], suffix⟩, k)

/-- A tag; a blank or the end of the line comes after it. -/
def readTag? (k : Cursor) : Option (WrittenTag × Cursor) := do
  let (t, k) ← readTagBody? k
  let k ← k.need? 1
  if blankAhead k.rest then return (t, k) else none

/-! ## Directives -/

/-- The place after blanks; what follows them has been taken in. -/
def pastBlanks? (k : Cursor) : Option Cursor := do
  let k ← k.need? 1
  k.skipBlanks?

/-- A number of one or two digits. -/
def readVersionNumber? (k : Cursor) : Option (Nat × Cursor) := do
  let k ← k.need? 1
  let digits := k.rest.takeWhile Char.isDigit
  if digits.isEmpty || 2 < digits.length then none
  else
    let k ← k.pass? 1 digits.length
    return (digits.foldl (fun n d => n * 10 + (d.toNat - 48)) 0, k)

/-- The version of a `%YAML` directive. -/
def readVersion? (k : Cursor) : Option (TokenKind × Cursor) := do
  let (major, k) ← readVersionNumber? (← pastBlanks? k)
  match k.rest with
  | '.' :: _ =>
    let (minor, k) ← readVersionNumber? k.advance
    return (.version major minor, k)
  | _ => none

/-- The handle of a `%TAG` directive and what it stands for. -/
def readTagDirective? (k : Cursor) : Option (TokenKind × Cursor) := do
  let (handle, k) ← readHandle? (← pastBlanks? k)
  let k ← k.need? 1
  if (handle == ['!'] || isHandle handle) && (k.rest.head?.map isBlank).getD false then
    let (expansion, k) ← readSomeTagText? (← k.skipBlanks?)
    let k ← k.need? 1
    if blankAhead k.rest then return (.tagDirective handle expansion, k) else none
  else none

def readDirective? (k : Cursor) : Option (TokenKind × Cursor) := do
  let k ← k.advance.need? 1
  let name := k.rest.takeWhile isNameChar
  let k ← k.pass? 1 name.length
  if !blankAhead k.rest then none
  else
    let (kind, k) ←
      match String.ofList name with
      | "YAML" => readVersion? k
      | "TAG" => readTagDirective? k
      | _ => none
    let k ← pastBlanks? k
    let k ← if k.rest.head? == some '#' then k.skipLine? else some k
    if breakAhead k.rest then
      let k ← k.nextLine?
      return (kind, k)
    else none

end ArgTaint.Yaml
