/-
ArgTaint.Yaml.Node.Parse — from tokens to the first document.

The grammar is that of nodes in block and flow context; every rule takes the
tokens that it needs from the front. A bound on the number of rules is passed
along, which the length of the text gives: no character makes more than four
tokens, and no token takes more than three rules.

* `Parse` — the tokens that are left, and the anchors so far.
* `Parse.node` and the rules for collections.
* `document?` — the first document of a text: none when the text is not
  well-formed, nothing when it is empty.
-/
import ArgTaint.Yaml.Node
import ArgTaint.Yaml.Token.Scan

namespace ArgTaint.Yaml

/-- What is left to read, and what has been read. -/
structure ParseState where
  /-- The tokens that are left. -/
  tokens : Scan
  /-- The number of the anchored node that a name stands for, latest first. -/
  names : List (List Char × Nat) := []
  /-- The anchored nodes that are complete. -/
  anchored : List (Nat × Node) := []
  /-- The next free number. -/
  next : Nat := 0
  /-- What the handles of tags stand for. -/
  handles : List (List Char × List Char) := []
  deriving Repr

/-- A rule of the grammar; none when the tokens do not fit it. -/
abbrev Parse := StateT ParseState Option

namespace Parse

def peek : Parse Token := fun s =>
  s.tokens.next?.map fun (t, tokens) => (t, { s with tokens := tokens })

def skip : Parse Unit := modify fun s => { s with tokens := s.tokens.drop }

def fresh : Parse Nat := modifyGet fun s => (s.next, { s with next := s.next + 1 })

/-! ## Properties of nodes -/

def shortTag (tag : List Char) : String :=
  let full := "tag:yaml.org,2002:".toList
  if full.isPrefixOf tag then String.ofList ('!' :: '!' :: tag.drop full.length)
  else String.ofList tag

/-- The tag that is meant by a written tag; the empty text when it leaves the
tag open. -/
def meantTag (t : WrittenTag) : Parse String := do
  let full ←
    if t.handle.isEmpty then pure t.suffix
    else
      match (← get).handles.lookup t.handle with
      | some expansion => pure (expansion ++ t.suffix)
      | none => failure
  if full.isEmpty then failure
  else if full == ['!'] then return "!"
  else return shortTag full

/-- The properties of a node. -/
structure Properties where
  anchor : Option (List Char) := none
  tag : Option WrittenTag := none

/-- The properties in front of a node, in either order. -/
def properties : Parse Properties := do
  match (← peek).kind with
  | .anchor name =>
    skip
    match (← peek).kind with
    | .tag t => skip; return ⟨some name, some t⟩
    | _ => return ⟨some name, none⟩
  | .tag t =>
    skip
    match (← peek).kind with
    | .anchor name => skip; return ⟨some name, some t⟩
    | _ => return ⟨none, some t⟩
  | _ => return {}

/-- Declare an anchor; the answer is the number of its node. -/
def declare (anchor : Option (List Char)) : Parse (Option Nat) := do
  match anchor with
  | none => return none
  | some name =>
    let n ← fresh
    modify fun s => { s with names := (name, n) :: s.names }
    return some n

def complete (number : Option Nat) (node : Node) : Parse Node := do
  match number with
  | none => return node
  | some n =>
    modify fun s => { s with anchored := (n, node) :: s.anchored }
    return node

def reference (line : Nat) (name : List Char) : Parse Node := do
  match (← get).names.lookup name with
  | none => failure
  | some anchor => return .reference line (String.ofList name) (← fresh) anchor

/-- The tag of a collection that has the given tag when it says nothing else. -/
def collectionTag (tag standard : String) : String :=
  if tag = "" || tag = "!" then standard else tag

def scalarTag (tag : String) (style : Style) (text : String) : String :=
  if tag = "" || tag = "!" then
    match style with
    | .plain => (Scalar.ofPlain text).tag
    | .explicit => Scalar.text.tag
  else tag

/-! ## Nodes -/

def nextIs (kinds : List TokenKind) : Parse Bool := return kinds.contains (← peek).kind

/-- The empty scalar at the next token. -/
def emptyHere : Parse Node := return .empty ((← peek).line + 1)

mutual

/-- A node. `block` is whether it may be a block, `indentless` whether it may
be a sequence that is indented like the mapping around it. -/
def node (bound : Nat) (block indentless : Bool) : Parse Node :=
  match bound with
  | 0 => failure
  | bound + 1 => do
    let first ← peek
    let line := first.line + 1
    match first.kind with
    | .reference name => skip; reference line name
    | _ =>
      let props ← properties
      let tag ←
        match props.tag with
        | some t => meantTag t
        | none => pure ""
      let number ← declare props.anchor
      match (← peek).kind with
      | .scalar text style =>
        skip
        let text := String.ofList text
        complete number (.scalar line (scalarTag tag style text) text)
      | .flowSequenceStart =>
        skip
        complete number (.sequence line (collectionTag tag "!!seq") (← flowItems bound true))
      | .flowMappingStart =>
        skip
        complete number (.mapping line (collectionTag tag "!!map") (← flowEntries bound true))
      | .blockEntry =>
        if indentless then
          complete number (.sequence line (collectionTag tag "!!seq") (← indentlessItems bound))
        else if props.anchor.isSome || props.tag.isSome then
          complete number (.scalar line (scalarTag tag .plain "") "")
        else failure
      | .blockSequenceStart =>
        if block then
          skip
          complete number (.sequence line (collectionTag tag "!!seq") (← blockItems bound))
        else if props.anchor.isSome || props.tag.isSome then
          complete number (.scalar line (scalarTag tag .plain "") "")
        else failure
      | .blockMappingStart =>
        if block then
          skip
          complete number (.mapping line (collectionTag tag "!!map") (← blockEntries bound))
        else if props.anchor.isSome || props.tag.isSome then
          complete number (.scalar line (scalarTag tag .plain "") "")
        else failure
      | _ =>
        if props.anchor.isSome || props.tag.isSome then
          complete number (.scalar line (scalarTag tag .plain "") "")
        else failure

def blockItems (bound : Nat) : Parse (List Node) :=
  match bound with
  | 0 => failure
  | bound + 1 => do
    match (← peek).kind with
    | .blockEntry =>
      let here ← emptyHere
      skip
      let item ← if ← nextIs [.blockEntry, .blockEnd] then pure here else node bound true false
      return item :: (← blockItems bound)
    | .blockEnd => skip; return []
    | _ => failure

def indentlessItems (bound : Nat) : Parse (List Node) :=
  match bound with
  | 0 => failure
  | bound + 1 => do
    match (← peek).kind with
    | .blockEntry =>
      let here ← emptyHere
      skip
      let item ←
        if ← nextIs [.blockEntry, .key, .value, .blockEnd] then pure here
        else node bound true false
      return item :: (← indentlessItems bound)
    | _ => return []

def blockEntries (bound : Nat) : Parse (List (Node × Node)) :=
  match bound with
  | 0 => failure
  | bound + 1 => do
    match (← peek).kind with
    | .key =>
      let here ← emptyHere
      skip
      let key ←
        if ← nextIs [.key, .value, .blockEnd] then pure here else node bound true true
      let here ← emptyHere
      let value ←
        if ← nextIs [.value] then
          skip
          if ← nextIs [.key, .value, .blockEnd] then pure here else node bound true true
        else pure here
      return (key, value) :: (← blockEntries bound)
    | .blockEnd => skip; return []
    | _ => failure

def flowItems (bound : Nat) (first : Bool) : Parse (List Node) :=
  match bound with
  | 0 => failure
  | bound + 1 => do
    if ← nextIs [.flowSequenceEnd] then skip; return []
    else
      if !first then
        if ← nextIs [.flowEntry] then skip else failure
      if ← nextIs [.key] then
        let line := (← peek).line + 1
        skip
        let entry ← flowPair bound
        return .mapping line "!!map" [entry] :: (← flowItems bound false)
      else if ← nextIs [.flowSequenceEnd] then skip; return []
      else
        let item ← node bound false false
        return item :: (← flowItems bound false)

/-- The single entry of a mapping without braces of its own. Where the key is
missing, the token in its place is dropped. -/
def flowPair (bound : Nat) : Parse (Node × Node) :=
  match bound with
  | 0 => failure
  | bound + 1 => do
    let here ← emptyHere
    let key ←
      if ← nextIs [.value, .flowEntry, .flowSequenceEnd] then skip; pure here
      else node bound false false
    if ← nextIs [.value] then
      skip
      return (key, ← flowValue bound [.flowEntry, .flowSequenceEnd])
    else return (key, ← emptyHere)

/-- The value after a colon between brackets; it is empty in front of the
given tokens. -/
def flowValue (bound : Nat) (ends : List TokenKind) : Parse Node :=
  match bound with
  | 0 => failure
  | bound + 1 => do
    if ← nextIs ends then emptyHere else node bound false false

def flowEntries (bound : Nat) (first : Bool) : Parse (List (Node × Node)) :=
  match bound with
  | 0 => failure
  | bound + 1 => do
    if ← nextIs [.flowMappingEnd] then skip; return []
    else
      if !first then
        if ← nextIs [.flowEntry] then skip else failure
      if ← nextIs [.key] then
        skip
        let key ←
          if ← nextIs [.value, .flowEntry, .flowMappingEnd] then emptyHere
          else node bound false false
        let value ←
          if ← nextIs [.value] then skip; flowValue bound [.flowEntry, .flowMappingEnd]
          else emptyHere
        return (key, value) :: (← flowEntries bound false)
      else if ← nextIs [.flowMappingEnd] then skip; return []
      else
        let key ← node bound false false
        let value ← emptyHere
        return (key, value) :: (← flowEntries bound false)

end

/-! ## Documents -/

def standardHandles : List (List Char × List Char) :=
  [(['!'], ['!']), (['!', '!'], "tag:yaml.org,2002:".toList)]

/-- The directives in front of a document. Only version 1.1 is read, once;
a handle is declared once. -/
def directives : Nat → Bool → List (List Char × List Char) → Parse Unit
  | 0, _, _ => failure
  | bound + 1, versioned, handles => do
    match (← peek).kind with
    | .version major minor =>
      if versioned || major ≠ 1 || minor ≠ 1 then failure
      else skip; directives bound true handles
    | .tagDirective handle expansion =>
      if (handles.lookup handle).isSome then failure
      else skip; directives bound versioned (handles ++ [(handle, expansion)])
    | _ => modify fun s => { s with handles := handles ++ standardHandles }

/-- The first document; nothing when there is none. -/
def document (bound : Nat) : Parse (Option Node) := do
  let _ ← peek
  skip
  if ← nextIs [.streamEnd] then return none
  else
    let explicit :=
      match (← peek).kind with
      | .version .. | .tagDirective .. | .documentStart => true
      | _ => false
    directives bound false []
    let root ←
      if explicit then
        if ← nextIs [.documentStart] then
          skip
          match (← peek).kind with
          | .version .. | .tagDirective .. | .documentStart | .documentEnd | .streamEnd =>
            emptyHere
          | _ => node bound true false
        else failure
      else node bound true false
    let _ ← peek
    return some root

end Parse

/-- The first document of a text: none when the text is not well-formed,
nothing when there is no document. -/
def document? (text : String) : Option (Option Document) :=
  match (Parse.document (16 * (text.length + 4))).run { tokens := .ofText text } with
  | none => none
  | some (none, _) => some none
  | some (some root, s) => some (some ⟨root, s.anchored⟩)

end ArgTaint.Yaml
