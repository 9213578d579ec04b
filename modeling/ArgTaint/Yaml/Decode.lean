/-
ArgTaint.Yaml.Decode — reading values of the program from a document.

A reader says what each shape of node is for one type. A node of the wrong
shape or meaning leaves the value as it was and is noted; reading goes on,
and all that was noted is reported together. A text that means nothing under
its tag, or an unknown kind, ends the reading; so does a document in which
nearly all that is read comes from references.

* `TypeError`, `Failure`, `Decoder` — what can go wrong.
* `Reader`, `Reader.read` — reading one node.
-/
import ArgTaint.Kind
import ArgTaint.Yaml.Base64
import ArgTaint.Yaml.Node.Parse

namespace ArgTaint.Yaml

/-! ## What can go wrong -/

/-- A node that does not fit the type that it is read as. -/
inductive TypeError where
  | mismatch (line : Nat) (tag text typeName : String)
  | repeatedKey (line : Nat) (key : String) (first : Nat)
  | repeatedField (line : Nat) (field typeName : String)
  deriving DecidableEq, Repr

namespace TypeError

/-- The start of a text of more than ten bytes; other texts are whole. -/
def excerpt (text : String) : String :=
  if text.utf8ByteSize ≤ 10 then text
  else Text.display (Text.ofBytes ((Text.toBytes (Text.ofString text)).take 7)) ++ "..."

/-- The text of the error. What is tagged as a collection is not put between
quotes. -/
def message : TypeError → String
  | .mismatch line tag text typeName =>
    let shown := if tag = "!!seq" || tag = "!!map" then text else " `" ++ excerpt text ++ "`"
    "line " ++ toString line ++ ": cannot unmarshal " ++ tag ++ shown ++ " into " ++ typeName
  | .repeatedKey line key first =>
    "line " ++ toString line ++ ": mapping key " ++ Text.quote (Text.ofString key) ++
      " already defined at line " ++ toString first
  | .repeatedField line field typeName =>
    "line " ++ toString line ++ ": field " ++ field ++ " already set in type " ++ typeName

end TypeError

/-- Why a document could not be read. -/
inductive Failure where
  /-- The text is not well-formed, or a text means nothing under its tag. -/
  | malformed
  /-- A mapping that merges others has a collection among its keys. -/
  | collectionKey
  | unknownKind (cause : Kind.Error)
  | types (errors : List TypeError)
  deriving DecidableEq, Repr

def Failure.message : Failure → String
  | .malformed => "yaml: malformed text"
  | .collectionKey => "yaml: a collection as a key beside a merge"
  | .unknownKind cause => cause.message
  | .types errors =>
    "yaml: unmarshal errors:\n  " ++ "\n  ".intercalate (errors.map TypeError.message)

/-! ## Reading -/

/-- What a key of a mapping stands for. -/
inductive Key where
  | text (t : Text)
  | scalar (s : Scalar)
  | collection
  deriving DecidableEq, Repr

/-- What reading keeps. -/
structure DecodeState where
  /-- The type errors, in order. -/
  errors : List TypeError := []
  /-- The number of nodes that have been read. -/
  visits : Nat := 0
  /-- The number of those that references led to. -/
  copies : Nat := 0
  /-- The keys that count already, when a mapping is merged into another. -/
  taken : Option (List Key) := none
  deriving DecidableEq, Repr

/-- Is the share of what references led to too large? It may be 99 in a
hundred of up to 400000 nodes, 10 in a hundred of 4000000 nodes, and in
between what lies between. -/
def DecodeState.isExcessive (s : DecodeState) : Bool :=
  100 < s.copies && 1000 < s.visits &&
    (if s.visits ≤ 400000 then 99 * s.visits < 100 * s.copies
    else if 4000000 ≤ s.visits then s.visits < 10 * s.copies
    else (356400000 - 89 * (s.visits - 400000)) * s.visits < 360000000 * s.copies)

/-- Reading that may fail. -/
abbrev Decoder := StateT DecodeState (Except Failure)

def note (errors : List TypeError) : Decoder Unit :=
  modify fun s => { s with errors := s.errors ++ errors }

def setTaken (taken : Option (List Key)) : Decoder Unit :=
  modify fun s => { s with taken := taken }

/-! ## References -/

/-- The document, and the references that are being followed. -/
structure References where
  document : Document
  active : List Nat := []
  /-- A bound on how deeply nodes are nested, through references. -/
  bound : Nat

namespace References

/-- The node that is meant: that of a reference, or the node itself. -/
def target (refs : References) (n : Node) : Node :=
  match n with
  | .reference _ _ _ anchor => (refs.document.target? anchor).getD n
  | n => n

def count (refs : References) : Decoder Unit := do
  let s ← get
  let s :=
    { s with
      visits := s.visits + 1
      copies := if refs.active.isEmpty then s.copies else s.copies + 1 }
  set s
  if s.isExcessive then throw .malformed else pure ()

/-- The node that is meant: that of a reference, or the node itself. What
holds a reference to itself cannot be read. -/
def follow (refs : References) (n : Node) : Decoder (References × Node) := do
  refs.count
  match n with
  | .reference _ _ serial anchor =>
    if refs.active.contains serial then throw .malformed
    else
      match refs.document.target? anchor with
      | some target =>
        let inner := { refs with active := serial :: refs.active }
        inner.count
        return (inner, target)
      | none => throw .malformed
  | n => return (refs, n)

end References

/-! ## Readers -/

/-- How the nodes of each shape are read as values of one type. -/
structure Reader (α : Type) where
  typeName : String
  /-- The value after null, and whether that counts as a value. -/
  whenNull : α → α × Bool := fun old => (old, false)
  /-- The value of a scalar with the given meaning and text. -/
  ofScalar : Scalar → Text → Except Failure (Option α) := fun _ _ => .ok none
  ofItems : Option (References → List Node → Decoder α) := none
  ofEntries : Option (References → List (Node × Node) → α → Decoder α) := none

def meaning (tag text : String) : Except Failure (Scalar × Text) :=
  if tag = "!!binary" then
    match decodeBase64? text with
    | some decoded => .ok (.text, decoded)
    | none => .error .malformed
  else
    match Scalar.ofTagged? tag text with
    | some s => .ok (s, Text.ofString text)
    | none => .error .malformed

/-- The errors for the keys of a mapping that occur more than once: the same
shape, and the same text. -/
def repeatedKeys : List (Node × Node) → List TypeError
  | [] => []
  | (key, _) :: rest =>
    (rest.filter fun (other, _) => other.shape = key.shape && other.text = key.text).map
        (fun (other, _) => .repeatedKey other.line other.text key.line) ++
      repeatedKeys rest

/-- Read a node; the answer is the new value, and whether the node gave
one. -/
def Reader.read {α : Type} (r : Reader α) (refs : References) (n : Node) (old : α) :
    Decoder (α × Bool) := do
  let (refs, n) ← refs.follow n
  let mismatch : Decoder (α × Bool) := do
    note [.mismatch n.line n.tag n.text r.typeName]
    return (old, false)
  match n with
  | .scalar _ tag text =>
    let (s, text) ← meaning tag text
    if s = .null then return r.whenNull old
    else
      match ← r.ofScalar s text with
      | some v => return (v, true)
      | none => mismatch
  | .sequence _ _ items =>
    match r.ofItems with
    | some f => return (← f refs items, true)
    | none => mismatch
  | .mapping _ _ entries =>
    let errors := repeatedKeys entries
    if errors.isEmpty then
      match r.ofEntries with
      | some f => return (← f refs entries old, true)
      | none => mismatch
    else
      note errors
      return (old, false)
  | .reference .. => throw .malformed

/-! ## Scalars and lists -/

/-- Any scalar is a text. -/
def Reader.text : Reader Text where
  typeName := "string"
  ofScalar _ text := .ok (some text)

/-- Any scalar is a string; a byte that is part of no character is read as
U+FFFD. -/
def Reader.string : Reader String where
  typeName := "string"
  ofScalar _ text := .ok (some text.display)

/-- Whole numbers of 64 bits; a number with a fraction loses it. -/
def Reader.int : Reader Int where
  typeName := "int"
  ofScalar s _ :=
    match s with
    | .int n => .ok (if n < Int.pow 2 63 then some n else none)
    | .float r => .ok r.toInt64?
    | _ => .ok none

/-- The truth value of the words that older versions of the format have. -/
def oldBool? (text : String) : Option Bool :=
  match text with
  | "y" | "Y" | "yes" | "Yes" | "YES" | "on" | "On" | "ON" => some true
  | "n" | "N" | "no" | "No" | "NO" | "off" | "Off" | "OFF" => some false
  | _ => none

def Reader.bool : Reader Bool where
  typeName := "bool"
  ofScalar s text :=
    match s with
    | .bool b => .ok (some b)
    | .text => .ok (text.string?.bind oldBool?)
    | _ => .ok none

def Reader.kind : Reader Kind where
  typeName := "ir.Kind"
  ofScalar _ text :=
    match Kind.parse text with
    | .ok k => .ok (some k)
    | .error e => .error (.unknownKind e)

def readItems {α : Type} (r : Reader α) (zero : α) (refs : References) :
    List Node → Decoder (List α)
  | [] => return []
  | item :: rest => do
    let (v, good) ← r.read refs item zero
    let more ← readItems r zero refs rest
    return if good then v :: more else more

/-- Lists; null is the empty list. -/
def Reader.list {α : Type} (r : Reader α) (zero : α) : Reader (List α) where
  typeName := "[]" ++ r.typeName
  whenNull _ := ([], true)
  ofItems := some (readItems r zero)

end ArgTaint.Yaml
