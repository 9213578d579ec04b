/-
ArgTaint.Yaml.Record — reading mappings from a document.

A key `<<` merges other mappings into the one that it stands in. The keys of
the mapping itself count first, then those of the others in order; a key that
counts already is passed over. To know its keys, a mapping that merges others
is read a second time, as values of whatever type they have.

* `EntryState`, `readEntries`, `mergeAll` — the entries of a mapping and of
  those that it merges.
* `readAny` — a node as a value of whatever type it has.
* `Record`, `Record.reader` — mappings with fields.
* `Reader.tally` — counters by name.
* `decode` — a value from a text.
-/
import ArgTaint.Tally
import ArgTaint.Yaml.Decode

namespace ArgTaint.Yaml

/-! ## Entries -/

/-- What has been read of a mapping. -/
structure EntryState (α : Type) where
  value : α
  /-- The keys that count already, when the mapping is merged into another. -/
  taken : Option (List Key)
  /-- The fields that are set. -/
  set : List String := []
  /-- The value of the key that merges other mappings. -/
  merge : Option Node := none

/-- The state in which the key counts; none when it did already. -/
def EntryState.reserve? {α : Type} (s : EntryState α) (key : Key) : Option (EntryState α) :=
  match s.taken with
  | none => some s
  | some keys => if key ∈ keys then none else some { s with taken := some (key :: keys) }

/-- How the entries of a mapping are read. -/
structure EntryReader (α : Type) where
  /-- The key that a node stands for, if it can be read. -/
  key : References → Node → Decoder (Option Key)
  /-- The state after an entry. The first argument is whether the mapping is
  the first one that is read into the value. -/
  entry : Bool → References → EntryState α → Node × Node → Decoder (EntryState α)

namespace EntryReader

variable {α : Type}

def step (r : EntryReader α) (first : Bool) (refs : References) (s : EntryState α)
    (entry : Node × Node) : Decoder (EntryState α) :=
  if entry.1.isMerge then return { s with merge := some entry.2 }
  else r.entry first refs s entry

def claimKeys (r : EntryReader α) (refs : References) : List (Node × Node) → Decoder Unit
  | [] => return ()
  | (key, _) :: rest => do
    match ← r.key refs key with
    | none => pure ()
    | some .collection => throw .collectionKey
    | some key => setTaken (some (key :: (← get).taken.getD []))
    claimKeys r refs rest

mutual

/-- Read the entries of a mapping, then those that it merges. -/
def readEntries (bound : Nat) (r : EntryReader α) (first : Bool) (refs : References)
    (entries : List (Node × Node)) (old : α) : Decoder α :=
  match bound with
  | 0 => throw .malformed
  | bound + 1 => do
    let taken := (← get).taken
    setTaken none
    let s ← entries.foldlM (r.step first refs) { value := old, taken := taken }
    setTaken s.taken
    match s.merge with
    | none => return s.value
    | some m =>
      if s.taken.isNone then
        setTaken (some [])
        r.claimKeys refs entries
      let merged : List Node :=
        match m with
        | .sequence _ _ items => items
        | m => [m]
      let v ← mergeAll bound r refs merged s.value
      if s.taken.isNone then setTaken none
      return v

/-- Read mappings into a value in order. -/
def mergeAll (bound : Nat) (r : EntryReader α) (refs : References) (nodes : List Node)
    (old : α) : Decoder α :=
  match bound with
  | 0 => throw .malformed
  | bound + 1 =>
    match nodes with
    | [] => return old
    | n :: rest => do
      match refs.target n with
      | .mapping _ _ entries =>
        let (inner, _) ← refs.follow n
        let errors := repeatedKeys entries
        if errors.isEmpty then
          let v ← readEntries bound r false inner entries old
          mergeAll bound r refs rest v
        else
          note errors
          mergeAll bound r refs rest old
      | _ => throw .malformed

end

end EntryReader

/-! ## Values of any type -/

def hasTextKeys (refs : References) (entries : List (Node × Node)) : Bool :=
  entries.all fun (key, _) =>
    let tag := (refs.target key).tag
    tag = Scalar.text.tag || tag = Scalar.merge.tag

/-- The key that a text stands for, if the node is one. -/
def textKey (refs : References) (n : Node) : Decoder (Option Key) := do
  let (t, good) ← Reader.text.read refs n []
  return if good then some (.text t) else none

/-- Read a node as a value of whatever type it has. The answer is what it
stands for as a key; none when it cannot be read. -/
def readAny : Nat → References → Node → Decoder (Option Key)
  | 0, _, _ => throw .malformed
  | bound + 1, refs, n => do
    let (refs, n) ← refs.follow n
    match n with
    | .scalar _ tag text =>
      let (s, text) ← meaning tag text
      return some (if s = .text then .text text else .scalar s)
    | .sequence _ _ items =>
      items.forM fun item => discard (readAny bound refs item)
      return some .collection
    | .mapping _ _ entries =>
      let errors := repeatedKeys entries
      if errors.isEmpty then
        let texts := hasTextKeys refs entries
        let r : EntryReader Unit :=
          { key := readAny bound
            entry := fun _ refs s (key, value) => do
              match ← (if texts then textKey refs key else readAny bound refs key) with
              | none => return s
              | some .collection =>
                throw (if s.taken.isSome then .collectionKey else .malformed)
              | some key =>
                match s.reserve? key with
                | none => return s
                | some s =>
                  let _ ← readAny bound refs value
                  return s }
        r.readEntries bound true refs entries ()
        return some .collection
      else
        note errors
        return none
    | .reference .. => throw .malformed

/-! ## Records -/

/-- A mapping with fields. -/
structure Record (α : Type) where
  typeName : String
  /-- How the value of a field is read. The first argument is whether the
  mapping is the first one that is read into the value. -/
  field? : String → Option (Bool → References → Node → α → Decoder α)
  /-- Can each field be given once only? -/
  once : Bool := true

namespace Record

variable {α : Type}

def readEntry (r : Record α) (first : Bool) (refs : References) (s : EntryState α)
    (entry : Node × Node) : Decoder (EntryState α) := do
  let (key, value) := entry
  let (text, good) ← Reader.text.read refs key []
  if !good then return s
  else
    match s.reserve? (.text text) with
    | none => return s
    | some s =>
      let name := text.display
      match r.field? name with
      | none => return s
      | some read =>
        if r.once && s.set.contains name then
          note [.repeatedField key.line name r.typeName]
          return s
        else
          let v ← read first refs value s.value
          return { s with value := v, set := name :: s.set }

def reader (r : Record α) : Reader α where
  typeName := r.typeName
  ofEntries := some fun refs entries old =>
    EntryReader.readEntries refs.bound { key := readAny refs.bound, entry := r.readEntry }
      true refs entries old

end Record

def field {α β : Type} (r : Reader β) (get : α → β) (set : α → β → α) :
    Bool → References → Node → α → Decoder α :=
  fun _ refs n a => return set a (← r.read refs n (get a)).1

/-- Counters by name. A counter without a number is zero when there is none of
that name before. -/
def tally : Record Tally where
  typeName := "map[string]int"
  once := false
  field? name := some fun first refs n t => do
    let (v, good) ← Reader.int.read refs n 0
    let null := (refs.target n).tag = Scalar.null.tag
    if good || (null && (first || (t.get? name).isNone)) then
      return t.upsert name (.ofInt v) fun _ => .ofInt v
    else return t

/-- Tallies; null is the empty one. -/
def Reader.tally : Reader Tally := { Yaml.tally.reader with whenNull := fun _ => ([], true) }

/-! ## Documents -/

/-- Read a text; an empty one leaves the value as it is. -/
def decode {α : Type} (r : Reader α) (text : String) (old : α) : Except Failure α :=
  match document? text with
  | none => .error .malformed
  | some none => .ok old
  | some (some d) =>
    let refs : References := { document := d, bound := (text.length + 2) * (text.length + 2) }
    let read : Decoder (α × Bool) := do
      refs.count
      r.read refs d.root old
    match read.run {} with
    | .error e => .error e
    | .ok ((v, _), s) => if s.errors.isEmpty then .ok v else .error (.types s.errors)

end ArgTaint.Yaml
