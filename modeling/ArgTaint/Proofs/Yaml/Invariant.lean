/-
ArgTaint.Proofs.Yaml.Invariant — what holds of whatever a document is read as.

A document may leave fields out, give them null or what does not fit, follow
references and merge mappings; a value is still built from the value before by
the same few steps. A property that holds of the value before, and that scalars
and fields keep, holds of every value that is read.

  §1 Ensures — partial correctness of a decoder.
  §2 Readers — `Reader.Keeps`: one field per shape of a node.
  §3 Lists   — a property of the items.
  §4 Entries — mappings, with those that they merge.
  §5 Records — a property that every field keeps.
  §6 Texts   — a document as a value.
-/
import ArgTaint.Yaml.Record

namespace ArgTaint.Yaml

/-! ## §1 Ensures -/

section Ensures

variable {α β : Type} {p : α → Prop} {q : β → Prop}

/-- What the decoder reads, if anything, has the property. -/
def Ensures (p : α → Prop) (d : Decoder α) : Prop :=
  ∀ s a t, d.run s = .ok (a, t) → p a

theorem ensures_pure {a : α} (h : p a) : Ensures p (pure a) := by
  intro s b t hrun
  cases hrun
  exact h

theorem ensures_throw (e : Failure) : Ensures p (throw e) := by
  intro s a t hrun
  cases hrun

theorem ensures_true (d : Decoder α) : Ensures (fun _ => True) d := fun _ _ _ _ => trivial

/-- A property that the first reading ensures can be used by the next. -/
theorem Ensures.bind {d : Decoder α} {f : α → Decoder β} (h : Ensures p d)
    (h' : ∀ a, p a → Ensures q (f a)) : Ensures q (d >>= f) := by
  intro s b t hrun
  rw [StateT.run_bind] at hrun
  cases hd : d.run s with
  | error e =>
    rw [hd] at hrun
    cases hrun
  | ok r =>
    rw [hd] at hrun
    exact h' r.1 (h s r.1 r.2 hd) r.2 b t hrun

/-- What was read before does not matter. -/
theorem ensures_bind {d : Decoder α} {f : α → Decoder β} (h : ∀ a, Ensures q (f a)) :
    Ensures q (d >>= f) :=
  (ensures_true d).bind fun a _ => h a

theorem ensures_lift {x : Except Failure α} (h : ∀ a, x = .ok a → p a) :
    Ensures p (liftM x : Decoder α) := by
  intro s a t hrun
  cases x with
  | error e => cases hrun
  | ok b =>
    cases hrun
    exact h a rfl

/-- A fold keeps what each of its steps keeps. -/
theorem ensures_foldlM {f : β → α → Decoder β} (h : ∀ b a, q b → Ensures q (f b a)) :
    ∀ (l : List α) (b : β), q b → Ensures q (l.foldlM f b) := by
  intro l
  induction l with
  | nil => intro b hb; exact ensures_pure hb
  | cons a rest ih =>
    intro b hb
    rw [List.foldlM_cons]
    exact (h b a hb).bind ih

end Ensures

/-! ## §2 Readers -/

/-- Every shape of a node keeps the property of the value that is read into. -/
structure Reader.Keeps {α : Type} (r : Reader α) (p : α → Prop) : Prop where
  null : ∀ old, p old → p (r.whenNull old).1
  scalar : ∀ s text v, r.ofScalar s text = .ok (some v) → p v
  items : ∀ f, r.ofItems = some f → ∀ refs nodes, Ensures p (f refs nodes)
  entries : ∀ f, r.ofEntries = some f → ∀ refs nodes old, p old → Ensures p (f refs nodes old)

/-- A reader that keeps a property keeps it for every node. -/
theorem Reader.Keeps.read {α : Type} {r : Reader α} {p : α → Prop} (h : r.Keeps p)
    (refs : References) (n : Node) {old : α} (hold : p old) :
    Ensures (fun v => p v.1) (r.read refs n old) := by
  refine ensures_bind fun ⟨refs, n⟩ => ?_
  have mismatch (errors : List TypeError) :
      Ensures (fun v => p v.1) (do note errors; return (old, false)) :=
    ensures_bind fun _ => ensures_pure hold
  cases n with
  | scalar line tag text =>
    refine ensures_bind fun ⟨s, text⟩ => ?_
    dsimp only
    split
    · exact ensures_pure (h.null old hold)
    · refine (ensures_lift (p := fun v? => ∀ v, v? = some v → p v) ?_).bind fun v? hv => ?_
      · intro v? hv v he
        exact h.scalar s text v (he ▸ hv)
      · cases v? with
        | none => exact mismatch _
        | some v => exact ensures_pure (hv v rfl)
  | sequence line tag items =>
    dsimp only
    split
    · next f hf => exact (h.items f hf refs items).bind fun v hv => ensures_pure hv
    · exact mismatch _
  | mapping line tag entries =>
    dsimp only
    split
    · split
      · next f hf =>
        exact (h.entries f hf refs entries old hold).bind fun v hv => ensures_pure hv
      · exact mismatch _
    · exact mismatch _
  | reference => exact ensures_throw _

/-! ## §3 Lists -/

theorem ensures_readItems {α : Type} {r : Reader α} {p : α → Prop} (h : r.Keeps p) {zero : α}
    (hzero : p zero) (refs : References) :
    ∀ items, Ensures (fun vs => ∀ v ∈ vs, p v) (readItems r zero refs items) := by
  intro items
  induction items with
  | nil => exact ensures_pure fun v hv => absurd hv List.not_mem_nil
  | cons item rest ih =>
    refine (h.read refs item hzero).bind fun ⟨v, good⟩ hv => ih.bind fun more hmore => ?_
    refine ensures_pure ?_
    cases good with
    | false => exact hmore
    | true => exact List.forall_mem_cons.mpr ⟨hv, hmore⟩

/-- A list of values has the property item by item. -/
theorem Reader.Keeps.list {α : Type} {r : Reader α} {p : α → Prop} (h : r.Keeps p) {zero : α}
    (hzero : p zero) : (r.list zero).Keeps fun vs => ∀ v ∈ vs, p v where
  null _ _ v hv := absurd hv List.not_mem_nil
  scalar s text v hv := by cases hv
  items f hf refs nodes := by
    cases hf
    exact ensures_readItems h hzero refs nodes
  entries f hf := by cases hf

/-! ## §4 Entries -/

namespace EntryReader

variable {α : Type} {r : EntryReader α} {p : α → Prop}

/-- Every entry keeps the property of the value. -/
def Keeps (r : EntryReader α) (p : α → Prop) : Prop :=
  ∀ first refs s entry, p s.value → Ensures (fun t => p t.value) (r.entry first refs s entry)

/-- An entry keeps the property, whether it merges mappings or not. -/
theorem Keeps.step (h : r.Keeps p) (first : Bool) (refs : References) {s : EntryState α}
    (entry : Node × Node) (hs : p s.value) :
    Ensures (fun t => p t.value) (r.step first refs s entry) := by
  unfold EntryReader.step
  split
  · exact ensures_pure hs
  · exact h first refs s entry hs

/-- Reading entries and merging mappings keep the property. -/
theorem Keeps.readEntries_mergeAll (h : r.Keeps p) :
    ∀ bound,
      (∀ first refs entries old, p old →
        Ensures p (readEntries bound r first refs entries old)) ∧
      ∀ refs nodes old, p old → Ensures p (mergeAll bound r refs nodes old) := by
  intro bound
  induction bound with
  | zero =>
    constructor
    · intro first refs entries old _
      rw [readEntries]
      exact ensures_throw _
    · intro refs nodes old _
      rw [mergeAll]
      exact ensures_throw _
  | succ bound ih =>
    obtain ⟨hentries, hmerge⟩ := ih
    constructor
    · intro first refs entries old hold
      rw [readEntries]
      refine ensures_bind fun state => ensures_bind fun _ => ?_
      refine (ensures_foldlM (fun s entry hs => h.step first refs entry hs) entries _
        (show p (EntryState.mk old state.taken [] none).value from hold)).bind fun s hs => ?_
      refine ensures_bind fun _ => ?_
      split
      · exact ensures_pure hs
      · next m hm =>
        -- the keys that count change the state and not the value
        dsimp only
        split
        · refine ensures_bind fun _ => ensures_bind fun _ => ?_
          exact (hmerge refs _ s.value hs).bind fun v hv =>
            ensures_bind fun _ => ensures_pure hv
        · exact (hmerge refs _ s.value hs).bind fun v hv => ensures_pure hv
    · intro refs nodes old hold
      cases nodes with
      | nil =>
        rw [mergeAll]
        exact ensures_pure hold
      | cons n rest =>
        rw [mergeAll]
        split
        · next entries _ =>
          refine ensures_bind fun ⟨inner, _⟩ => ?_
          dsimp only
          split
          · exact (hentries false inner entries old hold).bind fun v hv => hmerge refs rest v hv
          · exact ensures_bind fun _ => hmerge refs rest old hold
        · exact ensures_throw _

end EntryReader

/-! ## §5 Records -/

section Records

variable {α β : Type} {r : Record α} {p : α → Prop}

/-- Every field keeps the property. -/
def Record.Keeps (r : Record α) (p : α → Prop) : Prop :=
  ∀ name read, r.field? name = some read →
    ∀ first refs n a, p a → Ensures p (read first refs n a)

theorem Record.Keeps.readEntry (h : r.Keeps p) (first : Bool) (refs : References)
    {s : EntryState α} (entry : Node × Node) (hs : p s.value) :
    Ensures (fun t => p t.value) (r.readEntry first refs s entry) := by
  refine ensures_bind fun ⟨text, good⟩ => ?_
  dsimp only
  split
  · exact ensures_pure hs
  · cases hreserve : s.reserve? (.text text) with
    | none => exact ensures_pure hs
    | some t =>
      have ht : p t.value := by
        unfold EntryState.reserve? at hreserve
        split at hreserve
        · cases hreserve
          exact hs
        · split at hreserve
          · cases hreserve
          · cases hreserve
            exact hs
      dsimp only
      split
      · exact ensures_pure ht
      · next read hread =>
        split
        · exact ensures_bind fun _ => ensures_pure ht
        · exact (h text.display read hread first refs entry.2 t.value ht).bind fun v hv =>
            ensures_pure hv

/-- A record keeps what its fields keep. -/
theorem Record.Keeps.reader (h : r.Keeps p) : r.reader.Keeps p where
  null _ hold := hold
  scalar s text v hv := by cases hv
  items f hf := by cases hf
  entries f hf refs nodes old hold := by
    cases hf
    have hkeeps : EntryReader.Keeps { key := readAny refs.bound, entry := r.readEntry } p :=
      fun first refs s entry hs => h.readEntry first refs entry hs
    exact (hkeeps.readEntries_mergeAll refs.bound).1 true refs nodes old hold

/-- A field whose reader keeps what the property says of it. -/
theorem Reader.Keeps.field {q : β → Prop} {reader : Reader β} (h : reader.Keeps q) {get : α → β}
    {set : α → β → α} (hget : ∀ a, p a → q (get a)) (hset : ∀ a v, p a → q v → p (set a v))
    (first : Bool) (refs : References) (n : Node) {a : α} (ha : p a) :
    Ensures p (field reader get set first refs n a) :=
  (h.read refs n (hget a ha)).bind fun v hv => ensures_pure (hset a v.1 ha hv)

/-- A field that the property says nothing of. -/
theorem ensures_field {reader : Reader β} {get : α → β} {set : α → β → α}
    (hset : ∀ a v, p a → p (set a v)) (first : Bool) (refs : References) (n : Node) {a : α}
    (ha : p a) : Ensures p (field reader get set first refs n a) :=
  ensures_bind fun v => ensures_pure (hset a v.1 ha)

end Records

/-! ## §6 Texts -/

/-- What a text is decoded to has the property. -/
theorem Reader.Keeps.decode {α : Type} {r : Reader α} {p : α → Prop} (h : r.Keeps p)
    {text : String} {old v : α} (hold : p old) (hdecode : decode r text old = .ok v) : p v := by
  unfold Yaml.decode at hdecode
  split at hdecode
  · cases hdecode
  · cases hdecode
    exact hold
  · next d _ =>
    have hread (refs : References) :
        Ensures (fun v => p v.1) (do refs.count; r.read refs d.root old) :=
      ensures_bind fun _ => h.read refs d.root hold
    dsimp only at hdecode
    split at hdecode
    · cases hdecode
    · next v' good s hrun =>
      split at hdecode
      · cases hdecode
        exact hread _ {} (v, good) s hrun
      · cases hdecode

end ArgTaint.Yaml
