/-
ArgTaint.Proofs.Yaml.Decode — values are read back from trees.

Where a document has no references and every node fits its type, reading only
counts the nodes (`Gives`). A reader accepts a tree with a value when it reads
that value from each node that shows the tree (`Reader.Accepts`); there is one
lemma for each form of a tree.

  §1 Reading  — `Gives`.
  §2 Scalars  — words as texts and numbers.
  §3 Lists    — sequences item by item.
  §4 Records  — mappings field by field (`Record.Fills`).
  §5 Texts    — a document as a value.
-/
import ArgTaint.Proofs.Yaml.Number
import ArgTaint.Proofs.Yaml.Parse
import ArgTaint.Yaml.Record

namespace ArgTaint.Yaml

/-! ## §1 Reading -/

/-- Reading gives the value, and changes nothing but the number of visits. -/
def Gives {α : Type} (d : Decoder α) (a : α) : Prop :=
  ∀ n, ∃ m, d.run { visits := n } = .ok (a, { visits := m })

section Reading

variable {α β : Type} {refs : References}

theorem gives_pure (a : α) : Gives (pure a) a := fun n => ⟨n, rfl⟩

theorem Gives.bind {d : Decoder α} {f : α → Decoder β} {a : α} {b : β} (h : Gives d a)
    (h' : Gives (f a) b) : Gives (d >>= f) b := by
  intro n
  obtain ⟨m, hd⟩ := h n
  obtain ⟨l, hf⟩ := h' m
  refine ⟨l, ?_⟩
  rw [StateT.run_bind, hd]
  exact hf

theorem gives_lift {x : Except Failure α} {a : α} (h : x = .ok a) :
    Gives (liftM x : Decoder α) a := by
  subst h
  exact fun n => ⟨n, rfl⟩

theorem gives_get {f : DecodeState → Decoder α} {a : α} (h : ∀ n, Gives (f { visits := n }) a) :
    Gives (get >>= f) a := fun n => h n n

theorem gives_setTaken : Gives (setTaken none) () := fun n => ⟨n, rfl⟩

theorem gives_count (h : refs.active = []) : Gives refs.count () := by
  intro n
  refine ⟨n + 1, ?_⟩
  simp [References.count, h, DecodeState.isExcessive]
  rfl

/-- A node that is no reference is meant itself. -/
theorem gives_follow (h : refs.active = []) {n : Node} (hn : n.shape ≠ .reference) :
    Gives (refs.follow n) (refs, n) := by
  refine (gives_count h).bind ?_
  cases n with
  | reference => exact absurd rfl hn
  | _ => exact gives_pure _

end Reading

/-! ### Readers -/

/-- The references of a document that is read from its root. -/
structure References.AtRoot (refs : References) : Prop where
  active : refs.active = []
  bound : 0 < refs.bound

/-- The reader gives the value for each node that shows the tree. -/
def Reader.Accepts {α : Type} (r : Reader α) (t : Tree) (old v : α) : Prop :=
  ∀ (refs : References) (n : Node), refs.AtRoot → t.Shows n →
    Gives (r.read refs n old) (v, true)

section Readers

variable {α : Type} {r : Reader α} {refs : References} {line : Nat} {tag : String} {old v : α}

/-- A scalar that the reader accepts gives its value. -/
theorem gives_read_scalar {text : String} {s : Scalar} {t : Text} (hrefs : refs.AtRoot)
    (hmeaning : meaning tag text = .ok (s, t)) (hs : s ≠ .null)
    (hof : r.ofScalar s t = .ok (some v)) :
    Gives (r.read refs (.scalar line tag text) old) (v, true) := by
  refine (gives_follow hrefs.active (by simp [Node.shape])).bind ?_
  refine (gives_lift hmeaning).bind ?_
  simp only [hs, if_false]
  exact (gives_lift hof).bind (gives_pure _)

/-- A sequence gives what its items give. -/
theorem gives_read_sequence {items : List Node} {f : References → List Node → Decoder α}
    (hrefs : refs.AtRoot) (hof : r.ofItems = some f) (hf : Gives (f refs items) v) :
    Gives (r.read refs (.sequence line tag items) old) (v, true) := by
  refine (gives_follow hrefs.active (by simp [Node.shape])).bind ?_
  simp only [hof]
  exact hf.bind (gives_pure _)

/-- A mapping with distinct keys gives what its entries give. -/
theorem gives_read_mapping {entries : List (Node × Node)}
    {f : References → List (Node × Node) → α → Decoder α} (hrefs : refs.AtRoot)
    (hdistinct : repeatedKeys entries = []) (hof : r.ofEntries = some f)
    (hf : Gives (f refs entries old) v) :
    Gives (r.read refs (.mapping line tag entries) old) (v, true) := by
  refine (gives_follow hrefs.active (by simp [Node.shape])).bind ?_
  simp only [hdistinct, hof]
  exact hf.bind (gives_pure _)

end Readers

/-! ## §2 Scalars -/

theorem string_ofString (text : String) : Text.display (Text.ofString text) = text := by
  simp [Text.display, Text.ofString, Text.char?, Function.comp_def]

/-- A text that is written is tagged as a text, or as the key that merges
mappings. -/
theorem scalarTag_ofText (text : String) :
    Parse.scalarTag "" (styleOf text) text = Scalar.text.tag ∨
      Parse.scalarTag "" (styleOf text) text = Scalar.merge.tag := by
  cases hstyle : styleOf text with
  | explicit => exact .inl rfl
  | plain =>
    have hreads := readsAsText_of_plain hstyle
    simp only [readsAsText, Bool.and_eq_true, Bool.or_eq_true, decide_eq_true_eq] at hreads
    rcases hreads.1.1 with h | h
    · exact .inl (by simp [Parse.scalarTag, h])
    · exact .inr (by simp [Parse.scalarTag, h])

/-- A text that is written as a word stands for itself. -/
theorem meaning_ofText (text : String) :
    meaning (Parse.scalarTag "" (styleOf text) text) text =
      .ok (.text, Text.ofString text) := by
  rcases scalarTag_ofText text with h | h <;> rw [h] <;> rfl

/-- A counter that is written reads as its number. -/
theorem meaning_ofInt64 (n : Int64) :
    meaning (Parse.scalarTag "" .plain (toString n)) (toString n) =
      .ok (.int n.toInt, Text.ofString (toString n)) := by
  have htag : Parse.scalarTag "" .plain (toString n) = "!!int" := by
    simp [Parse.scalarTag, Scalar.ofPlain, ofText_toString_int64, Scalar.tag]
  rw [htag]
  simp [meaning, Scalar.ofTagged?, Scalar.isMeaningful, ofText_toString_int64, Scalar.tag]

section Scalars

variable {α : Type} {r : Reader α} {old v : α}

theorem Reader.accepts_text {text : String}
    (h : r.ofScalar .text (Text.ofString text) = .ok (some v)) :
    r.Accepts (.word (.ofText text)) old v := by
  intro refs n hrefs hn
  cases hn with
  | word hword =>
    obtain ⟨line, rfl⟩ := hword
    simp only [Word.ofText, String.ofList_toList]
    exact gives_read_scalar hrefs (meaning_ofText text) (by decide) h

/-- A string is read back. -/
theorem Reader.accepts_string (text old : String) :
    Reader.string.Accepts (.word (.ofText text)) old text :=
  Reader.accepts_text (by simp [Reader.string, string_ofString])

/-- A counter is read back. -/
theorem Reader.accepts_int64 (n : Int64) {old : Int} :
    Reader.int.Accepts (.word (.ofInt64 n)) old n.toInt := by
  intro refs m hrefs hm
  cases hm with
  | word hword =>
    obtain ⟨line, rfl⟩ := hword
    simp only [Word.ofInt64, String.ofList_toList]
    have hlt : n.toInt < Int.pow 2 63 := n.toInt_lt
    exact gives_read_scalar hrefs (meaning_ofInt64 n) nofun
      (by simp only [Reader.int, hlt, if_true])

end Scalars

/-! ## §3 Lists -/

section Lists

variable {α : Type} {r : Reader α} {zero : α} {old : List α}

theorem Reader.accepts_noItems : (r.list zero).Accepts .noItems old [] := by
  intro refs n hrefs hn
  cases hn
  exact gives_read_sequence hrefs rfl (gives_pure [])

/-- Items are read one by one. -/
theorem gives_readItems {refs : References} (hrefs : refs.AtRoot) {ts : List Tree} {vs : List α}
    (h : List.Forall₂ (fun t v => r.Accepts t zero v) ts vs) {items : List Node}
    (hitems : Tree.ShowsItems ts items) : Gives (readItems r zero refs items) vs := by
  induction h generalizing items with
  | nil =>
    cases hitems
    exact gives_pure []
  | cons hv _ ih =>
    cases hitems with
    | cons hn hrest => exact (hv refs _ hrefs hn).bind ((ih hrest).bind (gives_pure _))

/-- A list is read back item by item. -/
theorem Reader.accepts_items {ts : List Tree} {vs : List α}
    (h : List.Forall₂ (fun t v => r.Accepts t zero v) ts vs) :
    (r.list zero).Accepts (.items ts) old vs := by
  intro refs n hrefs hn
  cases hn with
  | items hitems => exact gives_read_sequence hrefs rfl (gives_readItems hrefs h hitems)

end Lists

/-! ## §4 Records -/

/-- The entries of a mapping with texts as keys. -/
def Tree.fields (fs : List (String × Tree)) : List (Word × Tree) :=
  fs.map fun f => (.ofText f.1, f.2)

namespace Record

variable {α : Type} {r : Record α}

/-- Reading the fields one by one leads from one value to another. -/
inductive Fills (r : Record α) : List (String × Tree) → α → α → Prop
  | nil (a : α) : Fills r [] a a
  | cons {name : String} {t : Tree} {fs : List (String × Tree)} {a b c : α}
      {read : Bool → References → Node → α → Decoder α} :
    r.field? name = some read →
    (∀ (refs : References) (n : Node), refs.AtRoot → t.Shows n → Gives (read true refs n a) b) →
    Fills r fs b c → Fills r ((name, t) :: fs) a c

/-- One field. -/
theorem gives_step {refs : References} {s : EntryState α} {name : String} {key value : Node}
    {read : Bool → References → Node → α → Decoder α} {b : α} (hrefs : refs.AtRoot)
    (hkey : (Word.ofText name).Shows key) (hmerge : name ≠ "<<") (htaken : s.taken = none)
    (hset : name ∉ s.set) (hread : r.field? name = some read)
    (hvalue : Gives (read true refs value s.value) b) :
    Gives (EntryReader.step { key := readAny refs.bound, entry := r.readEntry } true refs s
        (key, value))
      { s with value := b, set := name :: s.set } := by
  obtain ⟨line, rfl⟩ := hkey
  simp only [Word.ofText, String.ofList_toList, EntryReader.step, Node.isMerge,
    beq_eq_false_iff_ne.mpr hmerge, Bool.false_and, Bool.false_eq_true, if_false]
  have htext :
      Gives (Reader.text.read refs (.scalar line (Parse.scalarTag "" (styleOf name) name)
      name) []) (Text.ofString name, true) :=
    gives_read_scalar hrefs (meaning_ofText name) (by decide) rfl
  refine htext.bind ?_
  simp only [Bool.not_true, Bool.false_eq_true, if_false, EntryState.reserve?, htaken,
    string_ofString, hread, List.contains_eq_mem, hset, decide_false, Bool.and_false]
  exact hvalue.bind (gives_pure _)

/-- All fields. -/
theorem Fills.gives_foldlM {refs : References} (hrefs : refs.AtRoot) {fs : List (String × Tree)}
    {a b : α} (h : r.Fills fs a b) {entries : List (Node × Node)}
    (hentries : Tree.ShowsEntries (Tree.fields fs) entries) (hmerge : "<<" ∉ fs.map Prod.fst)
    (hnodup : (fs.map Prod.fst).Nodup) {s : EntryState α} (hvalue : s.value = a)
    (htaken : s.taken = none) (hset : ∀ f ∈ fs, f.1 ∉ s.set) :
    ∃ set, Gives (entries.foldlM
        (EntryReader.step { key := readAny refs.bound, entry := r.readEntry } true refs) s)
      { s with value := b, set := set } := by
  induction h generalizing entries s with
  | nil a =>
    cases hentries
    subst hvalue
    exact ⟨s.set, gives_pure s⟩
  | @cons name t fs a b c read hread hgives _ ih =>
    cases hentries with
    | cons hkey hshows hrest =>
      subst hvalue
      simp only [List.map_cons, List.mem_cons, not_or] at hmerge
      have hstep := gives_step hrefs hkey (Ne.symm hmerge.1) htaken
        (hset _ List.mem_cons_self) hread (hgives refs _ hrefs hshows)
      have hfresh : ∀ f ∈ fs, f.1 ∉ name :: s.set := by
        intro f hf hmem
        rcases List.mem_cons.mp hmem with hname | hmem
        · exact (List.nodup_cons.mp hnodup).1 (List.mem_map.mpr ⟨f, hf, hname⟩)
        · exact hset f (List.mem_cons_of_mem _ hf) hmem
      obtain ⟨set, hfold⟩ := ih hrest hmerge.2 (List.nodup_cons.mp hnodup).2
        (s := { s with value := b, set := name :: s.set }) rfl htaken hfresh
      refine ⟨set, ?_⟩
      rw [List.foldlM_cons]
      exact hstep.bind hfold

end Record

theorem Tree.ShowsEntries.texts {fs : List (String × Tree)} {entries : List (Node × Node)}
    (h : Tree.ShowsEntries (Tree.fields fs) entries) :
    entries.map (fun e => e.1.text) = fs.map Prod.fst := by
  induction fs generalizing entries with
  | nil =>
    cases h
    rfl
  | cons f fs ih =>
    cases h with
    | cons hkey _ hrest =>
      obtain ⟨line, rfl⟩ := hkey
      rw [List.map_cons, List.map_cons, ih hrest]
      simp [Node.text, Word.ofText]

/-- Keys with distinct texts are not repeated. -/
theorem repeatedKeys_eq_nil {entries : List (Node × Node)}
    (h : (entries.map fun e => e.1.text).Nodup) : repeatedKeys entries = [] := by
  induction entries with
  | nil => rfl
  | cons e entries ih =>
    simp only [List.map_cons, List.nodup_cons] at h
    have hfilter :
        entries.filter (fun x => x.1.shape = e.1.shape && x.1.text = e.1.text) = [] := by
      rw [List.filter_eq_nil_iff]
      intro x hx
      have : x.1.text ≠ e.1.text := fun he => h.1 (List.mem_map.mpr ⟨x, hx, he⟩)
      simp [this]
    simp [repeatedKeys, hfilter, ih h.2]

section Records

variable {α : Type} {r : Record α} {fs : List (String × Tree)} {a b : α}

/-- The entries of a mapping without merges are read as fields. -/
theorem Record.Fills.gives_readEntries {refs : References} (hrefs : refs.AtRoot)
    (h : r.Fills fs a b) {entries : List (Node × Node)}
    (hentries : Tree.ShowsEntries (Tree.fields fs) entries) (hmerge : "<<" ∉ fs.map Prod.fst)
    (hnodup : (fs.map Prod.fst).Nodup) :
    Gives (EntryReader.readEntries refs.bound
      { key := readAny refs.bound, entry := r.readEntry } true refs entries a) b := by
  obtain ⟨bound, hbound⟩ := Nat.exists_eq_succ_of_ne_zero (Nat.ne_of_gt hrefs.bound)
  obtain ⟨set, hfold⟩ := h.gives_foldlM hrefs hentries hmerge hnodup
    (s := { value := a, taken := none }) rfl rfl (fun _ _ => List.not_mem_nil)
  rw [hbound] at hfold ⊢
  rw [EntryReader.readEntries]
  refine gives_get fun n => gives_setTaken.bind (hfold.bind ?_)
  exact gives_setTaken.bind (gives_pure b)

/-- A record is read back when its fields are, under distinct names. -/
theorem Record.Fills.accepts (h : r.Fills fs a b) (hmerge : "<<" ∉ fs.map Prod.fst)
    (hnodup : (fs.map Prod.fst).Nodup) : r.reader.Accepts (.entries (Tree.fields fs)) a b := by
  intro refs n hrefs hn
  cases hn with
  | entries hentries =>
    exact gives_read_mapping hrefs (repeatedKeys_eq_nil (by rwa [hentries.texts])) rfl
      (h.gives_readEntries hrefs hentries hmerge hnodup)

/-- A field that is read by a reader of its own. -/
theorem Record.Fills.field {β : Type} {reader : Reader β} {get : α → β} {set : α → β → α}
    {name : String} {t : Tree} {v : β} (hfield : r.field? name = some (field reader get set))
    (hv : reader.Accepts t (get a) v) (h : r.Fills fs (set a v) b) :
    r.Fills ((name, t) :: fs) a b :=
  .cons hfield (fun refs n hrefs hn => (hv refs n hrefs hn).bind (gives_pure _)) h

end Records

/-! ### Tallies -/

/-- The fields of a tally. -/
def Tree.counters (t : Tally) : List (String × Tree) :=
  t.map fun e => (e.1, .word (.ofInt64 e.2))

theorem upsert_append {t : Tally} {name : String} {n : Int64} {image : Int64 → Int64}
    (h : name ∉ t.map Prod.fst) : t.upsert name n image = t ++ [(name, n)] := by
  induction t with
  | nil => rfl
  | cons e t ih =>
    simp only [List.map_cons, List.mem_cons, not_or] at h
    simp [Tally.upsert, Ne.symm h.1, ih h.2]

/-- Counters are filled in one by one. -/
theorem fills_counters {t u : Tally} (h : ((t ++ u).map Prod.fst).Nodup) :
    tally.Fills (Tree.counters u) t (t ++ u) := by
  induction u generalizing t with
  | nil =>
    rw [List.append_nil]
    exact .nil t
  | cons e u ih =>
    have hassoc : t ++ e :: u = (t ++ [e]) ++ u := by simp
    refine .cons rfl ?_ (hassoc ▸ ih (hassoc ▸ h))
    intro refs n hrefs hn
    refine (Reader.accepts_int64 e.2 refs n hrefs hn).bind ?_
    have hfresh : e.1 ∉ t.map Prod.fst := by
      rw [List.map_append, List.map_cons, List.nodup_append] at h
      exact fun hmem => h.2.2 _ hmem _ List.mem_cons_self rfl
    simp only [Bool.true_or, if_true, Int64.ofInt_toInt, upsert_append hfresh]
    exact gives_pure _

/-- A tally is read back. -/
theorem Reader.accepts_counters {t : Tally} (hmerge : "<<" ∉ t.map Prod.fst)
    (hnodup : (t.map Prod.fst).Nodup) :
    Reader.tally.Accepts (.entries (Tree.fields (Tree.counters t))) [] t := by
  have hnames : (Tree.counters t).map Prod.fst = t.map Prod.fst := by
    simp [Tree.counters, Function.comp_def]
  intro refs n hrefs hn
  cases hn with
  | entries hentries =>
    rw [← hnames] at hmerge
    have hnodup' : ((Tree.counters t).map Prod.fst).Nodup := hnames ▸ hnodup
    have hfills : Yaml.tally.Fills (Tree.counters t) [] t := fills_counters (t := []) hnodup
    exact gives_read_mapping hrefs (repeatedKeys_eq_nil (by rwa [hentries.texts])) rfl
      (hfills.gives_readEntries hrefs hentries hmerge hnodup')

theorem Reader.accepts_noCounters : Reader.tally.Accepts .noEntries [] [] := by
  intro refs n hrefs hn
  cases hn
  exact gives_read_mapping hrefs rfl rfl
    ((Record.Fills.nil []).gives_readEntries hrefs .nil List.not_mem_nil List.nodup_nil)

/-! ## §5 Texts -/

/-- A value is read from a text with the tokens of a tree. -/
theorem decode_eq {α : Type} {r : Reader α} {t : Tree} {old v : α} {text : String}
    (h : r.Accepts t old v) (hbound : t.kinds.length ≤ 16 * (text.length + 4))
    (hyields : (Scan.ofText text).Yields (.streamStart :: (t.kinds ++ [.streamEnd]))) :
    decode r text old = .ok v := by
  obtain ⟨d, hdocument, hroot⟩ := exists_document? t hbound hyields
  let refs : References := { document := d, bound := (text.length + 2) * (text.length + 2) }
  have hrefs : refs.AtRoot := ⟨rfl, by positivity⟩
  have hgives : Gives (do refs.count; r.read refs d.root old) (v, true) :=
    (gives_count hrefs.active).bind (h refs d.root hrefs hroot)
  obtain ⟨n, hread⟩ := hgives 0
  simp only [decode, hdocument, refs] at hread ⊢
  rw [hread]
  rfl

end ArgTaint.Yaml
