/-
ArgTaint.Proofs.Yaml.Parse — trees of texts and their tokens.

A tree of texts is written as blocks, apart from its empty collections. The
rules of the grammar take the tokens of a tree from the front, and no others,
and give a node that shows the tree; only the lines of the nodes are left
open.

  §1 Trees — `Tree`, its tokens, and the nodes that show it.
  §2 Rules — what each rule takes (`Parses`).
  §3 Nodes — the tokens of a tree are read as a node that shows it.
-/
import ArgTaint.Proofs.Yaml.Queue
import ArgTaint.Proofs.Yaml.Write
import ArgTaint.Yaml.Node.Parse

namespace ArgTaint.Yaml

/-! ## §1 Trees -/

/-- The node is the scalar that the word stands for. -/
def Word.Shows (w : Word) (n : Node) : Prop :=
  ∃ line, n = .scalar line (Parse.scalarTag "" w.style (String.ofList w.text))
    (String.ofList w.text)

/-- A tree of texts. -/
inductive Tree where
  | word (w : Word)
  | noItems
  | noEntries
  | items (ts : List Tree)
  | entries (es : List (Word × Tree))

namespace Tree

mutual

/-- The tokens of a tree. -/
def kinds : Tree → List TokenKind
  | .word w => [w.kind]
  | .noItems => [.flowSequenceStart, .flowSequenceEnd]
  | .noEntries => [.flowMappingStart, .flowMappingEnd]
  | .items ts => .blockSequenceStart :: (itemKinds ts ++ [.blockEnd])
  | .entries es => .blockMappingStart :: (entryKinds es ++ [.blockEnd])

def itemKinds : List Tree → List TokenKind
  | [] => []
  | t :: ts => .blockEntry :: (t.kinds ++ itemKinds ts)

def entryKinds : List (Word × Tree) → List TokenKind
  | [] => []
  | (k, t) :: es => .key :: k.kind :: .value :: (t.kinds ++ entryKinds es)

end

mutual

/-- The node is the tree, with a line for each node. -/
inductive Shows : Tree → Node → Prop
  | word {w : Word} {n : Node} : w.Shows n → Shows (.word w) n
  | noItems {line : Nat} : Shows .noItems (.sequence line "!!seq" [])
  | noEntries {line : Nat} : Shows .noEntries (.mapping line "!!map" [])
  | items {ts : List Tree} {line : Nat} {items : List Node} :
    ShowsItems ts items → Shows (.items ts) (.sequence line "!!seq" items)
  | entries {es : List (Word × Tree)} {line : Nat} {entries : List (Node × Node)} :
    ShowsEntries es entries → Shows (.entries es) (.mapping line "!!map" entries)

/-- The nodes are the trees, one by one. -/
inductive ShowsItems : List Tree → List Node → Prop
  | nil : ShowsItems [] []
  | cons {t : Tree} {ts : List Tree} {n : Node} {items : List Node} :
    Shows t n → ShowsItems ts items → ShowsItems (t :: ts) (n :: items)

/-- The entries are those of the tree, one by one. -/
inductive ShowsEntries : List (Word × Tree) → List (Node × Node) → Prop
  | nil : ShowsEntries [] []
  | cons {k : Word} {t : Tree} {es : List (Word × Tree)} {key value : Node}
    {entries : List (Node × Node)} :
    k.Shows key → Shows t value → ShowsEntries es entries →
      ShowsEntries ((k, t) :: es) ((key, value) :: entries)

end

theorem itemKinds_eq_flatMap (ts : List Tree) :
    itemKinds ts = ts.flatMap fun t => .blockEntry :: t.kinds := by
  induction ts with
  | nil => rfl
  | cons t ts ih => simp [itemKinds, ih]

theorem entryKinds_eq_flatMap (es : List (Word × Tree)) :
    entryKinds es = es.flatMap fun e => .key :: e.1.kind :: .value :: e.2.kinds := by
  induction es with
  | nil => rfl
  | cons e es ih => simp [entryKinds, ih]

/-- A tree starts with a token that no rule for collections ends at. -/
theorem exists_kinds (t : Tree) :
    ∃ kind more, t.kinds = kind :: more ∧ kind ∉ [.blockEntry, .key, .value, .blockEnd] := by
  cases t <;> exact ⟨_, _, rfl, by simp [Word.kind]⟩

end Tree

/-! ## §2 Rules -/

namespace Parse

/-- The rule takes the given tokens from the front, and changes nothing else;
what it gives has the property. -/
def Parses {α : Type} (p : Parse α) (new : List TokenKind) (P : α → Prop) : Prop :=
  ∀ (s : ParseState) (more : List TokenKind), s.tokens.Yields (new ++ more) →
    ∃ a tokens, p.run s = some (a, { s with tokens := tokens }) ∧ P a ∧ tokens.Yields more

section Rules

variable {s : ParseState} {kind : TokenKind} {new new' more : List TokenKind} {bound : Nat}
  {block indentless : Bool}

/-- The next token can be looked at. -/
theorem exists_peek (h : s.tokens.Yields (kind :: more)) :
    ∃ a t, peek.run s = some (a, { s with tokens := t }) ∧ t.next? = some (a, t) ∧
      a.kind = kind ∧ t.drop.Yields more := by
  obtain ⟨a, t, hnext, hagain, hkind, hmore⟩ := h
  exact ⟨a, t, by simp [peek, StateT.run, hnext], hagain, hkind, hmore⟩

/-- Looking at the next token again changes nothing. -/
theorem run_peek {a : Token} {t : Scan} (h : t.next? = some (a, t)) :
    peek.run { s with tokens := t } = some (a, { s with tokens := t }) := by
  simp [peek, StateT.run, h]

theorem exists_nextIs {kinds : List TokenKind} {answer : Bool}
    (h : s.tokens.Yields (kind :: more)) (hanswer : kinds.contains kind = answer) :
    ∃ t, (nextIs kinds).run s = some (answer, { s with tokens := t }) ∧
      t.Yields (kind :: more) := by
  obtain ⟨a, t, hpeek, hnext, hkind, hmore⟩ := exists_peek h
  exact ⟨t, by simp [nextIs, hpeek, hkind, ← hanswer], a, t, hnext, hnext, hkind, hmore⟩

/-! ### Nodes -/

/-- A word is parsed as its scalar. -/
theorem parses_word (w : Word) :
    Parses (node (bound + 1) block indentless) [w.kind] w.Shows := by
  intro s more h
  obtain ⟨a, t, hpeek, hnext, hkind, hmore⟩ := exists_peek h
  refine ⟨_, t.drop, ?_, ⟨a.line + 1, rfl⟩, hmore⟩
  simp [node, hpeek, run_peek hnext, hkind, Word.kind, properties, declare, complete, skip]

theorem parses_noItems : Parses (node (bound + 2) block indentless) Tree.noItems.kinds
    Tree.noItems.Shows := by
  intro s more h
  obtain ⟨a, t, hpeek, hnext, hkind, hstop⟩ := exists_peek h
  obtain ⟨b, u, hpeek', -, hkind', hmore⟩ :=
    exists_peek (s := { s with tokens := t.drop }) hstop
  refine ⟨.sequence (a.line + 1) "!!seq" [], u.drop, ?_, .noItems, hmore⟩
  simp [node, flowItems, hpeek, run_peek hnext, hkind, properties, declare, complete,
    skip, nextIs, hpeek', hkind', collectionTag]

theorem parses_noEntries : Parses (node (bound + 2) block indentless) Tree.noEntries.kinds
    Tree.noEntries.Shows := by
  intro s more h
  obtain ⟨a, t, hpeek, hnext, hkind, hstop⟩ := exists_peek h
  obtain ⟨b, u, hpeek', -, hkind', hmore⟩ :=
    exists_peek (s := { s with tokens := t.drop }) hstop
  refine ⟨.mapping (a.line + 1) "!!map" [], u.drop, ?_, .noEntries, hmore⟩
  simp [node, flowEntries, hpeek, run_peek hnext, hkind, properties, declare, complete, skip,
    nextIs, hpeek', hkind', collectionTag]

/-- A block sequence is parsed when its items are. -/
theorem parses_sequence {P : List Node → Prop} (h : Parses (blockItems bound) new P) :
    Parses (node (bound + 1) true indentless) (.blockSequenceStart :: new) fun n =>
      ∃ line items, n = .sequence line "!!seq" items ∧ P items := by
  intro s more hs
  obtain ⟨a, t, hpeek, hnext, hkind, hnew⟩ := exists_peek hs
  obtain ⟨items, u, hitems, hP, hmore⟩ := h { s with tokens := t.drop } _ hnew
  refine ⟨_, u, ?_, ⟨a.line + 1, items, rfl, hP⟩, hmore⟩
  simp [node, hpeek, run_peek hnext, hkind, properties, declare, complete, skip, collectionTag,
    hitems]

/-- A block mapping is parsed when its entries are. -/
theorem parses_mapping {P : List (Node × Node) → Prop} (h : Parses (blockEntries bound) new P) :
    Parses (node (bound + 1) true indentless) (.blockMappingStart :: new) fun n =>
      ∃ line entries, n = .mapping line "!!map" entries ∧ P entries := by
  intro s more hs
  obtain ⟨a, t, hpeek, hnext, hkind, hnew⟩ := exists_peek hs
  obtain ⟨entries, u, hentries, hP, hmore⟩ := h { s with tokens := t.drop } _ hnew
  refine ⟨_, u, ?_, ⟨a.line + 1, entries, rfl, hP⟩, hmore⟩
  simp [node, hpeek, run_peek hnext, hkind, properties, declare, complete, skip, collectionTag,
    hentries]

/-! ### Items and entries -/

theorem parses_items_nil : Parses (blockItems (bound + 1)) [.blockEnd] (· = []) := by
  intro s more hs
  obtain ⟨a, t, hpeek, -, hkind, hmore⟩ := exists_peek hs
  exact ⟨[], t.drop, by simp [blockItems, hpeek, hkind, skip], rfl, hmore⟩

theorem parses_items_cons {P : Node → Prop} {Q : List Node → Prop}
    (hkind : kind ∉ [.blockEntry, .key, .value, .blockEnd])
    (hnode : Parses (node bound true false) (kind :: new) P)
    (hitems : Parses (blockItems bound) new' Q) :
    Parses (blockItems (bound + 1)) (.blockEntry :: (kind :: new ++ new')) fun items =>
      ∃ n rest, items = n :: rest ∧ P n ∧ Q rest := by
  intro s more hs
  obtain ⟨a, t, hpeek, hnext, hentry, hrest⟩ := exists_peek hs
  have hstop : [TokenKind.blockEntry, .blockEnd].contains kind = false := by
    simp only [List.mem_cons, not_or] at hkind
    simp [hkind]
  obtain ⟨t₁, hend, hrest₁⟩ := exists_nextIs (s := { s with tokens := t.drop }) hrest hstop
  obtain ⟨n, t₂, hread₂, hP, hrest₂⟩ := hnode { s with tokens := t₁ } (new' ++ more)
    (by simpa using hrest₁)
  obtain ⟨rest, t₃, hread₃, hQ, hmore⟩ := hitems { s with tokens := t₂ } _ hrest₂
  refine ⟨_, t₃, ?_, ⟨n, rest, rfl, hP, hQ⟩, hmore⟩
  rw [blockItems]
  simp [hpeek, hentry, emptyHere, run_peek hnext, skip, hend, hread₂, hread₃]

theorem parses_entries_nil : Parses (blockEntries (bound + 1)) [.blockEnd] (· = []) := by
  intro s more hs
  obtain ⟨a, t, hpeek, -, hkind, hmore⟩ := exists_peek hs
  exact ⟨[], t.drop, by simp [blockEntries, hpeek, hkind, skip], rfl, hmore⟩

theorem parses_entries_cons {P : Node → Prop} {Q : List (Node × Node) → Prop} (k : Word)
    (hkind : kind ∉ [.blockEntry, .key, .value, .blockEnd])
    (hnode : Parses (node (bound + 1) true true) (kind :: new) P)
    (hentries : Parses (blockEntries (bound + 1)) new' Q) :
    Parses (blockEntries (bound + 2)) (.key :: k.kind :: .value :: (kind :: new ++ new'))
      fun entries => ∃ key value rest, entries = (key, value) :: rest ∧ k.Shows key ∧ P value ∧
        Q rest := by
  intro s more hs
  obtain ⟨a, t, hpeek, hnext, hmark, hrest⟩ := exists_peek hs
  have hstop : [TokenKind.key, .value, .blockEnd].contains k.kind = false := by simp [Word.kind]
  obtain ⟨t₁, hend, hrest₁⟩ := exists_nextIs (s := { s with tokens := t.drop }) hrest hstop
  have hword : Parses (node (bound + 1) true true) [k.kind] k.Shows := parses_word k
  obtain ⟨key, t₂, hread₂, hkey, hrest₂⟩ := hword { s with tokens := t₁ } _ hrest₁
  obtain ⟨b, t₃, hpeek₃, hnext₃, hvalue, hrest₃⟩ :=
    exists_peek (s := { s with tokens := t₂ }) hrest₂
  have hstop₄ : [TokenKind.key, .value, .blockEnd].contains kind = false := by
    simp only [List.mem_cons, not_or] at hkind
    simp [hkind]
  obtain ⟨t₄, hend₄, hrest₄⟩ := exists_nextIs (s := { s with tokens := t₃.drop }) hrest₃ hstop₄
  obtain ⟨value, t₅, hread₅, hP, hrest₅⟩ := hnode { s with tokens := t₄ } (new' ++ more)
    (by simpa using hrest₄)
  obtain ⟨rest, t₆, hread₆, hQ, hmore⟩ := hentries { s with tokens := t₅ } _ hrest₅
  refine ⟨_, t₆, ?_, ⟨key, value, rest, rfl, hkey, hP, hQ⟩, hmore⟩
  have hcolon : (nextIs [.value]).run { s with tokens := t₃ } =
      some (true, { s with tokens := t₃ }) := by
    simp [nextIs, run_peek hnext₃, hvalue]
  rw [blockEntries]
  simp [hpeek, hmark, emptyHere, run_peek hnext, skip, hend, hread₂, hpeek₃, hcolon,
    hend₄, hread₅, hread₆]

end Rules

/-! ## §3 Nodes -/

theorem Parses.imp {α : Type} {p : Parse α} {new : List TokenKind} {P Q : α → Prop}
    (h : Parses p new P) (himp : ∀ a, P a → Q a) : Parses p new Q := by
  intro s more hs
  obtain ⟨a, t, hread, hP, hmore⟩ := h s more hs
  exact ⟨a, t, hread, himp a hP, hmore⟩

mutual

/-- The tokens of a tree are read as a node that shows it. -/
theorem parses_tree : ∀ (t : Tree) {bound : Nat} {indentless : Bool}, t.kinds.length ≤ bound →
    Parses (node bound true indentless) t.kinds t.Shows
  | .word w, bound + 1, _, _ => (parses_word w).imp fun _ => .word
  | .noItems, bound + 2, _, _ => parses_noItems
  | .noEntries, bound + 2, _, _ => parses_noEntries
  | .items ts, bound + 1, _, h => by
    have hlength : (Tree.itemKinds ts).length < bound := by simpa [Tree.kinds] using h
    refine (parses_sequence (parses_items ts hlength)).imp ?_
    rintro _ ⟨line, items, rfl, hitems⟩
    exact .items hitems
  | .entries es, bound + 1, _, h => by
    have hlength : (Tree.entryKinds es).length < bound := by simpa [Tree.kinds] using h
    refine (parses_mapping (parses_entries es hlength)).imp ?_
    rintro _ ⟨line, entries, rfl, hentries⟩
    exact .entries hentries

/-- The items of a sequence are parsed, given a bound above the number of
tokens. -/
theorem parses_items : ∀ (ts : List Tree) {bound : Nat}, (Tree.itemKinds ts).length < bound →
    Parses (blockItems bound) (Tree.itemKinds ts ++ [.blockEnd]) (Tree.ShowsItems ts)
  | [], bound + 1, _ => by
    refine parses_items_nil.imp ?_
    rintro _ rfl
    exact .nil
  | t :: ts, bound + 1, h => by
    simp only [Tree.itemKinds, List.length_cons, List.length_append] at h
    obtain ⟨kind, more, hkinds, hkind⟩ := t.exists_kinds
    have hnode : Parses (node bound true false) t.kinds t.Shows := parses_tree t (by omega)
    rw [hkinds] at hnode
    have := parses_items_cons hkind hnode (parses_items ts (by omega))
    rw [Tree.itemKinds, hkinds, List.cons_append, List.append_assoc]
    refine this.imp ?_
    rintro _ ⟨n, rest, rfl, hn, hrest⟩
    exact .cons hn hrest

/-- The entries of a mapping are parsed, given a bound above the number of
tokens. -/
theorem parses_entries : ∀ (es : List (Word × Tree)) {bound : Nat},
    (Tree.entryKinds es).length < bound →
    Parses (blockEntries bound) (Tree.entryKinds es ++ [.blockEnd]) (Tree.ShowsEntries es)
  | [], bound + 1, _ => by
    refine parses_entries_nil.imp ?_
    rintro _ rfl
    exact .nil
  | (k, t) :: es, bound + 2, h => by
    simp only [Tree.entryKinds, List.length_cons, List.length_append] at h
    obtain ⟨kind, more, hkinds, hkind⟩ := t.exists_kinds
    have hnode : Parses (node (bound + 1) true true) t.kinds t.Shows := parses_tree t (by omega)
    rw [hkinds] at hnode
    have := parses_entries_cons k hkind hnode (parses_entries es (by omega))
    rw [Tree.entryKinds, hkinds]
    refine Parses.imp (by simpa using this) ?_
    rintro _ ⟨key, value, rest, rfl, hkey, hvalue, hrest⟩
    exact .cons hkey hvalue hrest

end

/-- Is the token part of what stands in front of a document? -/
def isPreamble : TokenKind → Bool
  | .version .. | .tagDirective .. | .documentStart => true
  | _ => false

theorem run_directives {s : ParseState} {t : Scan} {a : Token} (bound : Nat)
    (hnext : t.next? = some (a, t)) (hkind : isPreamble a.kind = false) :
    (directives (bound + 1) false []).run { s with tokens := t } =
      some ((), { s with tokens := t, handles := standardHandles }) := by
  simp only [directives, StateT.run_bind, run_peek hnext, Option.bind_eq_bind, Option.bind_some]
  split
  · next heq => simp [heq, isPreamble] at hkind
  · next heq => simp [heq, isPreamble] at hkind
  · simp

/-- A document that is the tokens of a tree. -/
theorem exists_document (t : Tree) {bound : Nat} {s : ParseState}
    (hbound : t.kinds.length ≤ bound)
    (hs : s.tokens.Yields (.streamStart :: (t.kinds ++ [.streamEnd]))) :
    ∃ n s', (document bound).run s = some (some n, s') ∧ t.Shows n := by
  obtain ⟨a, t₀, hpeek, -, -, htree⟩ := exists_peek hs
  obtain ⟨kind, more, hkinds, -⟩ := t.exists_kinds
  have hcontent : kind ≠ .streamEnd ∧ isPreamble kind = false := by
    cases t <;> cases hkinds <;> exact ⟨by simp [Word.kind], rfl⟩
  obtain ⟨bound, rfl⟩ : ∃ b, bound = b + 1 :=
    Nat.exists_eq_succ_of_ne_zero (by rw [hkinds, List.length_cons] at hbound; omega)
  rw [hkinds, List.cons_append] at htree
  have hstop : [TokenKind.streamEnd].contains kind = false := by simp [hcontent.1]
  obtain ⟨t₁, hempty, htree₁⟩ := exists_nextIs (s := { s with tokens := t₀.drop }) htree hstop
  obtain ⟨b, t₂, hpeek₂, hnext₂, hkind₂, hmore₂⟩ :=
    exists_peek (s := { s with tokens := t₁ }) htree₁
  have hnode : Parses (node (bound + 1) true false) t.kinds t.Shows := parses_tree t hbound
  obtain ⟨n, t₃, hread, hn, hend⟩ :=
    hnode { s with tokens := t₂, handles := standardHandles } [.streamEnd]
      (by rw [hkinds]; exact ⟨b, t₂, hnext₂, hnext₂, hkind₂, hmore₂⟩)
  obtain ⟨c, t₄, hpeek₄, -⟩ :=
    exists_peek (s := { s with tokens := t₃, handles := standardHandles }) hend
  have hdirectives := run_directives (s := s) bound hnext₂ (by rw [hkind₂]; exact hcontent.2)
  refine ⟨n, { s with tokens := t₄, handles := standardHandles }, ?_, hn⟩
  simp only [document, StateT.run_bind, hpeek, skip, StateT.run_modify, Option.bind_eq_bind,
    Option.bind_some, hempty, hpeek₂, hkind₂, pure_bind, Bool.false_eq_true, if_false]
  split
  case h_4 => simp [hdirectives, hread, hpeek₄]
  all_goals exact absurd hcontent.2 (by simp [isPreamble])

end Parse

/-- A text with the tokens of a tree has a document whose root shows it. -/
theorem exists_document? {text : String} (t : Tree)
    (hbound : t.kinds.length ≤ 16 * (text.length + 4))
    (h : (Scan.ofText text).Yields (.streamStart :: (t.kinds ++ [.streamEnd]))) :
    ∃ d, document? text = some (some d) ∧ t.Shows d.root := by
  obtain ⟨n, s, hrun, hn⟩ :=
    Parse.exists_document t (s := { tokens := .ofText text }) hbound h
  exact ⟨⟨n, s.anchored⟩, by simp [document?, hrun], hn⟩

end ArgTaint.Yaml
