/-
ArgTaint.Proofs.Yaml.Scan — the tokens of what is written in a block.

Reading a token starts with passing over blanks to the place where the token
starts (`Lands`), and with the ends of the blocks that the column there ends
(`closed`). From a place where a token starts (`Reaches`) each kind of line
leads to the next such place, with the tokens of the line in the queue.

  §1 Blocks  — `Inside`; which blocks a column ends.
  §2 Landing — passing over blanks and to the next line.
  §3 Starts  — what is read at the place where a token starts.
  §4 Scalars — a written text as a key and as a value.
  §5 Lines   — entries of mappings and sequences, the end of the text.
-/
import ArgTaint.Proofs.Yaml.Queue
import ArgTaint.Proofs.Yaml.Write

namespace ArgTaint.Yaml

namespace Scan

/-! ## §1 Blocks -/

def kinds (s : Scan) : List TokenKind := s.queue.map Token.kind

/-- The scan is outside brackets, inside the blocks with the given
indentations, innermost first. -/
structure Inside (s : Scan) (stack : List Nat) : Prop where
  started : s.started = true
  settled : s.settled = false
  stack : s.indent :: s.outer = stack
  blocks : s.blocks = s.outer.length
  levels : s.levels = []
  depth : s.depth = 0

/-- The number of the blocks that are indented further than a limit, and the
blocks around them. -/
def closed (limit : Nat) : List Nat → Nat × List Nat
  | indent :: above :: outer =>
    if indent ≤ limit then (0, indent :: above :: outer)
    else
      let (n, stack) := closed limit (above :: outer)
      (n + 1, stack)
  | stack => (0, stack)

/-- The token that starts a block at a column, unless one is under way there,
and the blocks after it. -/
def opened (kind : TokenKind) (column : Nat) : List Nat → List TokenKind × List Nat
  | indent :: outer =>
    if column < indent then ([], indent :: outer)
    else ([kind], (column + 1) :: indent :: outer)
  | [] => ([], [])

/-- The tokens for the blocks that end and start at a column, and the blocks
after them. -/
def turn (kind : TokenKind) (column : Nat) (stack : List Nat) : List TokenKind × List Nat :=
  let (n, stack) := closed (column + 1) stack
  let (start, stack) := opened kind column stack
  (List.replicate n .blockEnd ++ start, stack)

section Blocks

variable {s t : Scan} {stack : List Nat}

theorem Inside.inFlow (h : s.Inside stack) : s.inFlow = false := by
  rw [Scan.inFlow, h.levels]
  rfl

/-- Neither the place nor the tokens nor the possible keys of a scan matter to
the blocks around it. -/
theorem Inside.frame (h : s.Inside stack) {place : Cursor} {queue : List Token} {level : Level}
    {allowed : Bool} :
    ({ s with place := place, queue := queue, level := level, keyAllowed := allowed } :
      Scan).Inside stack :=
  ⟨h.started, h.settled, h.stack, h.blocks, h.levels, h.depth⟩

@[simp]
theorem kinds_push (s : Scan) (kind : TokenKind) (line : Nat) :
    (s.push kind line).kinds = s.kinds ++ [kind] := by
  simp [kinds, push]

theorem closed_of_le {limit indent : Nat} {outer : List Nat} (h : indent ≤ limit) :
    closed limit (indent :: outer) = (0, indent :: outer) := by
  cases outer with
  | nil => rfl
  | cons above outer => simp only [closed, h, if_true]

theorem length_closed_le (limit : Nat) (stack : List Nat) :
    (closed limit stack).2.length ≤ stack.length := by
  fun_induction closed limit stack with
  | case1 => exact Nat.le_refl _
  | case2 indent above outer _ n stack h ih =>
    rw [h] at ih
    exact Nat.le_succ_of_le ih
  | case3 => exact Nat.le_refl _

/-- The blocks that are indented further than a limit end. -/
theorem Inside.closeBlocks (limit : Nat) (outer : List Nat) :
    ∀ {s : Scan}, s.outer = outer → s.Inside (s.indent :: outer) →
      ∃ t ends, s.closeBlocks limit outer = t ∧ t.Inside (closed limit (s.indent :: outer)).2 ∧
        t.queue = s.queue ++ ends ∧
        ends.map Token.kind = List.replicate (closed limit (s.indent :: outer)).1 .blockEnd ∧
        t.place = s.place ∧ t.level = s.level ∧ t.taken = s.taken ∧
        t.keyAllowed = s.keyAllowed := by
  induction outer with
  | nil => exact fun _ h => ⟨_, [], rfl, h, (List.append_nil _).symm, rfl, rfl, rfl, rfl, rfl⟩
  | cons above outer ih =>
    intro s houter h
    by_cases hindent : s.indent ≤ limit
    · refine ⟨s, [], ?_, ?_, (List.append_nil _).symm, ?_, rfl, rfl, rfl, rfl⟩
      · simp only [Scan.closeBlocks, hindent, decide_true, Bool.or_true, if_true]
      · simpa only [closed, hindent, if_true] using h
      · simp [closed, hindent]
    · let u : Scan :=
        { (s.push .blockEnd s.place.line) with
          indent := above
          outer := outer
          blocks := s.blocks - 1 }
      have hu : u.Inside (u.indent :: outer) := by
        refine ⟨h.started, h.settled, rfl, ?_, h.levels, h.depth⟩
        have := h.blocks
        rw [houter, List.length_cons] at this
        simp only [u, this, Nat.add_sub_cancel]
      obtain ⟨t, ends, hclose, ht, hqueue, hends, hplace, hlevel, htaken, hallowed⟩ := ih rfl hu
      refine ⟨t, ⟨.blockEnd, s.place.line⟩ :: ends, ?_, ?_, ?_, ?_, hplace, hlevel, htaken,
        hallowed⟩
      · simp only [Scan.closeBlocks, h.inFlow, hindent, decide_false, Bool.or_self,
          Bool.false_eq_true, if_false]
        exact hclose
      · simpa only [closed, hindent, if_false] using ht
      · rw [hqueue]
        simp [u, push]
      · simp only [List.map_cons, hends, closed, hindent, if_false, List.replicate_succ, u]

/-- Closing blocks gives one token for each, and leaves those around them. -/
theorem Inside.closeTo (h : s.Inside stack) (limit : Nat) :
    ∃ t ends, s.closeTo limit = t ∧ t.Inside (closed limit stack).2 ∧
      t.queue = s.queue ++ ends ∧
      ends.map Token.kind = List.replicate (closed limit stack).1 .blockEnd ∧
      t.place = s.place ∧ t.level = s.level ∧ t.taken = s.taken ∧
      t.keyAllowed = s.keyAllowed := by
  obtain rfl := h.stack
  exact Inside.closeBlocks limit s.outer rfl h

end Blocks

/-! ## §2 Landing -/

/-- The next token starts at the place; `allowed` is whether a key may start
there. -/
def Lands (s : Scan) (p : Place) (allowed : Bool) : Prop :=
  ∃ k m, s.place.need? 1 = some k ∧ m.IsAt p ∧
    toToken? (k.rest.length + 1) (s.moveTo k) =
      some { s with place := m, keyAllowed := allowed }

section Landing

variable {s : Scan} {stack : List Nat} {rest : List Char} {i l col n : Nat}

theorem pastBlanks?_isAt (tabs : Bool) {k : Cursor}
    (h : k.IsAt ⟨List.replicate n ' ' ++ rest, i, l, col⟩)
    (hrest : ∀ c ∈ rest.head?, isBlank c = false ∧ c ≠ '#') :
    ∃ m, pastBlanks? tabs k = some m ∧ m.IsAt ⟨rest, i + n, l, col + n⟩ := by
  obtain ⟨k₁, hneed₁, hk₁⟩ := h.need? 1
  obtain ⟨k₂, hneed₂, hk₂⟩ := hk₁.need? 1
  obtain ⟨k₃, hskip, hk₃⟩ := hk₂.skipWhile? (q := fun c => c == ' ' || (tabs && c == '\t'))
    (fun c hc => by simp [List.eq_of_mem_replicate hc])
    (fun c hc => by
      have := (hrest c hc).1
      simp only [isBlank, Bool.or_eq_false_iff] at this
      simp [this.1, this.2])
  have hmarked : (k₁.column == 0 && k₁.window.marked) = false := by simp [hk₁.unmarked]
  have hsharp : (k₃.rest.head? == some '#') = false := by
    rw [hk₃.rest]
    cases hr : rest.head? with
    | none => rfl
    | some c => simpa using (hrest c hr).2
  refine ⟨k₃, ?_, by simpa using hk₃⟩
  simp only [pastBlanks?, hneed₁, Option.bind_some, hmarked, Bool.false_eq_true,
    if_false, hneed₂, hskip, hsharp]

/-- Blanks of the same line are passed over. -/
theorem lands_sameLine (h : s.place.IsAt ⟨List.replicate n ' ' ++ rest, i, l, col⟩)
    (hrest : StartsToken rest) : s.Lands ⟨rest, i + n, l, col + n⟩ s.keyAllowed := by
  obtain ⟨k, hneed, hk⟩ := h.need? 1
  obtain ⟨m, hpast, hm⟩ :=
    pastBlanks?_isAt (s.inFlow || !s.keyAllowed) hk fun c hc =>
      ⟨(hrest c hc).1, (hrest c hc).2.2⟩
  refine ⟨k, m, hneed, hm, ?_⟩
  have hpast' :
      pastBlanks? ((s.moveTo k).inFlow || !(s.moveTo k).keyAllowed) (s.moveTo k).place =
      some m := hpast
  rw [toToken?_succ, hpast', Option.bind_some, hm.rest]
  cases rest with
  | nil => rfl
  | cons c rest => simp [(hrest c rfl).2.1, moveTo]

/-- A line break and the blanks after it are passed over. -/
theorem lands_nextLine (h : s.place.IsAt ⟨'\n' :: (List.replicate n ' ' ++ rest), i, l, col⟩)
    (hflow : s.inFlow = false) (hrest : StartsToken rest) :
    s.Lands ⟨rest, i + 1 + n, l + 1, n⟩ true := by
  obtain ⟨k, hneed, hk⟩ := h.need? 1
  obtain ⟨m₁, hpast₁, hm₁⟩ :=
    pastBlanks?_isAt (n := 0) (s.inFlow || !s.keyAllowed) hk fun c hc => by cases hc; decide
  obtain ⟨m₂, hnext, hm₂⟩ := hm₁.nextLine?
  obtain ⟨m₃, hpast₃, hm₃⟩ :=
    pastBlanks?_isAt (s.inFlow || !(s.keyAllowed || !s.inFlow)) hm₂ fun c hc =>
      ⟨(hrest c hc).1, (hrest c hc).2.2⟩
  refine ⟨k, m₃, hneed, by simpa using hm₃, ?_⟩
  have hlength : k.rest.length = (List.replicate n ' ' ++ rest).length + 1 := by
    rw [hk.rest]; rfl
  have hfirst : pastBlanks? ((s.moveTo k).inFlow || !(s.moveTo k).keyAllowed)
      (s.moveTo k).place = some m₁ := hpast₁
  have hbreak : isBreak '\n' = true := rfl
  have hallowed : (s.keyAllowed || !s.inFlow) = true := by simp [hflow]
  rw [toToken?_succ, hfirst, Option.bind_some, hm₁.rest]
  simp only [hbreak, if_true, hnext, Option.bind_some, hlength]
  let s₂ : Scan := { s.moveTo k with place := m₂, keyAllowed := s.keyAllowed || !s.inFlow }
  have hsecond : pastBlanks? (s₂.inFlow || !s₂.keyAllowed) s₂.place = some m₃ := hpast₃
  change toToken? _ s₂ = _
  rw [toToken?_succ, hsecond, Option.bind_some, hm₃.rest]
  cases rest with
  | nil => simp [s₂, moveTo, hallowed]
  | cons c rest => simp [(hrest c rfl).2.1, s₂, moveTo, hallowed]

end Landing

/-! ## §3 Starts -/

/-- A token starts at the place, inside the blocks of the stack. A key that
was possible before is on an earlier line, and need not be one. -/
structure Reaches (s : Scan) (p : Place) (allowed : Bool) (stack : List Nat) : Prop where
  inside : s.Inside stack
  lands : s.Lands p allowed
  stale : ∀ key, s.level.key = some key → key.required = false ∧ key.line < p.line
  last : s.level.key.isSome = true → s.level.number + 1 = s.number

/-- What is read at the start of a token. -/
def atToken? (s : Scan) : Option Scan :=
  match s.place.rest with
  | [] => s.streamEnd?
  | c :: rest =>
    if s.place.column == 0 && c == '%' then s.directive?
    else if s.place.column == 0 && s.place.atMark ['-', '-', '-'] then
      s.documentMark? .documentStart
    else if s.place.column == 0 && s.place.atMark ['.', '.', '.'] then
      s.documentMark? .documentEnd
    else if c == '-' && blankAhead rest then s.blockEntry?
    else (s.content? c rest).bind pastComment?

section Starts

variable {s t : Scan} {stack : List Nat} {p : Place} {allowed : Bool} {c : Char}
  {rest : List Char} {i l col n : Nat}

theorem Inside.calm (h : s.Inside stack) (hkey : s.level.key.isSome = true →
    s.level.number + 1 = s.number) : s.Calm := by
  refine ⟨h.settled, fun level hlevel => ?_⟩
  rw [h.levels, List.mem_singleton] at hlevel
  rw [hlevel]
  exact hkey

/-- A scan at the start of a token is calm. -/
theorem Reaches.calm (h : s.Reaches p allowed stack) : s.Calm := h.inside.calm h.last

/-- Reading a token is passing over blanks, ending blocks and reading what is
there. -/
theorem Lands.token? (hstarted : s.started = true) (h : s.Lands p allowed) :
    ∃ m : Cursor, m.IsAt p ∧ ∀ t,
      ({ s with place := m, keyAllowed := allowed } : Scan).closeTo (p.column + 1) = t →
        s.token? = (t.place.need? 4).bind fun k => (t.moveTo k).atToken? := by
  obtain ⟨k, m, hneed, hm, htoToken⟩ := h
  refine ⟨m, hm, ?_⟩
  rintro _ rfl
  have hcolumn : m.column = p.column := hm.column
  have hstarted' : (!s.started) = false := by rw [hstarted]; rfl
  simp only [Scan.token?, hneed, Option.bind_eq_bind, Option.bind_some, hstarted',
    Bool.false_eq_true, if_false, htoToken, hcolumn]
  rfl

/-- The next token is read where it starts, after the blocks that end there. -/
theorem Inside.token? (h : s.Inside stack) (hlands : s.Lands ⟨rest, i, l, col⟩ allowed) :
    ∃ (t : Scan) (ends : List Token), s.token? = t.atToken? ∧ t.place.IsAt ⟨rest, i, l, col⟩ ∧
      t.Inside (closed (col + 1) stack).2 ∧ t.queue = s.queue ++ ends ∧
      ends.map Token.kind = List.replicate (closed (col + 1) stack).1 .blockEnd ∧
      t.keyAllowed = allowed ∧ t.level = s.level ∧ t.taken = s.taken := by
  obtain ⟨m, hm, htoken⟩ := hlands.token? h.started
  have hmoved : ({ s with place := m, keyAllowed := allowed } : Scan).Inside stack := h.frame
  obtain ⟨t, ends, hclose, ht, hqueue, hends, hplace, hlevel, htaken, hallowed⟩ :=
    hmoved.closeTo (col + 1)
  have htplace : t.place.IsAt ⟨rest, i, l, col⟩ := by rw [hplace]; exact hm
  obtain ⟨k, hneed, hk⟩ := htplace.need? 4
  refine ⟨t.moveTo k, ends, ?_, hk, ht.frame, hqueue, hends, hallowed, hlevel, htaken⟩
  rw [htoken t hclose, hneed, Option.bind_some]

/-- A token inside the block under way ends no block. -/
theorem Inside.token?_stay {indent : Nat} {outer : List Nat} (h : s.Inside (indent :: outer))
    (hlands : s.Lands ⟨rest, i, l, col⟩ allowed) (hindent : indent ≤ col + 1) :
    ∃ t : Scan, s.token? = t.atToken? ∧ t.place.IsAt ⟨rest, i, l, col⟩ ∧
      t.Inside (indent :: outer) ∧ t.queue = s.queue ∧
      t.keyAllowed = allowed ∧ t.level = s.level ∧ t.taken = s.taken := by
  obtain ⟨t, ends, htoken, hplace, hinside, hqueue, hends, hallowed, hlevel, htaken⟩ :=
    h.token? hlands
  rw [closed_of_le hindent] at hinside hends
  rw [List.map_eq_nil_iff.mp hends, List.append_nil] at hqueue
  exact ⟨t, htoken, hplace, hinside, hqueue, hallowed, hlevel, htaken⟩

/-- Where no mark of a document or entry stands, content is read. -/
theorem atToken?_content (h : s.place.IsAt ⟨c :: rest, i, l, col⟩)
    (hmark : col = 0 → c ≠ '%' ∧ c ≠ '-' ∧ c ≠ '.')
    (hentry : ¬ (c = '-' ∧ blankAhead rest = true)) :
    s.atToken? = (s.content? c rest).bind pastComment? := by
  have hrest : s.place.rest = c :: rest := h.rest
  have hcolumn : s.place.column = col := h.column
  have hentry' : (c == '-' && blankAhead rest) = false := by
    simpa using hentry
  by_cases hcol : col = 0
  · obtain ⟨hpercent, hdash, hdot⟩ := hmark hcol
    simp [atToken?, Cursor.atMark, hrest, hcolumn, hcol, hpercent, Ne.symm hdash, Ne.symm hdot,
      hdash, List.isPrefixOf]
  · simp only [atToken?, hrest, hcolumn, beq_eq_false_iff_ne.mpr hcol, Bool.false_and,
      Bool.false_eq_true, if_false, hentry']

end Starts

/-! ## §4 Scalars -/

/-- The scan after a scalar, with the level that it leaves. -/
def scanned (s : Scan) (level : Level) (text : List Char) (style : Style) (m : Cursor)
    (allowed : Bool) : Scan :=
  { s with
    level := level
    queue := s.queue ++ [⟨.scalar text style, s.place.line⟩]
    place := m
    keyAllowed := allowed }

section Scalars

variable {s : Scan} {stack : List Nat} {written cs after tail : List Char} {style : Style}
  {level : Level} {i l col margin : Nat}

/-- A text that can be written plain is read as a plain scalar. -/
theorem content?_plain {c : Char} (hflow : s.inFlow = false) (htext : IsPlainText (c :: cs))
    (hstart : startsWithIndicator (c :: cs) = false) (after : List Char) :
    s.content? c (cs ++ after) = s.plain? := by
  have hnext := fun hc => blankAhead_of_mark htext hstart hc after
  simp only [startsWithIndicator, isIndicator, Bool.or_eq_false_iff,
    beq_eq_false_iff_ne] at hstart
  obtain ⟨⟨⟨hindicator, -⟩, -⟩, -⟩ := hstart
  have hblank : isBlank c = false := by
    obtain ⟨d, rest, hcons, hd⟩ := htext.head
    rw [(List.cons.inj hcons).1]
    exact hd
  have hbreak : isBreak c = false := (htext.writable c List.mem_cons_self).2
  by_cases hquestion : c = '?'
  · obtain ⟨hahead, -⟩ := hnext (Or.inl hquestion)
    simp [content?, startsPlain, hquestion, hflow, hahead]
  by_cases hcolon : c = ':'
  · obtain ⟨hahead, -⟩ := hnext (Or.inr (Or.inl hcolon))
    simp [content?, startsPlain, hcolon, hflow, hahead]
  by_cases hdash : c = '-'
  · obtain ⟨-, hahead⟩ := hnext (Or.inr (Or.inr hdash))
    simp only [content?, startsPlain, hdash, hahead]
    rfl
  · simp [content?, startsPlain, hquestion, hcolon, hdash, hblank, hbreak, hindicator]

/-- A quote starts a scalar between quotes. -/
theorem content?_quoted (single : Bool) (rest : List Char) :
    s.content? (closing single) rest = s.quoted? single := by
  cases single <;> rfl

/-- A scalar in front of a colon. -/
theorem exists_content?_colon (hs : s.Inside stack)
    (h : s.place.IsAt ⟨written ++ ':' :: after, i, l, col⟩)
    (hw : Written written cs style) (hafter : blankAhead after = true)
    (hmark : col = 0 → ∀ c ∈ written.head?, c ≠ '-' ∧ c ≠ '.') (hindent : s.indent ≤ col + 2)
    (hsave : s.saveKey? = some { s with level := level }) :
    ∃ c rest m, written ++ ':' :: after = c :: rest ∧
      (s.content? c rest).bind pastComment? = some (s.scanned level cs style m false) ∧
      m.IsAt ⟨':' :: after, i + written.length, l, col + written.length⟩ := by
  have hflow := hs.inFlow
  have hstop : ∀ c ∈ (':' :: after).head?, isBlank c = false ∧ c ≠ '#' := by
    intro c hc
    cases hc
    decide
  cases hw with
  | plain text start =>
    obtain ⟨c, rest, rfl, -⟩ := text.head
    obtain ⟨m, hread, hm⟩ := IsAt.readPlain?_colon text hmark hindent hafter h
    obtain ⟨m', hcomment, hm'⟩ := hm.skipLineComment? [] (by simp) hstop
    refine ⟨c, rest ++ ':' :: after, m', rfl, ?_, hm'⟩
    have hflow' : ({ s with level := level } : Scan).inFlow = false := hflow
    rw [content?_plain hflow text start]
    simp only [plain?, hsave, Option.bind_eq_bind, Option.bind_some, hflow', hread,
      Option.pure_def, pastComment?, hcomment, Option.map_some]
    rfl
  | @quoted single write cs chars =>
    obtain ⟨m, hread, hm⟩ :=
      IsAt.readQuoted? (fun c hc => (chars c hc).reads) (by simp) h
    obtain ⟨m', hcomment, hm'⟩ := hm.skipLineComment? [] (by simp) hstop
    refine ⟨closing single, _, m', rfl, ?_, hm'⟩
    simp only [content?_quoted, quoted?, node?, hsave, Option.bind_eq_bind,
      Option.bind_some, hread, Option.map_some, Option.pure_def, pastComment?, hcomment]
    rfl

/-- A scalar at the end of a line; the next token starts on the next one. -/
theorem exists_content?_line (hs : s.Inside stack)
    (h : s.place.IsAt ⟨written ++ '\n' :: (List.replicate margin ' ' ++ tail), i, l, col⟩)
    (hw : Written written cs style) (htail : StartsToken tail)
    (hcol : 0 < col) (hindent : s.indent ≤ col + 2) (hmargin : margin < s.indent)
    (hsave : s.saveKey? = some { s with level := level }) :
    ∃ c rest m allowed, written ++ '\n' :: (List.replicate margin ' ' ++ tail) = c :: rest ∧
      (s.content? c rest).bind pastComment? = some (s.scanned level cs style m allowed) ∧
      (s.scanned level cs style m allowed).Lands
        ⟨tail, i + written.length + 1 + margin, l + 1, margin⟩ true := by
  have hflow := hs.inFlow
  have hmark : col = 0 → ∀ c ∈ written.head?, c ≠ '-' ∧ c ≠ '.' := fun hzero => by omega
  cases hw with
  | plain text start =>
    obtain ⟨c, rest, rfl, -⟩ := text.head
    obtain ⟨m, hread, hm⟩ :=
      IsAt.readPlain?_line text hmark hindent hmargin
        (fun c hc => ⟨(htail c hc).1, (htail c hc).2.1⟩) h
    obtain ⟨m', hcomment, hm'⟩ := hm.skipLineComment? [] (by simp)
      (fun c hc => ⟨(htail c hc).1, (htail c hc).2.2⟩)
    refine ⟨c, rest ++ '\n' :: (List.replicate margin ' ' ++ tail), m', true, rfl, ?_, ?_⟩
    · have hflow' : ({ s with level := level } : Scan).inFlow = false := hflow
      rw [content?_plain hflow text start]
      simp only [plain?, hsave, Option.bind_eq_bind, Option.bind_some, hflow', hread,
        Option.pure_def, pastComment?, hcomment, Option.map_some]
      rfl
    · exact lands_sameLine (n := 0) hm' htail
  | @quoted single write cs chars =>
    obtain ⟨m, hread, hm⟩ :=
      IsAt.readQuoted? (fun c hc => (chars c hc).reads) (by simp) h
    obtain ⟨m', hcomment, hm'⟩ := hm.skipLineComment? [] (by simp)
      (fun c hc => by cases hc; decide)
    refine ⟨closing single, _, m', false, rfl, ?_, ?_⟩
    · simp only [content?_quoted, quoted?, node?, hsave, Option.bind_eq_bind, Option.bind_some,
        hread, Option.map_some, Option.pure_def, pastComment?, hcomment]
      rfl
    · have := lands_nextLine (s := s.scanned level cs .explicit m' false) hm' hflow htail
      simpa using this

end Scalars

/-! ## §5 Lines -/

section Lines

variable {s t : Scan} {stack outer : List Nat} {written cs after tail : List Char}
  {style : Style} {i l col margin indent : Nat}

/-- A possible key that need not be one can be dropped. -/
theorem exists_dropKey? (hdrop : ∀ key, s.level.key = some key → key.required = false) :
    ∃ level : Level, level.key = none ∧ s.dropKey? = some { s with level := level } := by
  cases hkey : s.level.key with
  | none => exact ⟨s.level, hkey, by simp only [dropKey?, hkey]⟩
  | some key =>
    refine ⟨{ s.level with key := none }, rfl, ?_⟩
    simp only [dropKey?, hkey, hdrop key hkey, Bool.false_eq_true, if_false]
    rfl

/-- The level after a scalar, which is a possible key where one is allowed. -/
def savedLevel (s : Scan) : Level :=
  if s.keyAllowed then
    { number := s.number
      key := some
        { required := !s.inFlow && s.indent == s.place.column + 1
          index := s.place.index
          line := s.place.line
          column := s.place.column } }
  else s.level

/-- A possible key that need not be one gives way to the next. -/
theorem saveKey?_eq (hdrop : ∀ key, s.level.key = some key → key.required = false) :
    s.saveKey? = some { s with level := s.savedLevel } := by
  by_cases hallowed : s.keyAllowed = true
  · obtain ⟨level, -, heq⟩ := exists_dropKey? hdrop
    rw [saveKey?, if_pos hallowed, savedLevel, if_pos hallowed, heq]
    rfl
  · rw [saveKey?, if_neg hallowed, savedLevel, if_neg hallowed]

/-- A token is put in front of the one with the given number. -/
theorem insert_append {q q' : List Token} {number : Nat} (hq : t.queue = q ++ q')
    (hnumber : number = t.taken + q.length) (kind : TokenKind) (line : Nat) :
    t.insert number kind line = { t with queue := q ++ ⟨kind, line⟩ :: q' } := by
  have hnot : ¬ number < t.taken := by omega
  have hindex : number - t.taken = q.length := by omega
  simp only [insert, hnot, if_false, hindex, hq, List.take_left, List.drop_left]

/-- What a turn to a block at a column says about its two halves. -/
theorem exists_of_turn {kind : TokenKind} {column : Nat} {new : List TokenKind}
    {stack' : List Nat} (h : turn kind column stack = (new, (column + 1) :: stack')) :
    ∃ indent outer, (closed (column + 1) stack).2 = indent :: outer ∧ indent ≤ column + 1 ∧
      outer.length < stack.length ∧
      (opened kind column (indent :: outer)).2 = (column + 1) :: stack' ∧
      new = List.replicate (closed (column + 1) stack).1 .blockEnd ++
        (opened kind column (indent :: outer)).1 := by
  simp only [turn, Prod.mk.injEq] at h
  obtain ⟨hnew, hstack⟩ := h
  cases hclosed : (closed (column + 1) stack).2 with
  | nil => rw [hclosed] at hstack; exact absurd hstack (by simp [opened])
  | cons indent outer =>
    have hlength := length_closed_le (column + 1) stack
    rw [hclosed] at hnew hstack hlength
    refine ⟨indent, outer, rfl, ?_, hlength, hstack, hnew.symm⟩
    by_cases hcolumn : column < indent
    · simp only [opened, hcolumn, if_true, List.cons.injEq] at hstack
      omega
    · omega

/-- A block starts at a column, in front of the last tokens, unless one is
under way there. -/
theorem exists_openBlock? {q q' : List Token} {number : Nat} (ht : t.Inside (indent :: outer))
    (hdepth : outer.length < maxDepth) (hq : t.queue = q ++ q')
    (hnumber : number = t.taken + q.length) (column : Nat) (kind : TokenKind) (line : Nat) :
    ∃ u, t.openBlock? column number kind line = some u ∧
      u.kinds = q.map Token.kind ++ (opened kind column (indent :: outer)).1 ++
        q'.map Token.kind ∧
      u.Inside (opened kind column (indent :: outer)).2 ∧
      u.place = t.place ∧ u.level = t.level ∧ u.taken = t.taken ∧
      u.keyAllowed = t.keyAllowed := by
  obtain ⟨hindent, houter⟩ := List.cons.inj ht.stack
  by_cases hcolumn : column < indent
  · refine ⟨t, ?_, ?_, ?_, rfl, rfl, rfl, rfl⟩
    · simp [openBlock?, hindent, hcolumn]
    · simp [opened, hcolumn, kinds, hq]
    · simpa only [opened, hcolumn, if_true] using ht
  · refine ⟨{ t with
        queue := q ++ ⟨kind, line⟩ :: q'
        indent := column + 1
        outer := t.indent :: t.outer
        blocks := t.blocks + 1 }, ?_, ?_, ?_, rfl, rfl, rfl, rfl⟩
    · have hblocks : ¬ maxDepth ≤ t.blocks := by
        rw [ht.blocks, houter]
        omega
      simp only [openBlock?, ht.inFlow, hindent, hcolumn, decide_false, Bool.or_self,
        Bool.false_eq_true, if_false, hblocks, insert_append hq hnumber]
    · simp [opened, hcolumn, kinds]
    · simp only [opened, hcolumn, if_false]
      refine ⟨ht.started, ht.settled, congrArg _ ht.stack, ?_, ht.levels, ht.depth⟩
      simp only [List.length_cons, ht.blocks]

/-- A colon after a scalar makes it a key. -/
theorem exists_value?_key {q : List Token} {a : Token} {key : KeyPlace}
    (ht : t.Inside (indent :: outer)) (hdepth : outer.length < maxDepth)
    (hq : t.queue = q ++ [a]) (hnumber : t.level.number = t.taken + q.length)
    (hkey : t.level.key = some key) (hfresh : t.isFresh key = true) :
    ∃ u, t.value? = some u ∧
      u.kinds = q.map Token.kind ++
        (opened .blockMappingStart key.column (indent :: outer)).1 ++ [.key, a.kind, .value] ∧
      u.Inside (opened .blockMappingStart key.column (indent :: outer)).2 ∧
      u.place = t.place.advance ∧ u.keyAllowed = false ∧ u.level.key = none := by
  let t₁ := (t.insert t.level.number .key key.line).forgetKey
  have ht₁ : t₁ = { t with
      queue := q ++ [⟨.key, key.line⟩, a], level := { t.level with key := none } } := by
    simp only [t₁, insert_append hq hnumber]
    rfl
  have hinside : t₁.Inside (indent :: outer) := by
    rw [ht₁]
    exact ht.frame
  have hqueue : t₁.queue = q ++ [⟨.key, key.line⟩, a] := by rw [ht₁]
  have hnumber₁ : t.level.number = t₁.taken + q.length := by rw [ht₁]; exact hnumber
  obtain ⟨u, hopen, hkinds, hu, hplace, hlevel, -, -⟩ :=
    exists_openBlock? hinside hdepth hqueue hnumber₁ key.column .blockMappingStart key.line
  refine ⟨u.indicator .value false, ?_, ?_, ?_, ?_, rfl, ?_⟩
  · simp only [value?, hkey, hfresh, if_true]
    change (t₁.openBlock? _ _ _ _ >>= _) = _
    rw [hopen]
    rfl
  · have : (u.indicator .value false).kinds = u.kinds ++ [.value] := kinds_push u _ _
    rw [this, hkinds]
    simp
  · exact hu.frame
  · simp only [indicator, push, hplace, ht₁]
  · simp only [indicator, push, hlevel, ht₁]

/-- Reading goes on with tokens of the given kinds. -/
structure Follows (s : Scan) (new : List TokenKind) (t : Scan) : Prop where
  ahead : Ahead s t
  kinds : t.kinds = s.kinds ++ new

theorem Follows.trans {u : Scan} {new new' : List TokenKind} (h : s.Follows new t)
    (h' : t.Follows new' u) : s.Follows (new ++ new') u :=
  ⟨h.ahead.trans h'.ahead, by rw [h'.kinds, h.kinds, List.append_assoc]⟩

/-- One token after another, between calm scans. -/
theorem Follows.step {new : List TokenKind} (hs : s.Calm) (ht : t.Calm)
    (htoken : s.token? = some t) (hkinds : t.kinds = s.kinds ++ new) (hnew : new ≠ []) :
    s.Follows new t := by
  refine ⟨.step hs htoken ?_ (.here ht), hkinds⟩
  have hlength := congrArg List.length hkinds
  have hpos := List.length_pos_iff.mpr hnew
  simp only [Scan.kinds, List.length_map, List.length_append] at hlength
  omega

/-- Where no comment follows a token, the blanks in front of the next one are
left to it. -/
theorem exists_pastComment? (blanks : List Char)
    (h : s.place.IsAt ⟨blanks ++ tail, i, l, col⟩) (hblanks : ∀ c ∈ blanks, isBlank c = true)
    (htail : ∀ c ∈ tail.head?, isBlank c = false ∧ c ≠ '#') :
    ∃ m, s.pastComment? = some (s.moveTo m) ∧ m.IsAt ⟨blanks ++ tail, i, l, col⟩ := by
  obtain ⟨m, hcomment, hm⟩ := h.skipLineComment? blanks hblanks htail
  exact ⟨m, by rw [pastComment?, hcomment, Option.map_some], hm⟩

theorem Inside.calm_of_none (h : s.Inside stack) (hkey : s.level.key = none) : s.Calm :=
  h.calm (by simp [hkey])

/-- A text in front of a colon is a possible key. -/
theorem Reaches.exists_possibleKey
    (h : s.Reaches ⟨written ++ ':' :: after, i, l, col⟩ true stack)
    (hw : Written written cs style) (hafter : blankAhead after = true)
    (hmark : col = 0 → ∀ c ∈ written.head?, c ≠ '%' ∧ c ≠ '-' ∧ c ≠ '.')
    (hclosed : (closed (col + 1) stack).2 = indent :: outer) (hindent : indent ≤ col + 1) :
    ∃ t q a key, s.token? = some t ∧ t.Inside (indent :: outer) ∧
      t.place.IsAt ⟨':' :: after, i + written.length, l, col + written.length⟩ ∧
      t.queue = q ++ [a] ∧ a.kind = .scalar cs style ∧
      q.map Token.kind =
        s.kinds ++ List.replicate (closed (col + 1) stack).1 .blockEnd ∧
      t.level.number = t.taken + q.length ∧ t.level.key = some key ∧
      key.index = i ∧ key.line = l ∧ key.column = col := by
  obtain ⟨t, ends, htoken, hplace, hinside, hqueue, hends, hallowed, hlevel, -⟩ :=
    h.inside.token? h.lands
  rw [hclosed] at hinside
  have hindent' : t.indent = indent := (List.cons.inj hinside.stack).1
  have hsave := saveKey?_eq (s := t) fun key hkey => (h.stale key (hlevel ▸ hkey)).1
  obtain ⟨c, rest, m, hrest, hcontent, hm⟩ :=
    exists_content?_colon hinside hplace hw hafter
      (fun hzero c hc => (hmark hzero c hc).2) (by omega) hsave
  have hhead : written.head? = some c := by
    obtain ⟨d, tail, rfl⟩ := List.exists_cons_of_ne_nil hw.ne_nil
    rw [(List.cons.inj hrest).1]
    rfl
  refine ⟨t.scanned t.savedLevel cs style m false, t.queue, ⟨.scalar cs style, t.place.line⟩,
    { required := !t.inFlow && t.indent == t.place.column + 1
      index := t.place.index
      line := t.place.line
      column := t.place.column }, ?_, ?_, hm, rfl, rfl, ?_, ?_, ?_, hplace.index, hplace.line,
    hplace.column⟩
  · rw [htoken, atToken?_content (hplace.cast hrest rfl rfl) (fun hzero => hmark hzero c hhead)
      (hw.not_entry hrest), hcontent]
  · exact hinside.frame
  · rw [hqueue, List.map_append, hends]
    rfl
  · simp only [scanned, savedLevel, hallowed, if_true]
    rfl
  · simp only [scanned, savedLevel, hallowed, if_true]

/-- A text and a colon: a key, and the mark of its value. -/
theorem Reaches.exists_key (blanks : List Char) {new : List TokenKind} {stack' : List Nat}
    (h : s.Reaches ⟨written ++ ':' :: (blanks ++ tail), i, l, col⟩ true stack)
    (hw : Written written cs style) (hshort : written.length ≤ keyReach)
    (hmark : col = 0 → ∀ c ∈ written.head?, c ≠ '%' ∧ c ≠ '-' ∧ c ≠ '.')
    (hturn : turn .blockMappingStart col stack = (new, (col + 1) :: stack'))
    (hdepth : stack.length ≤ maxDepth) (hafter : blankAhead (blanks ++ tail) = true)
    (hblanks : ∀ c ∈ blanks, isBlank c = true)
    (htail : ∀ c ∈ tail.head?, isBlank c = false ∧ c ≠ '#') :
    ∃ u, s.Follows (new ++ [.key, .scalar cs style, .value]) u ∧
      u.Inside ((col + 1) :: stack') ∧
      u.place.IsAt ⟨blanks ++ tail, i + written.length + 1, l, col + written.length + 1⟩ ∧
      u.keyAllowed = false ∧ u.level.key = none := by
  obtain ⟨indent, outer, hclosed, hindent, houter, hopened, rfl⟩ := exists_of_turn hturn
  obtain ⟨t, q, a, key, htoken, hinside, hplace, hqueue, hkind, hq, hnumber, hkey,
    hindex, hline, hcolumn⟩ := h.exists_possibleKey hw hafter hmark hclosed hindent
  have hcalm : t.Calm := by
    refine hinside.calm fun _ => ?_
    simp only [hnumber, number, hqueue, List.length_append, List.length_cons, List.length_nil]
    omega
  have hlands := lands_sameLine (n := 0) hplace (by intro d hd; cases hd; decide)
  obtain ⟨t₁, htoken₁, hplace₁, hinside₁, hqueue₁, -, hlevel₁, htaken₁⟩ :=
    hinside.token?_stay hlands (by omega)
  have hfresh : t₁.isFresh key = true := by
    simp only [isFresh, hplace₁.line, hplace₁.index, hline, hindex, Bool.and_eq_true,
      decide_eq_true_eq]
    omega
  obtain ⟨u, hvalue, hkinds, hu, hplaceU, hallowedU, hkeyU⟩ :=
    exists_value?_key hinside₁ (by omega) (hqueue₁.trans hqueue)
      (by rw [hlevel₁, htaken₁]; exact hnumber) (by rw [hlevel₁]; exact hkey) hfresh
  rw [hcolumn, hopened] at hu
  have hplaceU' : u.place.IsAt
      ⟨blanks ++ tail, i + written.length + 1, l, col + written.length + 1⟩ := by
    rw [hplaceU]
    exact hplace₁.advance
  obtain ⟨m, hcomment, hm⟩ := exists_pastComment? blanks hplaceU' hblanks htail
  have hread : t.token? = some (u.moveTo m) := by
    have hcontent : t₁.content? ':' (blanks ++ tail) = t₁.value? := by
      simp [content?, hafter]
    rw [htoken₁, atToken?_content hplace₁ (by simp) (by simp), hcontent, hvalue,
      Option.bind_some, hcomment]
  have hfinal : (u.moveTo m).Inside ((col + 1) :: stack') := hu.frame
  have hlength : q.length = s.queue.length + (closed (col + 1) stack).1 := by
    have := congrArg List.length hq
    simpa only [List.length_map, Scan.kinds, List.length_append, List.length_replicate]
      using this
  refine ⟨u.moveTo m, ⟨.step h.calm htoken ?_ (.step hcalm hread ?_
    (.here (hfinal.calm_of_none hkeyU))), ?_⟩, hfinal, hm, hallowedU, hkeyU⟩
  · simp only [hqueue, List.length_append, List.length_cons, List.length_nil]
    omega
  · have := congrArg List.length hkinds
    simp only [Scan.kinds, List.length_map, List.length_append, List.length_cons,
      List.length_nil] at this
    simp only [hqueue, moveTo, List.length_append, List.length_cons, List.length_nil]
    omega
  · have hmoved : (u.moveTo m).kinds = u.kinds := rfl
    rw [hmoved, hkinds, hq, hkind, hcolumn]
    simp

/-- A text at the end of a line, as a value or after the mark of a key. -/
theorem Reaches.exists_text {allowed : Bool}
    (h : s.Reaches ⟨written ++ '\n' :: (List.replicate margin ' ' ++ tail), i, l, col⟩ allowed
      (indent :: outer))
    (hkey : allowed = false → s.level.key = none) (hw : Written written cs style)
    (htail : StartsToken tail) (hcol : 0 < col) (hindent : indent ≤ col)
    (hmargin : margin < indent) :
    ∃ t i', s.Follows [.scalar cs style] t ∧
      t.Reaches ⟨tail, i', l + 1, margin⟩ true (indent :: outer) := by
  obtain ⟨t, htoken, hplace, hinside, hqueue, hallowed, hlevel, htaken⟩ :=
    h.inside.token?_stay h.lands (by omega)
  have hindent' : t.indent = indent := (List.cons.inj hinside.stack).1
  have hsave := saveKey?_eq (s := t) fun key hkey => (h.stale key (hlevel ▸ hkey)).1
  obtain ⟨c, rest, m, allowed', hrest, hcontent, hlands⟩ :=
    exists_content?_line hinside hplace hw htail hcol (by omega) (by omega) hsave
  let u := t.scanned t.savedLevel cs style m allowed'
  have hu : u.Inside (indent :: outer) := hinside.frame
  have hread : s.token? = some u := by
    rw [htoken, atToken?_content (hplace.cast hrest rfl rfl) (fun hzero => by omega)
      (hw.not_entry hrest), hcontent]
  -- the scalar may be a key, which it need not be: its column is inside the block
  have hsaved : ∀ key, u.level.key = some key →
      key.required = false ∧ key.line < l + 1 ∧ u.level.number + 1 = u.number := by
    intro key hsome
    cases ha : allowed with
    | false =>
      have : u.level = s.level := by
        simp only [u, scanned, savedLevel, hallowed, ha, Bool.false_eq_true, if_false, hlevel]
      rw [this, hkey ha] at hsome
      exact nomatch hsome
    | true =>
      have hsavedLevel : u.level =
          { number := t.number
            key := some
              { required := !t.inFlow && t.indent == t.place.column + 1
                index := t.place.index
                line := t.place.line
                column := t.place.column } } := by
        simp only [u, scanned, savedLevel, hallowed, ha, if_true]
      rw [hsavedLevel] at hsome ⊢
      obtain rfl := Option.some.inj hsome
      have hne : (t.indent == t.place.column + 1) = false := by
        rw [beq_eq_false_iff_ne, hplace.column, hindent']
        simp only
        omega
      refine ⟨by simp only [hne, Bool.and_false], ?_, ?_⟩
      · simp only [hplace.line]
        omega
      · simp [u, scanned, number, Nat.add_assoc]
  have hlast : u.level.key.isSome = true → u.level.number + 1 = u.number := by
    intro hsome
    obtain ⟨key, hk⟩ := Option.isSome_iff_exists.mp hsome
    exact (hsaved key hk).2.2
  refine ⟨u, _, .step h.calm (hu.calm hlast) hread ?_ (List.cons_ne_nil _ _),
    ⟨hu, hlands, fun key hk => ⟨(hsaved key hk).1, (hsaved key hk).2.1⟩, hlast⟩⟩
  simp [u, scanned, kinds, hqueue]

/-- The scan after a mark that starts a block, unless one is under way. -/
def mark? (s : Scan) (start kind : TokenKind) (allowed : Scan → Bool) : Option Scan := do
  let s ← s.openBlock? s.place.column s.number start s.place.line
  let s ← s.dropKey?
  return s.indicator kind (allowed s)

/-- A mark starts a block, unless one is under way at its column. -/
theorem exists_mark? (ht : t.Inside (indent :: outer)) (hdepth : outer.length < maxDepth)
    (hcolumn : t.place.column = col)
    (hdrop : ∀ key, t.level.key = some key → key.required = false) (start kind : TokenKind)
    {f : Scan → Bool} (hf : ∀ s : Scan, s.inFlow = false → f s = true) :
    ∃ u, t.mark? start kind f = some u ∧
      u.kinds = t.kinds ++ (opened start col (indent :: outer)).1 ++ [kind] ∧
      u.Inside (opened start col (indent :: outer)).2 ∧
      u.place = t.place.advance ∧ u.keyAllowed = true ∧ u.level.key = none := by
  obtain ⟨v, hopen, hkinds, hv, hplace, hlevel, -, -⟩ :=
    exists_openBlock? ht hdepth (List.append_nil t.queue).symm rfl col start t.place.line
  obtain ⟨level, hnone, hdropped⟩ := exists_dropKey? (s := v) fun key hkey =>
    hdrop key (hlevel ▸ hkey)
  let w : Scan := { v with level := level }
  have hflow : w.inFlow = false := hv.inFlow
  have hnumber : t.number = t.taken + t.queue.length := rfl
  refine ⟨w.indicator kind (f w), ?_, ?_, ?_, ?_, hf w hflow, hnone⟩
  · simp only [mark?, hcolumn, hnumber, hopen, Option.bind_eq_bind, Option.bind_some, hdropped]
    rfl
  · have : (w.indicator kind (f w)).kinds = v.kinds ++ [kind] := kinds_push v _ _
    rw [this, hkinds]
    simp [kinds]
  · exact hv.frame
  · simp only [indicator, push, w, hplace]

/-- After a mark and a blank, a token with nothing before it is reached. -/
theorem Inside.reaches_blank {rest : List Char} (h : t.Inside stack) (hkey : t.level.key = none)
    (hplace : t.place.IsAt ⟨' ' :: rest, i, l, col⟩) (hrest : StartsToken rest) :
    t.Reaches ⟨rest, i + 1, l, col + 1⟩ t.keyAllowed stack :=
  ⟨h, lands_sameLine (n := 1) hplace hrest, by simp [hkey], by simp [hkey]⟩

/-- After a mark at the end of a line, the next line is reached. -/
theorem Inside.reaches_line {rest : List Char} (h : t.Inside stack) (hkey : t.level.key = none)
    (hplace : t.place.IsAt ⟨'\n' :: (List.replicate margin ' ' ++ rest), i, l, col⟩)
    (hrest : StartsToken rest) :
    t.Reaches ⟨rest, i + 1 + margin, l + 1, margin⟩ true stack :=
  ⟨h, lands_nextLine hplace h.inFlow hrest, by simp [hkey], by simp [hkey]⟩

/-- A mark at the start of a line, with the blocks that end and start there. -/
theorem Reaches.exists_mark? {c : Char} {rest : List Char} {start : TokenKind}
    {new : List TokenKind} {stack' : List Nat}
    (h : s.Reaches ⟨c :: rest, i, l, col⟩ true stack)
    (hturn : turn start col stack = (new, (col + 1) :: stack'))
    (hdepth : stack.length ≤ maxDepth)
    (kind : TokenKind) {f : Scan → Bool} (hf : ∀ s : Scan, s.inFlow = false → f s = true) :
    ∃ t u : Scan, s.token? = t.atToken? ∧ t.place.IsAt ⟨c :: rest, i, l, col⟩ ∧
      t.keyAllowed = true ∧
      t.mark? start kind f = some u ∧ u.kinds = s.kinds ++ (new ++ [kind]) ∧
      u.Inside ((col + 1) :: stack') ∧ u.place.IsAt ⟨rest, i + 1, l, col + 1⟩ ∧
      u.keyAllowed = true ∧ u.level.key = none := by
  obtain ⟨indent, outer, hclosed, hindent, houter, hopened, rfl⟩ := exists_of_turn hturn
  obtain ⟨t, ends, htoken, hplace, hinside, hqueue, hends, hallowed, hlevel, -⟩ :=
    h.inside.token? h.lands
  rw [hclosed] at hinside
  obtain ⟨u, hmark, hkinds, hu, hplaceU, hallowedU, hkeyU⟩ :=
    Scan.exists_mark? hinside (by omega) hplace.column
      (fun key hkey => (h.stale key (hlevel ▸ hkey)).1) start kind hf
  rw [hopened] at hu
  refine ⟨t, u, htoken, hplace, hallowed, hmark, ?_, hu, hplaceU ▸ hplace.advance,
    hallowedU, hkeyU⟩
  have : t.kinds = s.kinds ++ List.replicate (closed (col + 1) stack).1 .blockEnd := by
    simp only [kinds, hqueue, List.map_append, hends]
  rw [hkinds, this]
  simp

/-- The mark of an entry of a sequence. -/
theorem Reaches.exists_entry {rest : List Char} {new : List TokenKind} {stack' : List Nat}
    (h : s.Reaches ⟨'-' :: ' ' :: rest, i, l, col⟩ true stack) (hcol : 0 < col)
    (hrest : StartsToken rest)
    (hturn : turn .blockSequenceStart col stack = (new, (col + 1) :: stack'))
    (hdepth : stack.length ≤ maxDepth) :
    ∃ t, s.Follows (new ++ [.blockEntry]) t ∧
      t.Reaches ⟨rest, i + 2, l, col + 2⟩ true ((col + 1) :: stack') := by
  obtain ⟨t, u, htoken, hplace, hallowed, hmark, hkinds, hu, hplaceU, hallowedU, hkeyU⟩ :=
    h.exists_mark? hturn hdepth .blockEntry (f := fun _ => true) fun _ _ => rfl
  have hread : s.token? = some u := by
    have hrestT : t.place.rest = '-' :: ' ' :: rest := hplace.rest
    have hcolumn : (t.place.column == 0) = false := by
      rw [hplace.column, beq_eq_false_iff_ne]
      exact Nat.ne_of_gt hcol
    have hahead : ('-' == '-' && blankAhead (' ' :: rest)) = true := rfl
    have hguard : (!t.inFlow && !t.keyAllowed) = false := by rw [hallowed]; simp
    rw [htoken, ← hmark]
    simp only [atToken?, hrestT, hcolumn, Bool.false_and, Bool.false_eq_true, if_false, hahead,
      if_true, blockEntry?, hguard]
    rfl
  have hreaches := hu.reaches_blank hkeyU hplaceU hrest
  rw [hallowedU] at hreaches
  exact ⟨u, .step h.calm (hu.calm_of_none hkeyU) hread hkinds (by simp), hreaches⟩

/-- The mark of a key. -/
theorem Reaches.exists_explicitKey {rest : List Char} {new : List TokenKind} {stack' : List Nat}
    (h : s.Reaches ⟨'?' :: ' ' :: rest, i, l, col⟩ true stack) (hrest : StartsToken rest)
    (hturn : turn .blockMappingStart col stack = (new, (col + 1) :: stack'))
    (hdepth : stack.length ≤ maxDepth) :
    ∃ t, s.Follows (new ++ [.key]) t ∧
      t.Reaches ⟨rest, i + 2, l, col + 2⟩ true ((col + 1) :: stack') := by
  obtain ⟨t, u, htoken, hplace, hallowed, hmark, hkinds, hu, hplaceU, hallowedU, hkeyU⟩ :=
    h.exists_mark? hturn hdepth .key (f := fun s => !s.inFlow) fun s hs => by rw [hs]; rfl
  obtain ⟨m, hcomment, hm⟩ := exists_pastComment? [' '] hplaceU (by simp [isBlank])
    fun c hc => ⟨(hrest c hc).1, (hrest c hc).2.2⟩
  have hread : s.token? = some (u.moveTo m) := by
    have hguard : (!t.inFlow && !t.keyAllowed) = false := by rw [hallowed]; simp
    have hcontent : t.content? '?' (' ' :: rest) = some u := by
      rw [← hmark]
      simp only [content?, explicitKey?, hguard]
      simp [blankAhead, isBlank]
      rfl
    rw [htoken, atToken?_content hplace (by simp) (by simp), hcontent, Option.bind_some,
      hcomment]
  have hmoved : (u.moveTo m).Inside ((col + 1) :: stack') := hu.frame
  have hreaches := hmoved.reaches_blank hkeyU hm hrest
  have hallowedM : (u.moveTo m).keyAllowed = true := hallowedU
  rw [hallowedM] at hreaches
  exact ⟨u.moveTo m, .step h.calm (hmoved.calm_of_none hkeyU) hread hkinds (by simp), hreaches⟩

/-- The mark of a value on a line of its own, after a key with a mark. -/
theorem Reaches.exists_bareValue {rest : List Char}
    (h : s.Reaches ⟨':' :: ' ' :: rest, i, l, col⟩ true ((col + 1) :: outer))
    (hrest : StartsToken rest) :
    ∃ t, s.Follows [.value] t ∧
      t.Reaches ⟨rest, i + 2, l, col + 2⟩ true ((col + 1) :: outer) := by
  obtain ⟨t, htoken, hplace, hinside, hqueue, hallowed, hlevel, -⟩ :=
    h.inside.token?_stay h.lands (Nat.le_refl _)
  let u := t.forgetKey.indicator .value true
  have hinsideU : u.Inside ((col + 1) :: outer) := hinside.frame
  -- what may have been a key is on an earlier line
  have hvalue : t.value? = t.forgetKey.bareValue? := by
    cases hkey : t.level.key with
    | none =>
      have : t.forgetKey = t := by simp only [forgetKey, ← hkey]
      rw [value?, hkey, this]
    | some key =>
      obtain ⟨hrequired, hline⟩ := h.stale key (hlevel ▸ hkey)
      have hstale : t.isFresh key = false := by
        have : ¬ t.place.line ≤ key.line := by
          rw [hplace.line]
          exact Nat.not_le_of_lt hline
        simp [isFresh, this]
      simp only [value?, hkey, hstale, hrequired, Bool.false_eq_true, if_false]
  have hbare : t.forgetKey.bareValue? = some u := by
    have hcolumn : t.forgetKey.place.column = col := hplace.column
    have hindent : t.forgetKey.indent = col + 1 := (List.cons.inj hinside.stack).1
    have hflow : t.forgetKey.inFlow = false := hinside.inFlow
    have hallowed' : t.forgetKey.keyAllowed = true := hallowed
    simp only [bareValue?, hallowed', Bool.not_true, Bool.and_false, Bool.false_eq_true,
      if_false, openBlock?, hcolumn, hindent, Nat.lt_succ_self, decide_true, Bool.or_true,
      if_true, Option.bind_eq_bind, Option.bind_some, hflow, Bool.not_false]
    rfl
  have hplaceU : u.place.IsAt ⟨' ' :: rest, i + 1, l, col + 1⟩ := hplace.advance
  obtain ⟨m, hcomment, hm⟩ := exists_pastComment? [' '] hplaceU (by simp [isBlank])
    fun c hc => ⟨(hrest c hc).1, (hrest c hc).2.2⟩
  have hread : s.token? = some (u.moveTo m) := by
    have hcontent : t.content? ':' (' ' :: rest) = t.value? := by
      simp [content?, blankAhead, isBlank]
    rw [htoken, atToken?_content hplace (by simp) (by simp), hcontent, hvalue, hbare,
      Option.bind_some, hcomment]
  have hmoved : (u.moveTo m).Inside ((col + 1) :: outer) := hinsideU.frame
  refine ⟨u.moveTo m, .step h.calm (hmoved.calm_of_none rfl) hread ?_ (by simp),
    hmoved.reaches_blank rfl hm hrest⟩
  have : (u.moveTo m).kinds = t.kinds ++ [.value] := kinds_push t _ _
  rw [this, kinds, hqueue]
  rfl

theorem closeTo_inFlow (h : s.inFlow = true) (limit : Nat) : s.closeTo limit = s := by
  rw [closeTo]
  cases s.outer with
  | nil => rfl
  | cons above outer => simp only [closeBlocks, h, Bool.true_or, if_true]

/-- The characters and the tokens of brackets. -/
def IsBrackets (left right : Char) (start stop : TokenKind) : Prop :=
  (left = '[' ∧ right = ']' ∧ start = .flowSequenceStart ∧ stop = .flowSequenceEnd) ∨
    (left = '\x7b' ∧ right = '\x7d' ∧ start = .flowMappingStart ∧ stop = .flowMappingEnd)

theorem IsBrackets.chars {left right : Char} {start stop : TokenKind}
    (h : IsBrackets left right start stop) :
    (left ≠ '%' ∧ left ≠ '-' ∧ left ≠ '.') ∧ (right ≠ '%' ∧ right ≠ '-' ∧ right ≠ '.') ∧
      isBlank right = false ∧ isBreak right = false ∧ right ≠ '#' := by
  rcases h with ⟨rfl, rfl, rfl, rfl⟩ | ⟨rfl, rfl, rfl, rfl⟩ <;> decide

theorem IsBrackets.content? {left right : Char} {start stop : TokenKind}
    (h : IsBrackets left right start stop) (s : Scan) (rest : List Char) :
    s.content? left rest = s.openFlow? start ∧ s.content? right rest = s.closeFlow? stop := by
  rcases h with ⟨rfl, rfl, rfl, rfl⟩ | ⟨rfl, rfl, rfl, rfl⟩ <;> exact ⟨rfl, rfl⟩

/-- The scan after an opening bracket. -/
def within (s : Scan) (start : TokenKind) (m : Cursor) : Scan :=
  { s with
    place := m
    keyAllowed := true
    queue := s.queue ++ [⟨start, s.place.line⟩]
    level := { number := s.number }
    levels := s.level :: s.levels
    depth := s.depth + 1 }

theorem Reaches.exists_within {left right : Char} {start stop : TokenKind} {rest : List Char}
    (h : s.Reaches ⟨left :: right :: rest, i, l, col⟩ false (indent :: outer))
    (hkey : s.level.key = none) (hindent : indent ≤ col + 1)
    (hbrackets : IsBrackets left right start stop) :
    ∃ (t : Scan) (m : Cursor), t.Inside (indent :: outer) ∧ t.level.key = none ∧
      t.queue = s.queue ∧ s.token? = some (t.within start m) ∧
      m.IsAt ⟨right :: rest, i + 1, l, col + 1⟩ := by
  obtain ⟨t, htoken, hplace, hinside, hqueue, hallowed, hlevel, -⟩ :=
    h.inside.token?_stay h.lands hindent
  obtain ⟨hleft, -, hblank, -, hsharp⟩ := hbrackets.chars
  obtain ⟨m, hcomment, hm⟩ := hplace.advance.skipLineComment? [] (by simp)
    fun c hc => by cases hc; exact ⟨hblank, hsharp⟩
  refine ⟨t, m, hinside, by rw [hlevel, hkey], hqueue, ?_, hm⟩
  have hsave : t.saveKey? = some t := by
    rw [saveKey?, if_neg (by rw [hallowed]; exact Bool.false_ne_true)]
  have hdepth : ¬ maxDepth ≤ t.depth := by
    rw [hinside.depth]
    decide
  rw [htoken, atToken?_content hplace (fun _ => hleft) (fun hand => hleft.2.1 hand.1),
    (hbrackets.content? t _).1]
  simp only [openFlow?, hsave, Option.bind_eq_bind, Option.bind_some, hdepth, if_false,
    Option.pure_def, pastComment?, indicator, push, hcomment, Option.map_some]
  rfl

/-- Brackets with nothing between them, at the end of a line. -/
theorem Reaches.exists_brackets {left right : Char} {start stop : TokenKind}
    (h : s.Reaches ⟨left :: right :: '\n' :: (List.replicate margin ' ' ++ tail), i, l, col⟩
      false (indent :: outer))
    (hkey : s.level.key = none) (htail : StartsToken tail) (hindent : indent ≤ col + 1)
    (hbrackets : IsBrackets left right start stop) :
    ∃ t i', s.Follows [start, stop] t ∧
      t.Reaches ⟨tail, i', l + 1, margin⟩ true (indent :: outer) := by
  obtain ⟨t, m, hinside, hkeyT, hqueue, htoken, hm⟩ := h.exists_within hkey hindent hbrackets
  obtain ⟨-, hright, hstarts⟩ := hbrackets.chars
  have hplace : (t.within start m).place.IsAt
      ⟨right :: '\n' :: (List.replicate margin ' ' ++ tail), i + 1, l, col + 1⟩ := hm
  have hlands := lands_sameLine (n := 0) hplace (fun c hc => by cases hc; exact hstarts)
  have hstarted : (t.within start m).started = true := hinside.started
  obtain ⟨m₁, hm₁, hread⟩ := hlands.token? hstarted
  obtain ⟨k, hneed, hk⟩ := hm₁.need? 4
  obtain ⟨m₂, hcomment, hm₂⟩ := hk.advance.skipLineComment? [] (by simp)
    fun c hc => by cases hc; decide
  let u : Scan :=
    { t with
      place := m₂
      keyAllowed := false
      queue := t.queue ++ [⟨start, t.place.line⟩, ⟨stop, k.line⟩]
      level := t.level.release t.number
      depth := t.depth + 1 - 1 }
  have hu : u.Inside (indent :: outer) := hinside.frame
  have hkeyU : u.level.key = none := by
    simp only [u, Level.release]
    split
    · simp [hkeyT]
    · exact hkeyT
  have htokenU : (t.within start m).token? = some u := by
    rw [hread _ (closeTo_inFlow rfl _)]
    simp only [hneed, Option.bind_some]
    have hkAt : (moveTo { t.within start m with
        place := m₁, keyAllowed := (t.within start m).keyAllowed } k).place.IsAt
        ⟨right :: '\n' :: (List.replicate margin ' ' ++ tail), i + 1 + 0, l, col + 1 + 0⟩ := hk
    rw [atToken?_content hkAt (fun _ => hright) (fun hand => hright.2.1 hand.1),
      (hbrackets.content? _ _).2]
    simp only [closeFlow?, dropKey?, moveTo, within, Option.map_some, Option.bind_some,
      pastComment?, indicator, push, hcomment]
    simp [u]
  have hcalm : (t.within start m).Calm := by
    refine ⟨hinside.settled, fun level hlevel hsome => ?_⟩
    have hlevels : (t.within start m).level :: (t.within start m).levels =
        [{ number := t.number }, t.level] := by
      simp only [within, hinside.levels]
    rw [hlevels, List.mem_cons, List.mem_singleton] at hlevel
    rcases hlevel with rfl | rfl
    · exact absurd hsome (by simp)
    · rw [hkeyT] at hsome
      exact absurd hsome (by simp)
  have hplaceU :
      u.place.IsAt ⟨'\n' :: (List.replicate margin ' ' ++ tail), i + 2, l, col + 2⟩ :=
    hm₂
  have hfirst : s.Follows [start] (t.within start m) :=
    .step h.calm hcalm htoken (by simp [within, kinds, hqueue]) (by simp)
  have hsecond : (t.within start m).Follows [stop] u :=
    .step hcalm (hu.calm_of_none hkeyU) htokenU (by simp [u, within, kinds]) (by simp)
  exact ⟨u, _, hfirst.trans hsecond, hu.reaches_line hkeyU hplaceU htail⟩

/-- At the end of the text all blocks end. -/
theorem Reaches.exists_end {allowed : Bool} (h : s.Reaches ⟨[], i, l, 0⟩ allowed stack)
    (hclosed : (closed 0 (closed 1 stack).2).2 = [0]) :
    ∃ t, s.Follows (List.replicate ((closed 1 stack).1 + (closed 0 (closed 1 stack).2).1)
        .blockEnd ++ [.streamEnd]) t ∧
      t.Reaches ⟨[], i, l, 0⟩ false [0] := by
  obtain ⟨t, ends, htoken, hplace, hinside, hqueue, hends, -, hlevel, -⟩ :=
    h.inside.token? h.lands
  obtain ⟨u, ends', hclose, hu, hqueueU, hendsU, hplaceU, hlevelU, -, -⟩ := hinside.closeTo 0
  rw [hclosed] at hu
  obtain ⟨level, hnone, hdrop⟩ := exists_dropKey? (s := u) fun key hkey =>
    (h.stale key (by rw [← hlevel, ← hlevelU]; exact hkey)).1
  let v : Scan := { (u.push .streamEnd u.place.line) with level := level, keyAllowed := false }
  have hread : s.token? = some v := by
    have hrest : t.place.rest = [] := hplace.rest
    have hcolumn : t.place.column = 0 := hplace.column
    rw [htoken]
    simp only [atToken?, hrest, streamEnd?, hcolumn, if_true]
    have : t.moveTo t.place = t := rfl
    rw [this, hclose, hdrop]
    rfl
  have hv : v.Inside [0] := hu.frame
  have hplaceV : v.place.IsAt ⟨[], i, l, 0⟩ := by
    have : v.place = t.place := hplaceU
    rw [this]
    exact hplace
  refine ⟨v, .step h.calm (hv.calm_of_none hnone) hread ?_ (by simp),
    ⟨hv, lands_sameLine (n := 0) hplaceV (by simp [StartsToken]), ?_, ?_⟩⟩
  · simp [v, kinds, push, hqueueU, hqueue, hends, hendsU, ← List.replicate_append_replicate]
  · intro key hkey
    exact absurd (hnone.symm.trans hkey) (by simp)
  · intro hsome
    have : v.level.key = none := hnone
    rw [this] at hsome
    exact absurd hsome (by simp)

end Lines

end Scan

end ArgTaint.Yaml
