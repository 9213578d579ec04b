/-
ArgTaint.Proofs.Yaml.Queue — taking tokens early or late makes no difference.

Tokens are read as they are asked for: the first token of the queue is taken
away before the tokens after the next two are read. Reading goes on as if it
still stood there, as long as no possible key stands in front of the next
token: a key is put in front of a token that is still in the queue. So the
tokens that are taken one by one are those that reading ahead to the end puts
into the queue.

  §1 Shedding — `shed`; each way to go on commutes with it.
  §2 Tokens   — so does reading a token.
  §3 Ahead    — reading ahead, and taking the first token on the way.
  §4 Tokens taken one by one — `Yields`.
-/
import ArgTaint.Yaml.Token.Scan
import Mathlib

namespace ArgTaint.Yaml

namespace Scan

/-! ## §1 Shedding -/

/-- The scan without the first token of its queue. -/
def shed (s : Scan) : Scan := { s with queue := s.queue.drop 1, taken := s.taken + 1 }

/-- A way to go on, `x` with the token `a` in front and `y` without it. -/
structure Sheds (a : Token) (x y : Option Scan) : Prop where
  eq : y = x.map shed
  head : ∀ t ∈ x, t.queue.head? = some a

section Shedding

variable {a : Token} {s t : Scan} {x y : Option Scan}

theorem Sheds.failed : Sheds a none none := ⟨rfl, nofun⟩

theorem Sheds.done (h : shed s = t) (hhead : s.queue.head? = some a) :
    Sheds a (some s) (some t) :=
  ⟨by rw [← h]; rfl, fun _ ht => Option.some.inj ht ▸ hhead⟩

/-- A way on can be followed by another one. -/
theorem Sheds.bind {f : Scan → Option Scan} (h : Sheds a x y)
    (hf : ∀ t ∈ x, t.queue.head? = some a → Sheds a (f t) (f t.shed)) :
    Sheds a (x.bind f) (y.bind f) := by
  obtain ⟨rfl, hhead⟩ := h
  cases x with
  | none => exact .failed
  | some t => exact hf t rfl (hhead t rfl)

theorem Sheds.map {f : Scan → Scan} (h : Sheds a x y)
    (hf : ∀ t ∈ x, t.queue.head? = some a → shed (f t) = f t.shed ∧
      (f t).queue.head? = some a) :
    Sheds a (x.map f) (y.map f) := by
  obtain ⟨rfl, hhead⟩ := h
  cases x with
  | none => exact .failed
  | some t => exact .done (hf t rfl (hhead t rfl)).1 (hf t rfl (hhead t rfl)).2

theorem Sheds.ite {p : Prop} [Decidable p] {x' y' : Option Scan} (h : Sheds a x y)
    (h' : Sheds a x' y') : Sheds a (if p then x else x') (if p then y else y') := by
  split
  · exact h
  · exact h'

/-- What is read at the place is the same with and without the token. -/
theorem Sheds.read {β : Type} {f g : β → Option Scan} (o : Option β)
    (h : ∀ b ∈ o, Sheds a (f b) (g b)) : Sheds a (o.bind f) (o.bind g) := by
  cases o with
  | none => exact .failed
  | some b => exact h b rfl

theorem queue_eq (hs : s.queue.head? = some a) : s.queue = a :: s.queue.drop 1 := by
  cases hq : s.queue with
  | nil => rw [hq] at hs; exact nomatch hs
  | cons b q => rw [hq] at hs; rw [Option.some.inj hs]; rfl

theorem number_shed (hs : s.queue.head? = some a) : s.shed.number = s.number := by
  have := congrArg List.length (queue_eq hs)
  simp only [List.length_cons] at this
  simp only [number, shed]
  omega

theorem head?_push (hs : s.queue.head? = some a) (kind : TokenKind) (line : Nat) :
    (s.push kind line).queue.head? = some a := by
  rw [push, queue_eq hs]
  rfl

theorem shed_push (hs : s.queue.head? = some a) (kind : TokenKind) (line : Nat) :
    shed (s.push kind line) = s.shed.push kind line := by
  simp only [shed, push]
  rw [queue_eq hs]
  rfl

/-- A token that is put in front of a later one is not the first. -/
theorem insert_later (hs : s.queue.head? = some a) {number : Nat} (hnumber : s.taken < number)
    (kind : TokenKind) (line : Nat) :
    shed (s.insert number kind line) = s.shed.insert number kind line ∧
      (s.insert number kind line).queue.head? = some a := by
  obtain ⟨i, rfl⟩ := Nat.exists_eq_add_of_lt hnumber
  have hnot : ¬ s.taken + i + 1 < s.taken := by omega
  have hnot' : ¬ s.taken + i + 1 < s.taken + 1 := by omega
  have hsub : s.taken + i + 1 - s.taken = i + 1 := by omega
  have hsub' : s.taken + i + 1 - (s.taken + 1) = i := by omega
  simp only [insert, shed, hnot, hnot', hsub, hsub', if_false]
  rw [queue_eq hs]
  exact ⟨rfl, rfl⟩

theorem sheds_dropKey? (hs : s.queue.head? = some a) : Sheds a s.dropKey? s.shed.dropKey? := by
  have hlevel : s.shed.level = s.level := rfl
  simp only [dropKey?, hlevel]
  split
  · split
    · exact .failed
    · exact .done rfl hs
  · exact .done rfl hs

/-- Saving a possible key does not depend on the first token of the queue. -/
theorem sheds_saveKey? (hs : s.queue.head? = some a) : Sheds a s.saveKey? s.shed.saveKey? := by
  have hallowed : s.shed.keyAllowed = s.keyAllowed := rfl
  simp only [saveKey?, hallowed]
  cases s.keyAllowed with
  | false => exact .done rfl hs
  | true =>
    rw [number_shed hs]
    exact (sheds_dropKey? hs).map fun t _ ht => ⟨rfl, ht⟩

/-- Opening a block does not depend on the first token of the queue. -/
theorem sheds_openBlock? (hs : s.queue.head? = some a) {number : Nat}
    (hnumber : s.taken < number) (column : Nat) (kind : TokenKind) (line : Nat) :
    Sheds a (s.openBlock? column number kind line)
      (s.shed.openBlock? column number kind line) := by
  have hflow : s.shed.inFlow = s.inFlow := rfl
  have hindent : s.shed.indent = s.indent := rfl
  have hblocks : s.shed.blocks = s.blocks := rfl
  obtain ⟨hinsert, hhead⟩ := insert_later hs hnumber kind line
  simp only [openBlock?, hflow, hindent, hblocks, ← hinsert]
  split
  · exact .done rfl hs
  · split
    · exact .failed
    · exact .done rfl hhead

/-- Closing blocks does not depend on the first token of the queue. -/
theorem closeBlocks_shed (indent : Nat) (outer : List Nat) :
    ∀ {s : Scan}, s.queue.head? = some a →
      shed (s.closeBlocks indent outer) = s.shed.closeBlocks indent outer ∧
        (s.closeBlocks indent outer).queue.head? = some a := by
  induction outer with
  | nil => exact fun hs => ⟨rfl, hs⟩
  | cons above outer ih =>
    intro s hs
    have hflow : s.shed.inFlow = s.inFlow := rfl
    have hindent : s.shed.indent = s.indent := rfl
    have hplace : s.shed.place = s.place := rfl
    have hblocks : s.shed.blocks = s.blocks := rfl
    simp only [closeBlocks, hflow, hindent, hplace, hblocks, ← shed_push hs]
    split
    · exact ⟨rfl, hs⟩
    · exact ih (head?_push hs _ _)

theorem level_closeBlocks (indent : Nat) (outer : List Nat) :
    ∀ s : Scan, (s.closeBlocks indent outer).level = s.level ∧
      (s.closeBlocks indent outer).taken = s.taken := by
  induction outer with
  | nil => exact fun s => ⟨rfl, rfl⟩
  | cons above outer ih =>
    intro s
    simp only [closeBlocks]
    split
    · exact ⟨rfl, rfl⟩
    · exact ih _

/-- The place after the blanks of a line and the comments after them. -/
def pastBlanks? (tabs : Bool) (k : Cursor) : Option Cursor :=
  (k.need? 1).bind fun k =>
    ((if k.column == 0 && k.window.marked then k.advance else k).need? 1).bind fun k =>
      (k.skipWhile? fun c => c == ' ' || (tabs && c == '\t')).bind fun k =>
        if k.rest.head? == some '#' then skipComments? k.rest.length k else some k

/-- Blanks are passed over line by line. -/
theorem toToken?_succ (bound : Nat) (s : Scan) :
    toToken? (bound + 1) s =
      (pastBlanks? (s.inFlow || !s.keyAllowed) s.place).bind fun k =>
        match k.rest with
        | c :: _ =>
          if isBreak c then
            k.nextLine?.bind fun k =>
              toToken? bound { s with place := k, keyAllowed := s.keyAllowed || !s.inFlow }
          else some (s.moveTo k)
        | [] => some (s.moveTo k) := by
  simp only [toToken?, pastBlanks?, Option.bind_eq_bind, Option.bind_assoc, Option.pure_def]
  refine Option.bind_congr fun k₁ _ => Option.bind_congr fun k₂ _ =>
    Option.bind_congr fun k₃ _ => ?_
  split <;> rfl

/-- What passing over blanks and comments depends on. -/
def bare (s : Scan) : Scan :=
  { place := s.place, keyAllowed := s.keyAllowed, levels := s.levels }

/-- Passing over blanks and comments moves the place, and may allow a key. -/
theorem toToken?_eq (bound : Nat) :
    ∀ s : Scan, toToken? bound s =
      (toToken? bound s.bare).map fun t =>
        { s with place := t.place, keyAllowed := t.keyAllowed } := by
  induction bound with
  | zero => exact fun s => rfl
  | succ bound ih =>
    intro s
    rw [toToken?_succ, toToken?_succ]
    have hplace : pastBlanks? (s.bare.inFlow || !s.bare.keyAllowed) s.bare.place =
        pastBlanks? (s.inFlow || !s.keyAllowed) s.place := rfl
    rw [hplace]
    cases pastBlanks? (s.inFlow || !s.keyAllowed) s.place with
    | none => rfl
    | some k =>
      cases hrest : k.rest with
      | nil => simp only [Option.bind_some, hrest]; rfl
      | cons c rest =>
        simp only [Option.bind_some, hrest]
        split
        · cases k.nextLine? with
          | none => rfl
          | some k =>
            simp only [Option.bind_some]
            rw [ih]
            rfl
        · rfl

/-- Moving on to a token does not depend on the first token of the queue. -/
theorem sheds_toToken? (hs : s.queue.head? = some a) (bound : Nat) :
    Sheds a (toToken? bound s) (toToken? bound s.shed) := by
  rw [toToken?_eq bound s, toToken?_eq bound s.shed]
  refine ⟨by rw [Option.map_map]; rfl, fun t ht => ?_⟩
  obtain ⟨u, -, rfl⟩ := Option.map_eq_some_iff.mp ht
  exact hs

theorem level_toToken? {bound : Nat} (ht : toToken? bound s = some t) :
    t.level = s.level ∧ t.taken = s.taken := by
  rw [toToken?_eq] at ht
  obtain ⟨u, -, rfl⟩ := Option.map_eq_some_iff.mp ht
  exact ⟨rfl, rfl⟩

/-! ## §2 Tokens -/

/-- The possible key of the level, if there is one, is not the first token. -/
def KeyLater (s : Scan) : Prop := s.level.key.isSome = true → s.taken < s.level.number

theorem taken_lt_number (hs : s.queue.head? = some a) : s.taken < s.number := by
  have := congrArg List.length (queue_eq hs)
  simp only [List.length_cons] at this
  simp only [number]
  omega

theorem sheds_indicator (hs : s.queue.head? = some a) (kind : TokenKind) (keyAllowed : Bool) :
    shed (s.indicator kind keyAllowed) = s.shed.indicator kind keyAllowed ∧
      (s.indicator kind keyAllowed).queue.head? = some a := by
  have hpush := shed_push hs kind s.place.line
  refine ⟨?_, head?_push hs kind s.place.line⟩
  have hplace : s.shed.place = s.place := rfl
  simp only [indicator, hplace, ← hpush]
  rfl

theorem sheds_streamEnd? (hs : s.queue.head? = some a) :
    Sheds a s.streamEnd? s.shed.streamEnd? := by
  let k := if s.place.column = 0 then s.place
    else { s.place with column := 0, line := s.place.line + 1 }
  have hmoved : (s.moveTo k).queue.head? = some a := hs
  obtain ⟨hclose, hhead⟩ := closeBlocks_shed 0 s.outer hmoved
  have hdrop := sheds_dropKey? hhead
  rw [hclose] at hdrop
  exact hdrop.map fun t _ ht => ⟨by simp only [← shed_push ht]; rfl, head?_push ht _ _⟩

theorem sheds_closeTo (hs : s.queue.head? = some a) (indent : Nat) :
    shed (s.closeTo indent) = s.shed.closeTo indent ∧ (s.closeTo indent).queue.head? = some a :=
  closeBlocks_shed indent s.outer hs

theorem sheds_directive? (hs : s.queue.head? = some a) :
    Sheds a s.directive? s.shed.directive? := by
  obtain ⟨hclose, hhead⟩ := sheds_closeTo hs 0
  have hdrop := sheds_dropKey? hhead
  rw [hclose] at hdrop
  refine hdrop.bind fun t _ ht => .read _ fun r _ => ?_
  refine .done ?_ (head?_push ht _ _)
  simp only [← shed_push ht]
  rfl

theorem sheds_documentMark? (hs : s.queue.head? = some a) (kind : TokenKind) :
    Sheds a (s.documentMark? kind) (s.shed.documentMark? kind) := by
  obtain ⟨hclose, hhead⟩ := sheds_closeTo hs 0
  have hdrop := sheds_dropKey? hhead
  rw [hclose] at hdrop
  exact hdrop.map fun t _ ht => ⟨by simp only [← shed_push ht]; rfl, head?_push ht _ _⟩

theorem sheds_openFlow? (hs : s.queue.head? = some a) (kind : TokenKind) :
    Sheds a (s.openFlow? kind) (s.shed.openFlow? kind) := by
  refine (sheds_saveKey? hs).bind fun t _ ht => ?_
  have hdepth : t.shed.depth = t.depth := rfl
  obtain ⟨hindicator, hhead⟩ := sheds_indicator ht kind true
  simp only [hdepth, ← hindicator, number_shed ht]
  split
  · exact .failed
  · exact .done rfl hhead

theorem sheds_closeFlow? (hs : s.queue.head? = some a) (kind : TokenKind) :
    Sheds a (s.closeFlow? kind) (s.shed.closeFlow? kind) := by
  refine (sheds_dropKey? hs).map fun t _ ht => ?_
  obtain ⟨hindicator, hhead⟩ := sheds_indicator ht kind false
  simp only [← hindicator]
  have hlevels : (shed (t.indicator kind false)).levels = (t.indicator kind false).levels := rfl
  rw [hlevels]
  cases (t.indicator kind false).levels with
  | nil => exact ⟨rfl, hhead⟩
  | cons level levels => exact ⟨rfl, hhead⟩

theorem sheds_entryMark (hs : s.queue.head? = some a) :
    Sheds a s.blockEntry? s.shed.blockEntry? := by
  have hguard : (!s.shed.inFlow && !s.shed.keyAllowed) = (!s.inFlow && !s.keyAllowed) := rfl
  simp only [ blockEntry?, hguard, number_shed hs]
  split
  · exact .failed
  · refine (sheds_openBlock? hs (taken_lt_number hs) _ _ _).bind fun t _ ht => ?_
    refine (sheds_dropKey? ht).bind fun u _ hu => ?_
    exact .done (sheds_indicator hu _ _).1 (sheds_indicator hu _ _).2

theorem sheds_explicitKey? (hs : s.queue.head? = some a) :
    Sheds a s.explicitKey? s.shed.explicitKey? := by
  have hguard : (!s.shed.inFlow && !s.shed.keyAllowed) = (!s.inFlow && !s.keyAllowed) := rfl
  simp only [explicitKey?, hguard, number_shed hs]
  split
  · exact .failed
  · refine (sheds_openBlock? hs (taken_lt_number hs) _ _ _).bind fun t _ ht => ?_
    refine (sheds_dropKey? ht).bind fun u _ hu => ?_
    exact .done (sheds_indicator hu _ _).1 (sheds_indicator hu _ _).2

theorem sheds_bareValue? (hs : s.queue.head? = some a) :
    Sheds a s.bareValue? s.shed.bareValue? := by
  have hguard : (!s.shed.inFlow && !s.shed.keyAllowed) = (!s.inFlow && !s.keyAllowed) := rfl
  simp only [bareValue?, hguard, number_shed hs]
  split
  · exact .failed
  · refine (sheds_openBlock? hs (taken_lt_number hs) _ _ _).bind fun t _ ht => ?_
    exact .done (sheds_indicator ht _ _).1 (sheds_indicator ht _ _).2

/-- The key of a value is put in front of a token that is not the first. -/
theorem sheds_value? (hs : s.queue.head? = some a) (hkey : s.KeyLater) :
    Sheds a s.value? s.shed.value? := by
  have hlevel : s.shed.level = s.level := rfl
  simp only [value?, hlevel]
  cases hlevelKey : s.level.key with
  | none => exact sheds_bareValue? hs
  | some key =>
    have hnumber : s.taken < s.level.number := hkey (by rw [hlevelKey]; rfl)
    have hfresh : s.shed.isFresh key = s.isFresh key := rfl
    simp only [hfresh]
    split
    · obtain ⟨hinsert, hhead⟩ := insert_later hs hnumber .key key.line
      let t := (s.insert s.level.number .key key.line).forgetKey
      have ht : t.queue.head? = some a := hhead
      have hshed : (s.shed.insert s.level.number .key key.line).forgetKey = t.shed := by
        rw [← hinsert]
        rfl
      have htaken : t.taken < s.level.number := by
        have : t.taken = s.taken := by
          simp only [t, insert, forgetKey]
          split <;> rfl
        omega
      rw [hshed]
      refine (sheds_openBlock? ht htaken _ _ _).bind fun u _ hu => ?_
      exact .done (sheds_indicator hu _ _).1 (sheds_indicator hu _ _).2
    · split
      · exact .failed
      · have ht : s.forgetKey.queue.head? = some a := hs
        exact sheds_bareValue? ht

theorem sheds_node? (hs : s.queue.head? = some a)
    (read? : Cursor → Option (TokenKind × Cursor)) :
    Sheds a (s.node? read?) (s.shed.node? read?) := by
  refine (sheds_saveKey? hs).bind fun t _ ht => .read _ fun r _ => ?_
  refine .done ?_ (head?_push ht _ _)
  simp only [← shed_push ht]
  rfl

theorem sheds_block? (hs : s.queue.head? = some a) (literal : Bool) :
    Sheds a (s.block? literal) (s.shed.block? literal) := by
  refine (sheds_dropKey? hs).bind fun t _ ht => .read _ fun r _ => ?_
  refine .done ?_ (head?_push ht _ _)
  simp only [← shed_push ht]
  rfl

theorem sheds_plain? (hs : s.queue.head? = some a) : Sheds a s.plain? s.shed.plain? := by
  refine (sheds_saveKey? hs).bind fun t _ ht => .read _ fun r _ => ?_
  refine .done ?_ (head?_push ht _ _)
  simp only [← shed_push ht]
  rfl

/-- Reading a token does not depend on the first token of the queue. -/
theorem sheds_content? (hs : s.queue.head? = some a) (hkey : s.KeyLater) (c : Char)
    (rest : List Char) : Sheds a (s.content? c rest) (s.shed.content? c rest) := by
  have hflow : s.shed.inFlow = s.inFlow := rfl
  have hstarts : s.shed.startsPlain c rest = s.startsPlain c rest := rfl
  simp only [content?, hflow, hstarts]
  exact .ite (sheds_openFlow? hs _) <| .ite (sheds_openFlow? hs _) <|
    .ite (sheds_closeFlow? hs _) <| .ite (sheds_closeFlow? hs _) <|
    .ite ((sheds_dropKey? hs).map fun t _ ht => sheds_indicator ht _ _) <|
    .ite (sheds_explicitKey? hs) <| .ite (sheds_value? hs hkey) <|
    .ite (sheds_node? hs _) <| .ite (sheds_node? hs _) <| .ite (sheds_node? hs _) <|
    .ite (sheds_block? hs _) <| .ite (sheds_block? hs _) <|
    .ite (sheds_node? hs _) <| .ite (sheds_node? hs _) <| .ite (sheds_plain? hs) .failed

/-- Reading a token commutes with taking the first one away. -/
theorem sheds_token? (hs : s.queue.head? = some a) (hkey : s.KeyLater) :
    Sheds a s.token? s.shed.token? := by
  refine .read _ fun k _ => ?_
  have hstarted : s.shed.started = s.started := rfl
  simp only [hstarted]
  split
  · have hmoved : (s.moveTo k).queue.head? = some a := hs
    refine .done ?_ (head?_push hmoved _ _)
    have hpush := shed_push hmoved .streamStart k.line
    have hcomm : s.shed.moveTo k = (s.moveTo k).shed := rfl
    simp only [hcomm, ← hpush]
    rfl
  · have hmoved : (s.moveTo k).queue.head? = some a := hs
    refine (sheds_toToken? hmoved _).bind fun t htoken ht => ?_
    obtain ⟨hlevel, htaken⟩ := level_toToken? htoken
    obtain ⟨hclose, hhead⟩ := sheds_closeTo ht (t.place.column + 1)
    obtain ⟨hlevel', htaken'⟩ := level_closeBlocks (t.place.column + 1) t.outer t
    have hplace : t.shed.place = t.place := rfl
    simp only [hplace, ← hclose]
    refine .read _ fun m _ => ?_
    let u := (t.closeTo (t.place.column + 1)).moveTo m
    have hu : u.queue.head? = some a := hhead
    have hkey' : u.KeyLater := by
      intro hsome
      have huLevel : u.level = s.level := hlevel'.trans hlevel
      have huTaken : u.taken = s.taken := htaken'.trans htaken
      rw [huLevel] at hsome ⊢
      rw [huTaken]
      exact hkey hsome
    have hcomm : (shed (t.closeTo (t.place.column + 1))).moveTo m = u.shed := rfl
    simp only [hcomm]
    split
    · exact sheds_streamEnd? hu
    · refine .ite (sheds_directive? hu) <| .ite (sheds_documentMark? hu _) <|
        .ite (sheds_documentMark? hu _) <| .ite (sheds_entryMark hu) ?_
      refine (sheds_content? hu hkey' _ _).bind fun v _ hv => ?_
      have hplace' : v.shed.place = v.place := rfl
      simp only [pastComment?, hplace']
      cases skipLineComment? v.place with
      | none => exact .failed
      | some m => exact .done rfl hv

end Shedding

/-! ## §3 Ahead -/

/-- No token has been settled, and a possible key is the last token that has
been read. -/
structure Calm (s : Scan) : Prop where
  settled : s.settled = false
  keys : ∀ l ∈ s.level :: s.levels, l.key.isSome = true → l.number + 1 = s.number

/-- Reading goes on from one scan to the other, without taking a token. -/
inductive Ahead : Scan → Scan → Prop
  | here {s : Scan} (calm : s.Calm) : Ahead s s
  | step {s t u : Scan} (calm : s.Calm) (token : s.token? = some t)
      (grows : s.queue.length < t.queue.length) (rest : Ahead t u) : Ahead s u

section Reading

variable {a : Token} {s t e : Scan}

theorem Ahead.trans {u : Scan} (h : Ahead s t) (h' : Ahead t u) : Ahead s u := by
  induction h with
  | here _ => exact h'
  | step calm token grows _ ih => exact .step calm token grows (ih h')

/-- Reading goes on from a calm scan. -/
theorem Ahead.calm (h : Ahead s e) : s.Calm := by
  cases h with
  | here calm => exact calm
  | step calm _ _ _ => exact calm

/-- With two more tokens after it, no possible key holds the first one back. -/
theorem Calm.find?_holds (h : s.Calm) (hlong : 1 < s.queue.length) :
    ((s.level :: s.levels).find? fun l => l.holds s.taken) = none := by
  rw [List.find?_eq_none]
  intro l hl hholds
  simp only [Level.holds, Bool.and_eq_true, beq_iff_eq] at hholds
  obtain ⟨hnumber, hkey⟩ := hholds
  have hsome : l.key.isSome = true := by
    cases hk : l.key with
    | none => rw [hk] at hkey; exact hkey
    | some key => rfl
  have := h.keys l hl hsome
  simp only [number] at this
  omega

theorem Calm.keyLater (h : s.Calm) (hlong : 1 < s.queue.length) : s.KeyLater := by
  intro hsome
  have := h.keys s.level List.mem_cons_self hsome
  simp only [number] at this
  omega

/-- Without its first token a calm scan is calm. -/
theorem Calm.shed (h : s.Calm) (hs : s.queue.head? = some a) : s.shed.Calm :=
  ⟨h.settled, fun l hl hsome => (h.keys l hl hsome).trans (number_shed hs).symm⟩

/-- Reading goes on until the first token is settled. -/
theorem Ahead.settle? (h : Ahead s e) (he : 2 < e.queue.length) :
    ∀ bound : Nat, 0 < bound → 3 < s.queue.length + bound →
      ∃ t, Scan.settle? bound s = some { t with settled := true } ∧ Ahead t e ∧
        2 < t.queue.length := by
  induction h with
  | @here s calm =>
    intro bound hpos _
    obtain ⟨bound, rfl⟩ := Nat.exists_eq_succ_of_ne_zero (Nat.ne_of_gt hpos)
    refine ⟨s, ?_, .here calm, he⟩
    simp only [Scan.settle?, he, if_true, calm.find?_holds (by omega)]
  | @step s t u calm token grows rest ih =>
    intro bound hpos hbound
    obtain ⟨bound, rfl⟩ := Nat.exists_eq_succ_of_ne_zero (Nat.ne_of_gt hpos)
    by_cases hlong : 2 < s.queue.length
    · refine ⟨s, ?_, .step calm token grows rest, hlong⟩
      simp only [Scan.settle?, hlong, if_true, calm.find?_holds (by omega)]
    · obtain ⟨v, hsettle, hv, hvlong⟩ := ih he bound (by omega) (by omega)
      refine ⟨v, ?_, hv, hvlong⟩
      simp only [Scan.settle?, hlong, if_false, token, Option.bind_some, hsettle]

/-- What is read later is the same after the first token has been taken. -/
theorem Ahead.shed (h : Ahead s e) :
    2 < s.queue.length → s.queue.head? = some a →
      Ahead s.shed e.shed ∧ e.queue.head? = some a := by
  induction h with
  | here calm => exact fun _ hs => ⟨.here (calm.shed hs), hs⟩
  | @step s t u calm token grows rest ih =>
    intro hlong hs
    obtain ⟨heq, hhead⟩ := sheds_token? hs (calm.keyLater (by omega))
    rw [token] at heq hhead
    obtain ⟨hrest, hlast⟩ := ih (by omega) (hhead t rfl)
    refine ⟨.step (calm.shed hs) heq ?_ hrest, hlast⟩
    simp only [Scan.shed, List.length_drop]
    omega

/-! ## §4 Tokens taken one by one -/

/-- The tokens that are taken one after the other have the given kinds. -/
def Yields : Scan → List TokenKind → Prop
  | _, [] => True
  | s, kind :: kinds =>
    ∃ a t, s.next? = some (a, t) ∧ t.next? = some (a, t) ∧ a.kind = kind ∧ Yields t.drop kinds

/-- The tokens that are taken one by one are those that reading ahead puts
into the queue, up to the last two. -/
theorem Ahead.yields {kinds more : List TokenKind} :
    ∀ {s e : Scan}, Ahead s e → e.queue.map Token.kind = kinds ++ more → 2 ≤ more.length →
      s.Yields kinds := by
  induction kinds with
  | nil => exact fun _ _ _ => trivial
  | cons kind kinds ih =>
    intro s e h hkinds hmore
    have hlength := congrArg List.length hkinds
    simp only [List.length_map, List.cons_append, List.length_cons,
      List.length_append] at hlength
    obtain ⟨t, hsettle, ht, hlong⟩ :=
      h.settle? (by omega) (s.place.rest.length + 8) (by omega) (by omega)
    obtain ⟨a, q, hq⟩ : ∃ a q, t.queue = a :: q := List.exists_cons_of_ne_nil fun hnil => by
      rw [hnil] at hlong
      exact absurd hlong (by decide)
    have hhead : t.queue.head? = some a := by rw [hq]; rfl
    obtain ⟨hshed, hlast⟩ := ht.shed hlong hhead
    refine ⟨a, { t with settled := true }, ?_, ?_, ?_, ?_⟩
    · simp only [next?, h.calm.settled, Bool.false_eq_true, if_false, hsettle,
        Option.bind_eq_bind, Option.bind_some, hq, Option.pure_def]
    · simp only [next?, if_true, Option.bind_eq_bind, Option.bind_some, hq, Option.pure_def]
    · have := congrArg List.head? hkinds
      rw [List.head?_map, hlast] at this
      exact Option.some.inj this
    · have hdrop : ({ t with settled := true } : Scan).drop = t.shed := by
        simp only [drop, Scan.shed, ht.calm.settled]
      rw [hdrop]
      refine ih hshed ?_ hmore
      simp only [Scan.shed, List.map_drop, hkinds, List.cons_append, List.drop_succ_cons,
        List.drop_zero]

end Reading

end Scan

end ArgTaint.Yaml
