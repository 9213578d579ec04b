/-
ArgTaint.Proofs.Yaml.Blocks — blocks made of blocks.

The ends of blocks come late: a line that is indented less ends them. So the
tokens of a block are those that its lines give and the ends of the blocks
that are open after them (`IsBody`). Bodies are put together line by line and
block by block, whatever stands around them.

  §1 Turns  — which blocks a line ends and starts.
  §2 Bodies — `IsBody`; lines, one body after another, one inside another.
  §3 Texts  — a text that is the body of one block.
-/
import ArgTaint.Proofs.Yaml.Lines

namespace ArgTaint.Yaml

open Scan

/-! ## §1 Turns -/

section Turns

variable {start : TokenKind} {column indent : Nat} {deep stack : List Nat}

theorem turn_open (h : indent ≤ column) :
    turn start column (indent :: stack) = ([start], (column + 1) :: indent :: stack) := by
  have hclosed : closed (column + 1) (indent :: stack) = (0, indent :: stack) :=
    closed_of_le (Nat.le_succ_of_le h)
  simp only [turn, hclosed, opened, Nat.not_lt.mpr h, if_false]
  rfl

/-- The blocks that are indented further than the limit end. -/
theorem closed_append {limit : Nat} (hdeep : ∀ d ∈ deep, limit < d) (hindent : indent ≤ limit) :
    closed limit (deep ++ indent :: stack) = (deep.length, indent :: stack) := by
  induction deep with
  | nil => exact closed_of_le hindent
  | cons d deep ih =>
    have hd : ¬ d ≤ limit := Nat.not_le.mpr (hdeep d List.mem_cons_self)
    have hrest := ih fun e he => hdeep e (List.mem_cons_of_mem _ he)
    obtain ⟨above, outer, hcons⟩ :=
      List.exists_cons_of_ne_nil (l := deep ++ indent :: stack) (by simp)
    rw [hcons] at hrest
    simp only [List.cons_append, hcons, closed, hd, if_false, hrest, List.length_cons]

/-- A line of a block that is under way ends the blocks inside it. -/
theorem turn_back (h : ∀ d ∈ deep, column + 1 < d) :
    turn start column (deep ++ (column + 1) :: stack) =
      (List.replicate deep.length .blockEnd, (column + 1) :: stack) := by
  simp [turn, closed_append h, opened]

end Turns

/-! ## §2 Bodies -/

/-- The text is the body of a block at a column, after the first indentation.
Whatever the blocks around it, it gives the tokens, but for the ends of the
blocks inside it that are open at its end; there are at most `room` of
these. -/
structure IsBody (room column : Nat) (start : TokenKind) (text : List Char)
    (kinds : List TokenKind) : Prop where
  startsToken : ∀ after, StartsToken (text ++ after)
  isWritable : text.all isWritable = true
  length_le : kinds.length ≤ 4 * text.length
  leads : ∀ {stack stack' : List Nat} {new : List TokenKind} {margin : Nat} {tail : List Char},
    turn start column stack = (new, (column + 1) :: stack') → stack.length ≤ maxDepth →
    stack'.length + 1 + room ≤ maxDepth → StartsToken tail → margin ≤ column →
    ∃ deep last,
      Leads ⟨text ++ (List.replicate margin ' ' ++ tail), column, stack⟩ (new ++ last)
        ⟨tail, margin, deep ++ (column + 1) :: stack'⟩ ∧
      last ++ List.replicate deep.length .blockEnd = kinds ∧ deep.length ≤ room ∧
      ∀ d ∈ deep, column + 1 < d

section Bodies

variable {room column : Nat} {start : TokenKind} {text text' : List Char}
  {kinds kinds' : List TokenKind} {k v : Inscription}

/-! ### Lines -/

theorem Inscription.all_isWritable (w : Inscription) : w.written.all isWritable = true :=
  List.all_eq_true.mpr fun _ hc => w.valid.isWritable hc

/-- An entry with a short key is the body of a mapping. -/
theorem isBody_pair (hk : IsShortKey column k) :
    IsBody room column .blockMappingStart (k.written ++ ':' :: ' ' :: (v.written ++ ['\n']))
      (pairKinds k v) where
  startsToken after := by
    rw [List.append_assoc]
    exact k.valid.startsToken _
  isWritable := by
    simp only [List.all_append, List.all_cons, k.all_isWritable, v.all_isWritable]
    rfl
  length_le := by
    simp only [pairKinds, List.length_append, List.length_cons]
    omega
  leads {stack stack' new margin tail} hturn hdepth _ htail hmargin := by
    refine ⟨[], pairKinds k v, ?_, List.append_nil _, Nat.zero_le _,
      fun _ h => absurd h List.not_mem_nil⟩
    have := leads_pair (v := v) hk hturn hdepth htail hmargin
    simpa only [List.append_assoc, List.cons_append, List.nil_append] using this

/-- An empty collection in a mapping. -/
theorem isBody_brackets {left right : Char} {start stop : TokenKind}
    (hbrackets : IsBrackets left right start stop) (hk : IsShortKey column k) :
    IsBody room column .blockMappingStart (k.written ++ [':', ' ', left, right, '\n'])
      [.key, k.kind, .value, start, stop] where
  startsToken after := by
    rw [List.append_assoc]
    exact k.valid.startsToken _
  isWritable := by
    rcases hbrackets with ⟨rfl, rfl, rfl, rfl⟩ | ⟨rfl, rfl, rfl, rfl⟩ <;>
      simp only [List.all_append, k.all_isWritable] <;> rfl
  length_le := by
    simp only [List.length_append, List.length_cons]
    omega
  leads {stack stack' new margin tail} hturn hdepth _ htail _ := by
    refine ⟨[], _, ?_, List.append_nil _, Nat.zero_le _,
      fun _ h => absurd h List.not_mem_nil⟩
    rw [List.append_assoc]
    exact leads_brackets hbrackets hk hturn hdepth htail

/-- An entry whose key has a mark. -/
theorem isBody_longPair :
    IsBody room column .blockMappingStart
      ('?' :: ' ' :: (k.written ++ '\n' :: (List.replicate column ' ' ++ ':' :: ' ' ::
        (v.written ++ ['\n'])))) (pairKinds k v) where
  startsToken after := fun c hc => by cases hc; decide
  isWritable := by
    simp only [List.all_append, List.all_cons, k.all_isWritable, v.all_isWritable,
      List.all_replicate]
    simp [Yaml.isWritable]
  length_le := by
    simp only [pairKinds, List.length_append, List.length_cons]
    omega
  leads hturn hdepth _ htail hmargin := by
    refine ⟨[], pairKinds k v, ?_, List.append_nil _, Nat.zero_le _,
      fun _ h => absurd h List.not_mem_nil⟩
    have := leads_longPair (k := k) (v := v) hturn hdepth htail hmargin
    simpa only [List.append_assoc, List.cons_append, List.nil_append] using this

/-! ### Bodies of bodies -/

/-- One body after another. -/
theorem IsBody.append (h : IsBody room column start text kinds)
    (h' : IsBody room column start text' kinds') :
    IsBody room column start (text ++ (List.replicate column ' ' ++ text'))
      (kinds ++ kinds') where
  startsToken after := by
    rw [List.append_assoc]
    exact h.startsToken _
  isWritable := by
    simp only [List.all_append, h.isWritable, h'.isWritable, List.all_replicate]
    simp [Yaml.isWritable]
  length_le := by
    have := h.length_le
    have := h'.length_le
    simp only [List.length_append]
    omega
  leads {stack stack' new margin tail} hturn hdepth hroom htail hmargin := by
    obtain ⟨deep, last, hleads, hkinds, hlength, hdeep⟩ :=
      h.leads hturn hdepth hroom (h'.startsToken (List.replicate margin ' ' ++ tail))
        (Nat.le_refl column)
    -- the blocks that are open after the first body end where the second one starts
    obtain ⟨deep', last', hleads', hkinds', hlength', hdeep'⟩ :=
      h'.leads (turn_back hdeep) (by simp only [List.length_append, List.length_cons]; omega)
        hroom htail hmargin
    refine ⟨deep', kinds ++ last', ?_, ?_, hlength', hdeep'⟩
    · have := hleads.trans hleads'
      simpa only [← hkinds, List.append_assoc] using this
    · rw [List.append_assoc, hkinds']

/-- A block inside another: what comes before its body leads into it. -/
theorem IsBody.leads_inner {column' : Nat} {stack stack' : List Nat} {new : List TokenKind}
    {margin : Nat} {tail : List Char} (h : IsBody room column' start text kinds)
    (before : List Char) (hcolumn : column < column')
    (hroom : stack'.length + 1 + (room + 1) ≤ maxDepth)
    (htail : StartsToken tail) (hmargin : margin ≤ column)
    (hbefore : Leads ⟨before ++ (text ++ (List.replicate margin ' ' ++ tail)), column, stack⟩
      new ⟨text ++ (List.replicate margin ' ' ++ tail), column', (column + 1) :: stack'⟩) :
    ∃ deep last,
      Leads ⟨before ++ (text ++ (List.replicate margin ' ' ++ tail)), column, stack⟩
        (new ++ start :: last) ⟨tail, margin, deep ++ (column + 1) :: stack'⟩ ∧
      last ++ List.replicate deep.length .blockEnd = kinds ++ [.blockEnd] ∧
      deep.length ≤ room + 1 ∧ ∀ d ∈ deep, column + 1 < d := by
  have hturn : turn start column' ((column + 1) :: stack') =
      ([start], (column' + 1) :: (column + 1) :: stack') :=
    turn_open (Nat.succ_le_of_lt hcolumn)
  obtain ⟨deep, last, hleads, hkinds, hlength, hdeep⟩ :=
    h.leads hturn (by simp only [List.length_cons]; omega)
      (by simp only [List.length_cons]; omega) htail
      (Nat.le_trans hmargin (Nat.le_of_lt hcolumn))
  refine ⟨deep ++ [column' + 1], last, ?_, ?_, ?_, ?_⟩
  · have := hbefore.trans hleads
    simpa only [List.append_assoc, List.cons_append, List.nil_append] using this
  · simp [← hkinds, List.replicate_succ']
  · simpa using hlength
  · intro d hd
    rcases List.mem_append.mp hd with hd | hd
    · exact Nat.lt_trans (by omega) (hdeep d hd)
    · rw [List.mem_singleton.mp hd]
      omega

/-- A key and a block on the lines after it. -/
theorem IsBody.nested {column' : Nat} (h : IsBody room column' start text kinds)
    (hk : IsShortKey column k) (hcolumn : column < column') :
    IsBody (room + 1) column .blockMappingStart
      (k.written ++ ':' :: '\n' :: (List.replicate column' ' ' ++ text))
      (.key :: k.kind :: .value :: start :: (kinds ++ [.blockEnd])) where
  startsToken after := by
    rw [List.append_assoc]
    exact k.valid.startsToken _
  isWritable := by
    simp only [List.all_append, List.all_cons, k.all_isWritable, h.isWritable,
      List.all_replicate]
    simp [Yaml.isWritable]
  length_le := by
    have := h.length_le
    simp only [List.length_append, List.length_cons, List.length_nil]
    omega
  leads {stack stack' new margin tail} hturn hdepth hroom htail hmargin := by
    have hheader := leads_header column' hk hturn hdepth
      (h.startsToken (List.replicate margin ' ' ++ tail))
    obtain ⟨deep, last, hleads, hkinds, hlength, hdeep⟩ :=
      h.leads_inner (k.written ++ ':' :: '\n' :: List.replicate column' ' ') hcolumn hroom htail
        hmargin (by simpa using hheader)
    refine ⟨deep, .key :: k.kind :: .value :: start :: last, ?_, ?_, hlength, hdeep⟩
    · simpa using hleads
    · simpa using hkinds

/-- An item that is a mapping. -/
theorem IsBody.item (h : IsBody room (column + 2) .blockMappingStart text kinds)
    (hcolumn : 0 < column) :
    IsBody (room + 1) column .blockSequenceStart ('-' :: ' ' :: text)
      (.blockEntry :: .blockMappingStart :: (kinds ++ [.blockEnd])) where
  startsToken after := fun c hc => by cases hc; decide
  isWritable := by
    simp only [List.all_cons, h.isWritable]
    rfl
  length_le := by
    have := h.length_le
    simp only [List.length_append, List.length_cons, List.length_nil]
    omega
  leads {stack stack' new margin tail} hturn hdepth hroom htail hmargin := by
    have hentry := leads_entry hcolumn (h.startsToken (List.replicate margin ' ' ++ tail)) hturn
      hdepth
    obtain ⟨deep, last, hleads, hkinds, hlength, hdeep⟩ :=
      h.leads_inner ['-', ' '] (by omega) hroom htail hmargin hentry
    refine ⟨deep, .blockEntry :: .blockMappingStart :: last, ?_, ?_, hlength, hdeep⟩
    · simpa using hleads
    · simpa using hkinds

end Bodies

/-! ## §3 Texts -/

/-- The tokens of a text that is the body of one mapping. -/
theorem IsBody.yields {room : Nat} {text : String} {kinds : List TokenKind}
    (h : IsBody room 0 .blockMappingStart text.toList kinds) (hroom : room + 2 ≤ maxDepth)
    (hne : text.toList ≠ []) :
    (Scan.ofText text).Yields
      (.streamStart :: .blockMappingStart :: (kinds ++ [.blockEnd, .streamEnd])) := by
  have hturn : turn .blockMappingStart 0 [0] = ([.blockMappingStart], [1, 0]) := rfl
  have hend : StartsToken [] := nofun
  obtain ⟨deep, last, hleads, hkinds, -, hdeep⟩ :=
    h.leads hturn (by decide) (by simp only [List.length_singleton]; omega) hend (Nat.le_refl 0)
  have hclosed : closed 1 (deep ++ [1, 0]) = (deep.length, [1, 0]) :=
    closed_append hdeep (Nat.le_refl 1)
  have hlines :
      Leads ⟨text.toList, 0, [0]⟩ (.blockMappingStart :: last) ⟨[], 0, deep ++ [1, 0]⟩ := by
    simpa using hleads
  have hyields := yields_of_leads
    (fun c hc => isAllowed_of_isWritable (List.all_eq_true.mp h.isWritable c hc))
    (by simpa using h.startsToken []) hne hlines (by rw [hclosed]; rfl)
  have hends : (closed 1 (deep ++ [1, 0])).1 + (closed 0 (closed 1 (deep ++ [1, 0])).2).1 =
      deep.length + 1 := by
    rw [hclosed]
    rfl
  rw [hends, List.replicate_succ'] at hyields
  simpa [← hkinds] using hyields

end ArgTaint.Yaml
