/-
ArgTaint.Proofs.Yaml.Lines — from line to line of a block.

A spot is a column where a token starts, the text from there on and the blocks
around it. A line leads from spot to spot, with its tokens (`Leads`); what it
starts and ends is computed from the blocks alone (`turn`). The lines of a
whole text lead to the tokens that are taken from it one by one.

  §1 Spots — `Leads`, and texts with their written forms.
  §2 Lines — the lines of mappings and sequences.
  §3 Texts — from the start of a text to its end.
-/
import ArgTaint.Proofs.Yaml.Scan

namespace ArgTaint.Yaml

open Scan

/-! ## §1 Spots -/

/-- A text of one line as it is written. -/
structure Inscription extends Word where
  written : List Char
  valid : Written written text style

/-- Where a token starts, and a key may. -/
structure Spot where
  text : List Char
  column : Nat
  stack : List Nat

/-- Reading from one spot leads to another, with the given tokens. -/
def Leads (a : Spot) (new : List TokenKind) (b : Spot) : Prop :=
  ∀ (s : Scan) (i l : Nat), s.Reaches ⟨a.text, i, l, a.column⟩ true a.stack →
    ∃ t i' l', s.Follows new t ∧ t.Reaches ⟨b.text, i', l', b.column⟩ true b.stack

theorem Leads.trans {a b c : Spot} {new new' : List TokenKind} (h : Leads a new b)
    (h' : Leads b new' c) : Leads a (new ++ new') c := by
  intro s i l hs
  obtain ⟨t, i', l', hfirst, ht⟩ := h s i l hs
  obtain ⟨u, i'', l'', hsecond, hu⟩ := h' t i' l' ht
  exact ⟨u, i'', l'', hfirst.trans hsecond, hu⟩

/-! ## §2 Lines -/

section Lines

variable {tail : List Char} {column margin : Nat} {stack stack' : List Nat}
  {new : List TokenKind}

/-- The tokens of an entry of a mapping whose value is a text. -/
def pairKinds (k v : Inscription) : List TokenKind := [.key, k.kind, .value, v.kind]

/-- A key that can be told from what else may start a line. -/
def IsShortKey (column : Nat) (k : Inscription) : Prop :=
  k.written.length ≤ keyReach ∧
    (column = 0 → ∀ c ∈ k.written.head?, c ≠ '%' ∧ c ≠ '-' ∧ c ≠ '.')

/-- A key and a text on one line. -/
theorem leads_pair {k v : Inscription} (hk : IsShortKey column k)
    (hturn : turn .blockMappingStart column stack = (new, (column + 1) :: stack'))
    (hdepth : stack.length ≤ maxDepth) (htail : StartsToken tail) (hmargin : margin ≤ column) :
    Leads ⟨k.written ++ ':' :: ' ' ::
        (v.written ++ '\n' :: (List.replicate margin ' ' ++ tail)), column, stack⟩
      (new ++ pairKinds k v) ⟨tail, margin, (column + 1) :: stack'⟩ := by
  intro s i l hs
  obtain ⟨t, hkey, ht, hplace, hallowed, hnone⟩ :=
    hs.exists_key [' '] k.valid hk.1 hk.2 hturn hdepth rfl (by simp [isBlank])
      fun c hc => ⟨(v.valid.startsToken _ c hc).1, (v.valid.startsToken _ c hc).2.2⟩
  have hreaches := ht.reaches_blank hnone hplace (v.valid.startsToken _)
  rw [hallowed] at hreaches
  obtain ⟨u, i', hvalue, hu⟩ :=
    hreaches.exists_text (fun _ => hnone) v.valid htail (by omega) (by omega)
      (Nat.lt_succ_of_le hmargin)
  refine ⟨u, i', l + 1, ?_, hu⟩
  have := hkey.trans hvalue
  rwa [List.append_assoc] at this

/-- A key whose value starts on the next line. -/
theorem leads_header {k : Inscription} (margin : Nat) (hk : IsShortKey column k)
    (hturn : turn .blockMappingStart column stack = (new, (column + 1) :: stack'))
    (hdepth : stack.length ≤ maxDepth) (htail : StartsToken tail) :
    Leads ⟨k.written ++ ':' :: '\n' :: (List.replicate margin ' ' ++ tail), column, stack⟩
      (new ++ [.key, k.kind, .value]) ⟨tail, margin, (column + 1) :: stack'⟩ := by
  intro s i l hs
  obtain ⟨t, hkey, ht, hplace, -, hnone⟩ :=
    hs.exists_key [] k.valid hk.1 hk.2 hturn hdepth rfl (by simp)
      fun c hc => by cases hc; decide
  exact ⟨t, _, _, hkey, ht.reaches_line hnone hplace htail⟩

/-- A key and an empty collection on one line. -/
theorem leads_brackets {k : Inscription} {left right : Char} {start stop : TokenKind}
    (hbrackets : IsBrackets left right start stop) (hk : IsShortKey column k)
    (hturn : turn .blockMappingStart column stack = (new, (column + 1) :: stack'))
    (hdepth : stack.length ≤ maxDepth) (htail : StartsToken tail) :
    Leads ⟨k.written ++ ':' :: ' ' :: left :: right :: '\n' ::
        (List.replicate margin ' ' ++ tail), column, stack⟩
      (new ++ [.key, k.kind, .value, start, stop]) ⟨tail, margin, (column + 1) :: stack'⟩ := by
  intro s i l hs
  have hleft : StartsToken (left :: right :: '\n' :: (List.replicate margin ' ' ++ tail)) := by
    intro c hc
    cases hc
    rcases hbrackets with ⟨rfl, rfl, rfl, rfl⟩ | ⟨rfl, rfl, rfl, rfl⟩ <;> decide
  obtain ⟨t, hkey, ht, hplace, hallowed, hnone⟩ :=
    hs.exists_key [' '] k.valid hk.1 hk.2 hturn hdepth rfl (by simp [isBlank])
      fun c hc => ⟨(hleft c hc).1, (hleft c hc).2.2⟩
  have hreaches := ht.reaches_blank hnone hplace hleft
  rw [hallowed] at hreaches
  obtain ⟨u, i', hvalue, hu⟩ := hreaches.exists_brackets hnone htail (by omega) hbrackets
  refine ⟨u, i', l + 1, ?_, hu⟩
  have := hkey.trans hvalue
  rwa [List.append_assoc] at this

/-- The mark of an entry of a sequence, in front of the entry. -/
theorem leads_entry (hcolumn : 0 < column) (htail : StartsToken tail)
    (hturn : turn .blockSequenceStart column stack = (new, (column + 1) :: stack'))
    (hdepth : stack.length ≤ maxDepth) :
    Leads ⟨'-' :: ' ' :: tail, column, stack⟩ (new ++ [.blockEntry])
      ⟨tail, column + 2, (column + 1) :: stack'⟩ := by
  intro s i l hs
  obtain ⟨t, hentry, ht⟩ := hs.exists_entry hcolumn htail hturn hdepth
  exact ⟨t, _, _, hentry, ht⟩

/-- A key with a mark, and its value on a line of its own. -/
theorem leads_longPair {k v : Inscription}
    (hturn : turn .blockMappingStart column stack = (new, (column + 1) :: stack'))
    (hdepth : stack.length ≤ maxDepth) (htail : StartsToken tail) (hmargin : margin ≤ column) :
    Leads ⟨'?' :: ' ' :: (k.written ++ '\n' :: (List.replicate column ' ' ++ ':' :: ' ' ::
        (v.written ++ '\n' :: (List.replicate margin ' ' ++ tail)))), column, stack⟩
      (new ++ pairKinds k v) ⟨tail, margin, (column + 1) :: stack'⟩ := by
  intro s i l hs
  obtain ⟨t₁, hmark, ht₁⟩ := hs.exists_explicitKey (k.valid.startsToken _) hturn hdepth
  obtain ⟨t₂, i₂, hkey, ht₂⟩ :=
    ht₁.exists_text nofun k.valid (fun c hc => by cases hc; decide) (by omega) (by omega)
      (Nat.lt_succ_self column)
  obtain ⟨t₃, hcolon, ht₃⟩ := ht₂.exists_bareValue (v.valid.startsToken _)
  obtain ⟨t₄, i₄, hvalue, ht₄⟩ :=
    ht₃.exists_text nofun v.valid htail (by omega) (by omega) (Nat.lt_succ_of_le hmargin)
  refine ⟨t₄, i₄, _, ?_, ht₄⟩
  have := ((hmark.trans hkey).trans hcolon).trans hvalue
  simpa [pairKinds, Word.kind] using this

end Lines

/-! ## §3 Texts -/

/-- A text that can be taken in starts at its first line. -/
theorem exists_start {text : String}
    (hchars : ∀ c ∈ text.toList, isAllowed c = true ∧ isOrderMark c = false)
    (htoken : StartsToken text.toList) (hne : text.toList ≠ []) :
    ∃ t, (Scan.ofText text).Follows [.streamStart] t ∧
      t.Reaches ⟨text.toList, 0, 0, 0⟩ true [0] := by
  obtain ⟨c, rest, hcons⟩ := List.exists_cons_of_ne_nil hne
  have hmark : isOrderMark c = false := (hchars c (by simp [hcons])).2
  let k : Cursor := { rest := text.toList, window := .ofText 0 text.toList }
  have hof : Scan.ofText text = { place := k } := by
    simp only [Scan.ofText, hcons, hmark, Bool.false_eq_true, if_false, k]
  have hk : k.IsAt ⟨text.toList, 0, 0, 0⟩ :=
    ⟨Window.measure_intact (fun c hc => (hchars c hc).1) _ _, rfl,
      fun c hc => (hchars c hc).2, rfl, rfl, rfl, rfl⟩
  obtain ⟨m, hneed, hm⟩ := hk.need? 1
  let t : Scan :=
    { place := m, started := true, queue := [⟨.streamStart, m.line⟩] }
  have ht : t.Inside [0] := ⟨rfl, rfl, rfl, rfl, rfl, rfl⟩
  have hread : (Scan.ofText text).token? = some t := by
    rw [hof]
    simp only [Scan.token?, hneed, Option.bind_eq_bind, Option.bind_some]
    rfl
  have hcalm : (Scan.ofText text).Calm := by
    rw [hof]
    exact ⟨rfl, by simp⟩
  refine ⟨t, .step hcalm (ht.calm_of_none rfl) hread ?_ (by simp),
    ⟨ht, lands_sameLine (n := 0) hm htoken, by simp [t], by simp [t]⟩⟩
  rw [hof]
  rfl

/-- The tokens of a text are those that its lines lead to. -/
theorem yields_of_leads {text : String} {new : List TokenKind} {stack : List Nat}
    (hchars : ∀ c ∈ text.toList, isAllowed c = true ∧ isOrderMark c = false)
    (htoken : StartsToken text.toList) (hne : text.toList ≠ [])
    (h : Leads ⟨text.toList, 0, [0]⟩ new ⟨[], 0, stack⟩)
    (hclosed : (closed 0 (closed 1 stack).2).2 = [0]) :
    (Scan.ofText text).Yields (.streamStart :: (new ++
      (List.replicate ((closed 1 stack).1 + (closed 0 (closed 1 stack).2).1) .blockEnd ++
        [.streamEnd]))) := by
  obtain ⟨t₁, hstart, ht₁⟩ := exists_start hchars htoken hne
  obtain ⟨t₂, i₂, l₂, hlines, ht₂⟩ := h t₁ 0 0 ht₁
  obtain ⟨t₃, hend, ht₃⟩ := ht₂.exists_end hclosed
  -- reading on at the end of a text gives its end again
  obtain ⟨t₄, hend₄, ht₄⟩ := ht₃.exists_end rfl
  obtain ⟨t₅, hend₅, -⟩ := ht₄.exists_end rfl
  have hall := (((hstart.trans hlines).trans hend).trans hend₄).trans hend₅
  have hempty : (Scan.ofText text).kinds = [] := by
    simp only [Scan.ofText, Scan.kinds]
    split
    · rfl
    · split <;> rfl
  have hkinds := hall.kinds
  rw [hempty, List.nil_append] at hkinds
  have hnone : (closed 1 [0]).1 + (closed 0 (closed 1 [0]).2).1 = 0 := rfl
  rw [hnone] at hkinds
  have hqueue : t₅.queue.map Token.kind =
      (.streamStart :: (new ++
        (List.replicate ((closed 1 stack).1 + (closed 0 (closed 1 stack).2).1) .blockEnd ++
          [.streamEnd]))) ++ [.streamEnd, .streamEnd] := hkinds.trans (by simp)
  exact hall.ahead.yields hqueue (Nat.le_refl 2)

end ArgTaint.Yaml
