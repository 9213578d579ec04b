/-
ArgTaint.Proofs.Analysis.Summary — what a report shows on a terminal.

A report is a list of lines. Without colors the lines of its layout are made of
fixed words, numbers, names of kinds and texts without controls, so they are
printable (`Text.isLine`). Two lines of each target end in texts that are printed
as they are, the position and the helper: the report is clean exactly when these
are.

  §1 Lines  — texts that stay in their line, and texts made of lines.
  §2 Words  — what the layout is made of.
  §3 Report — the lines of a report.
-/
import ArgTaint.Analysis.Summary
import ArgTaint.Proofs.Kind
import ArgTaint.Proofs.Tally
import ArgTaint.Proofs.Text.Quoted
import ArgTaint.Proofs.Yaml.Number

namespace ArgTaint

/-! ## §1 Lines -/

/-- Is the symbol a printable character or a tab? -/
def Symbol.isInLine : Symbol → Bool
  | .char c => Text.isPrintable c || c == '\t'
  | .stray _ => false

namespace Text

variable {t u : Text} {rows : List Text}

def isLine (t : Text) : Bool := t.all Symbol.isInLine

/-- The text is made of printable characters, tabs and line feeds, and the line
feeds are as many as they should be. -/
structure IsClean (t : Text) (feeds : Nat) : Prop where
  shown : ∀ s ∈ t, s.isInLine = true ∨ s = .char '\n'
  feeds : t.count (.char '\n') = feeds

theorem isLine_iff : t.isLine = true ↔ ∀ s ∈ t, s.isInLine = true := List.all_eq_true

theorem isLine_append : isLine (t ++ u) = (t.isLine && u.isLine) := List.all_append

/-- A line holds no line feed. -/
theorem count_feed_of_isLine (h : t.isLine = true) : t.count (.char '\n') = 0 := by
  rw [List.count_eq_zero]
  intro hfeed
  exact absurd (isLine_iff.mp h _ hfeed) (by decide)

/-- A text made of lines is clean exactly when each of them stays in its line. -/
theorem isClean_flatMap_iff :
    IsClean (rows.flatMap (· ++ [.char '\n'])) rows.length ↔
      ∀ row ∈ rows, row.isLine = true := by
  have feeds (rows : List Text) : (rows.flatMap (· ++ [.char '\n'])).count (.char '\n') =
      rows.length + (rows.map (·.count (.char '\n'))).sum := by
    induction rows with
    | nil => rfl
    | cons row rows ih => simp [ih]; omega
  constructor
  · rintro ⟨hshown, hfeeds⟩ row hrow
    have hzero : (rows.map (·.count (.char '\n'))).sum = 0 := by
      have := feeds rows
      omega
    have hnone : row.count (.char '\n') = 0 :=
      List.sum_eq_zero_iff.mp hzero _ (List.mem_map.mpr ⟨row, hrow, rfl⟩)
    refine isLine_iff.mpr fun s hs => (hshown s ?_).resolve_right ?_
    · exact List.mem_flatMap.mpr ⟨row, hrow, List.mem_append_left _ hs⟩
    · rintro rfl
      exact List.count_eq_zero.mp hnone hs
  · intro h
    refine ⟨fun s hs => ?_, ?_⟩
    · obtain ⟨row, hrow, hs⟩ := List.mem_flatMap.mp hs
      rcases List.mem_append.mp hs with hs | hs
      · exact Or.inl (isLine_iff.mp (h row hrow) s hs)
      · exact Or.inr (List.mem_singleton.mp hs)
    · have hzero : ∀ n ∈ rows.map (·.count (.char '\n')), n = 0 := by
        simpa using fun row hrow => count_feed_of_isLine (h row hrow)
      rw [feeds, List.sum_eq_zero_iff.mpr hzero, Nat.add_zero]

/-! ## §2 Words -/

theorem ofString_append (a b : String) : ofString (a ++ b) = ofString a ++ ofString b := by
  simp [ofString]

theorem isLine_ofString_append (a b : String) :
    (ofString (a ++ b)).isLine = ((ofString a).isLine && (ofString b).isLine) := by
  rw [ofString_append, isLine_append]

theorem isLine_of_isPrintable {s : String} (h : ∀ c ∈ s.toList, isPrintable c = true) :
    (ofString s).isLine = true := by
  refine isLine_iff.mpr fun x hx => ?_
  obtain ⟨c, hc, rfl⟩ := List.mem_map.mp hx
  simp [Symbol.isInLine, h c hc]

/-- A text that was sanitized fits on a line. -/
theorem isLine_sanitize (t : Text) : (ofString t.sanitize).isLine = true :=
  isLine_of_isPrintable fun _ hc => isPrintable_of_mem_escape (sanitize_toList t ▸ hc)

theorem isLine_replicate (n : Nat) {c : Char} (h : isPrintable c = true) :
    (ofString (String.ofList (List.replicate n c))).isLine = true := by
  refine isLine_of_isPrintable fun d hd => ?_
  rw [String.toList_ofList] at hd
  rw [List.eq_of_mem_replicate hd, h]

theorem isLine_toString_int (n : Int) : (ofString (toString n)).isLine = true := by
  have hchars : ∀ c ∈ Yaml.numeralChars, isPrintable c = true := List.all_eq_true.mp (by decide)
  exact isLine_of_isPrintable fun c hc =>
    hchars c ((Yaml.isNumeral_repr n).mem_numeralChars c hc)

theorem isLine_toString_int64 (n : Int64) : (ofString (toString n)).isLine = true :=
  isLine_toString_int n.toInt

theorem isLine_toString_nat (n : Nat) : (ofString (toString n)).isLine = true :=
  isLine_toString_int n

theorem isLine_kindName (k : Kind) : (ofString k.name).isLine = true := by
  cases hk : k.isMember with
  | true =>
    have hall : ∀ j ∈ Kind.all, (ofString j.name).isLine = true := by decide
    exact hall k (Kind.mem_all hk)
  | false =>
    cases k with
    | other code outside =>
      rw [Kind.name_other, isLine_ofString_append, isLine_ofString_append, isLine_toString_int]
      decide
    | _ => cases hk

end Text

/-! ## §3 Report -/

namespace Report

variable {items : List Item} {ignored : Int64} {stats : Stats}

theorem isLine_kindLine {entry : String × Int64} (h : ∃ k : Kind, entry.1 = k.name) :
    (Text.ofString (kindLine entry)).isLine = true := by
  obtain ⟨k, hk⟩ := h
  have hspace : Text.isPrintable ' ' = true := by decide
  simp only [kindLine, padRight, Text.isLine_ofString_append, hk, Text.isLine_kindName,
    Text.isLine_toString_int64, Text.isLine_replicate _ hspace, Bool.and_true]
  decide

theorem isLine_kindLines (h : ∀ n ∈ stats.kinds.names, ∃ k : Kind, n = k.name) :
    ∀ row ∈ (kindLines stats.kinds).map Text.ofString, row.isLine = true := by
  simp only [kindLines, List.forall_mem_map]
  intro entry hentry
  exact isLine_kindLine (h _ (List.mem_map.mpr ⟨entry, List.mem_mergeSort.mp hentry, rfl⟩))

theorem isLine_verdict (n : Nat) : (Text.ofString (verdict false n)).isLine = true := by
  unfold verdict
  split
  · decide
  · simp only [Terminal.Style.paint, Terminal.paint, Bool.false_eq_true, if_false,
      Text.isLine_ofString_append, Text.isLine_toString_nat, Bool.true_and]
    decide

theorem isLine_counterText (label : String) (n : Int64) :
    (Text.ofString (counterText label n)).isLine = (Text.ofString label).isLine := by
  have hcolon : (Text.ofString ": ").isLine = true := by decide
  simp only [counterText, Text.isLine_ofString_append, Text.isLine_toString_int64, hcolon,
    Bool.and_true]

theorem isLine_statsLine (s : Stats) : (Text.ofString (statsLine s)).isLine = true := by
  simp only [statsLine, Text.isLine_ofString_append, isLine_counterText]
  decide

/-- The function and the instruction of a target stay in their lines, the
position and the helper do when they are lines. -/
theorem isLine_itemLines (i : Item) :
    (∀ row ∈ i.lines false, row.isLine = true) ↔
      i.position.isLine = true ∧ i.helper.isLine = true := by
  have hhead : (Text.ofString (i.kind.name ++ " in " ++ i.function.sanitize ++ ":")).isLine =
      true := by
    simp only [Text.isLine_ofString_append, Text.isLine_kindName, Text.isLine_sanitize,
      Bool.true_and, Bool.and_true]
    decide
  have hinstruction : (Text.ofString ("\t[SSA] " ++ i.instruction.sanitize)).isLine = true := by
    rw [Text.isLine_ofString_append, Text.isLine_sanitize]
    decide
  have hposition : (Text.ofString "\t[POSITION] ").isLine = true := by decide
  have hhelper : (Text.ofString "\t[REWRITE] ").isLine = true := by decide
  simp only [Item.lines, Terminal.Style.paint, Terminal.paint, Bool.false_eq_true, if_false,
    List.forall_mem_cons, List.not_mem_nil, false_imp_iff, implies_true,
    Text.isLine_append, hhead, hinstruction, hposition, hhelper, Bool.true_and, true_and,
    and_true]

/-- How many lines the layout has: three lines before the targets, four for each
target, one when targets are ignored, and the counters. -/
def lineCount (items : List Item) (ignored : Int64) (stats : Stats) : Nat :=
  3 + 4 * items.length + (if 0 < ignored then 1 else 0) + 1 + stats.kinds.length

/-- A layout has as many lines as `lineCount` says. -/
theorem length_lines :
    (lines false items ignored stats []).length = lineCount items ignored stats := by
  have hitems : (items.flatMap (Item.lines false)).length = 4 * items.length := by
    simp only [List.length_flatMap, Item.lines, List.length_cons, List.length_nil,
      List.map_const', List.sum_replicate, smul_eq_mul, Nat.mul_comm]
  have hignored : ∀ row : Text, (if 0 < ignored then [row] else []).length =
      if 0 < ignored then 1 else 0 := by
    intro row
    split <;> rfl
  simp only [lines, lineCount, kindLines, List.length_append, List.length_map,
    List.length_mergeSort, hitems, hignored, List.isEmpty_nil, if_true, List.length_cons,
    List.length_nil]
  omega

/-- Only positions and helpers can break the lines of a report. -/
theorem isLine_lines (h : ∀ n ∈ stats.kinds.names, ∃ k : Kind, n = k.name) :
    (∀ row ∈ lines false items ignored stats [], row.isLine = true) ↔
      ∀ i ∈ items, i.position.isLine = true ∧ i.helper.isLine = true := by
  have hstars : (Text.ofString (String.ofList (List.replicate 80 '*'))).isLine = true :=
    Text.isLine_replicate 80 (by decide)
  have hverdict : (Text.ofString ("\t\t" ++ verdict false items.length)).isLine = true := by
    rw [Text.isLine_ofString_append, isLine_verdict]
    decide
  have hignored : ∀ row ∈ (if 0 < ignored then
      [Text.ofString (toString ignored ++ " targets ignored by directives")] else []),
      row.isLine = true := by
    split
    · rw [List.forall_mem_singleton, Text.isLine_ofString_append, Text.isLine_toString_int64]
      decide
    · exact List.forall_mem_nil _
  have hresult : (Text.ofString "RESULT:").isLine = true := by decide
  have hitems : (∀ row ∈ items.flatMap (Item.lines false), row.isLine = true) ↔
      ∀ i ∈ items, i.position.isLine = true ∧ i.helper.isLine = true := by
    rw [List.forall_mem_flatMap]
    exact forall₂_congr fun i _ => isLine_itemLines i
  simp only [lines, Terminal.Style.paint, Terminal.paint, Bool.false_eq_true, if_false,
    List.isEmpty_nil, if_true, List.forall_mem_append, List.forall_mem_cons, List.not_mem_nil,
    false_imp_iff, implies_true, hstars, hresult, hverdict, isLine_statsLine, true_and,
    and_true, hitems, iff_true_intro hignored, iff_true_intro (isLine_kindLines h)]

/-- **A report is clean exactly when positions and helpers are.** For all targets
with any texts, all counters and statistics by names of kinds, without colors and
without a file: the text of a report is made of printable characters, line feeds
and tabs, with just the line feeds of its layout, if and only if each position
and each helper is made of printable characters and tabs. Functions and
instructions may hold anything. -/
theorem print_isClean_iff (h : ∀ n ∈ stats.kinds.names, ∃ k : Kind, n = k.name) :
    (print false items ignored stats []).IsClean (lineCount items ignored stats) ↔
      ∀ i ∈ items, i.position.isLine = true ∧ i.helper.isLine = true := by
  rw [← length_lines, print, Text.isClean_flatMap_iff, isLine_lines h]

/-- A target with an escape sequence, line feeds and a byte outside of characters
in its function and its instruction. -/
def awkwardItem : Item where
  kind := .compare
  function := Text.ofString "p.\x1b[31mcheck\r\n"
  position := Text.ofString "main.go:3:9"
  instruction := Text.ofString "x == \"\n\x07\"" ++ [.stray 0xff]
  helper := Text.ofString "MatrixMult"

theorem print_isClean_iff_awkward :
    (∀ n ∈ Tally.names [("compare", 3), ("kind(40)", -1)], ∃ k : Kind, n = k.name) ∧
      (print false [awkwardItem, awkwardItem] 2 { kinds := [("compare", 3), ("kind(40)", -1)] }
        []).IsClean 15 := by
  have hnames :
      ∀ n ∈ Tally.names [("compare", 3), ("kind(40)", -1)], ∃ k : Kind, n = k.name := by
    intro n hn
    rcases List.mem_pair.mp hn with rfl | rfl
    · exact ⟨.compare, rfl⟩
    · exact ⟨.ofCode 40, by decide⟩
  refine ⟨hnames, (print_isClean_iff hnames).mpr fun i hi => ?_⟩
  have hitem : i = awkwardItem := by simpa using hi
  rw [hitem]
  decide

/-- A target of a file whose name holds an escape sequence, with a helper that
breaks its line. -/
def forgedItem : Item :=
  .ofTarget
    { function := "p.check"
      position := "\x1b[2Jmain.go:3:9"
      instruction := "x == 1:int"
      kind := .compare
      helper := Text.ofString "H\ncompare in p.forged:" }

/-- Positions and helpers can bring escape sequences and lines into a report. -/
theorem not_print_isClean :
    ¬ ∀ (items : List Item) (ignored : Int64) (stats : Stats),
      (∀ n ∈ stats.kinds.names, ∃ k : Kind, n = k.name) →
      (print false items ignored stats []).IsClean (lineCount items ignored stats) := by
  intro h
  have hclean := h [forgedItem] 0 {} (fun n hn => absurd hn List.not_mem_nil)
  have hescape : Symbol.char '\x1b' ∈ print false [forgedItem] 0 {} [] := by decide +kernel
  exact absurd (hclean.shown _ hescape) (by decide)

end Report

end ArgTaint
