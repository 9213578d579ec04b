/-
ArgTaint.Proofs.Text.SafeName — safe names keep what is safe and nothing else.

A text falls into maximal runs of safe characters and of other symbols, which
are unsafe characters and stray bytes alike (`Text.IsCutInto`). A safe name has
the safe runs as they are and one underscore for each of the others. All its
characters are safe, so there is nothing left to replace in it; and what is not
its own safe name has a symbol that is not safe.

  §1 Runs     — every text is cut into maximal runs.
  §2 Collapse — one run after the other.
  §3 Names    — the characters of a safe name, and texts that are safe already.
  §4 Files    — byte strings, and the files named after them.
-/
import ArgTaint.Command.Options
import ArgTaint.Proofs.Text.Utf8

namespace ArgTaint

def Symbol.isSafe (s : Symbol) : Bool := s.safe?.isSome

namespace Text

variable {t run : Text} {runs : List Text} {s : Symbol} {c : Char}

/-! ## §1 Runs -/

/-- The maximal runs of a text: either all symbols of a run are safe or none is,
and neighbours differ in this, so that no run could be longer. -/
structure IsCutInto (t : Text) (runs : List Text) : Prop where
  flatten_eq : runs.flatten = t
  ne_nil : ∀ run ∈ runs, run ≠ []
  same : ∀ run ∈ runs, ∀ a ∈ run, ∀ b ∈ run, a.isSafe = b.isSafe
  apart : runs.IsChain fun run next => ∀ a ∈ run, ∀ b ∈ next, a.isSafe ≠ b.isSafe

theorem IsCutInto.tail (h : IsCutInto t (run :: runs)) : IsCutInto runs.flatten runs where
  flatten_eq := rfl
  ne_nil r hr := h.ne_nil r (List.mem_cons_of_mem run hr)
  same r hr := h.same r (List.mem_cons_of_mem run hr)
  apart := h.apart.tail

/-- A text is cut into runs where safety changes. -/
theorem isCutInto_splitBy (t : Text) :
    IsCutInto t (t.splitBy fun a b => a.isSafe == b.isSafe) := by
  have same : ∀ run ∈ t.splitBy (fun a b => a.isSafe == b.isSafe), ∀ a ∈ run, ∀ b ∈ run,
      a.isSafe = b.isSafe := by
    intro run hrun a ha b hb
    have chain : (run.map Symbol.isSafe).IsChain (· = ·) :=
      (List.isChain_map _).mpr
        ((List.isChain_of_mem_splitBy hrun).imp fun _ _ h => beq_iff_eq.mp h)
    exact (List.isChain_iff_pairwise.mp chain).forall_of_forall (fun _ _ => rfl)
      (List.mem_map_of_mem ha) (List.mem_map_of_mem hb)
  refine ⟨List.flatten_splitBy _ t, fun run => List.ne_nil_of_mem_splitBy, same, ?_⟩
  -- runs part where the last symbol of one and the first of the next differ
  refine List.IsChain.imp_of_mem_imp ?_ (List.isChain_getLast_head_splitBy _ t)
  rintro run next hrun hnext ⟨hlast, hhead, hne⟩ a ha b hb
  rw [same run hrun a ha _ (List.getLast_mem hlast),
    same next hnext b hb _ (List.head_mem hhead)]
  exact ne_of_beq_false hne

/-! ## §2 Collapse -/

/-- What a safe name has for a run. -/
def replaceRun (run : Text) : List Char :=
  if run.all Symbol.isSafe then run.filterMap Symbol.safe? else ['_']

theorem collapse_cons_of_safe? (h : s.safe? = some c) (inRun : Bool) (t : Text) :
    collapse inRun (s :: t) = c :: collapse false t := by
  rw [collapse, h]

/-- A run of other symbols leaves one underscore. -/
theorem collapse_cons_of_not_isSafe (h : s.isSafe = false) (t : Text) :
    collapse false (s :: t) = '_' :: collapse true t ∧
      collapse true (s :: t) = collapse true t := by
  rw [Symbol.isSafe, Option.isSome_eq_false_iff, Option.isNone_iff_eq_none] at h
  rw [collapse, collapse, h]
  exact ⟨rfl, rfl⟩

/-- A run of safe symbols stays as it is. -/
theorem collapse_append_of_isSafe (h : ∀ s ∈ run, s.isSafe = true) (t : Text) :
    collapse false (run ++ t) = run.filterMap Symbol.safe? ++ collapse false t := by
  induction run with
  | nil => rfl
  | cons s run ih =>
    obtain ⟨hs, hrun⟩ := List.forall_mem_cons.mp h
    obtain ⟨c, hc⟩ := Option.isSome_iff_exists.mp hs
    rw [List.cons_append, collapse_cons_of_safe? hc, List.filterMap_cons_some hc, ih hrun,
      List.cons_append]

/-- The rest of a run whose underscore is written leaves nothing. -/
theorem collapse_append_of_not_isSafe (h : ∀ s ∈ run, s.isSafe = false) (t : Text) :
    collapse true (run ++ t) = collapse true t := by
  induction run with
  | nil => rfl
  | cons s run ih =>
    obtain ⟨hs, hrun⟩ := List.forall_mem_cons.mp h
    rw [List.cons_append, (collapse_cons_of_not_isSafe hs _).2, ih hrun]

/-- A run ends before a safe character. -/
theorem collapse_true_eq (h : ∀ s ∈ t.head?, s.isSafe = true) :
    collapse true t = collapse false t := by
  cases t with
  | nil => rfl
  | cons s t =>
    obtain ⟨c, hc⟩ := Option.isSome_iff_exists.mp (h s rfl)
    rw [collapse_cons_of_safe? hc, collapse_cons_of_safe? hc]

/-- After a run that is not safe comes a safe one, or the end. -/
theorem IsCutInto.head?_isSafe (h : IsCutInto t (run :: runs)) (hs : s ∈ run)
    (hsafe : s.isSafe = false) : ∀ a ∈ runs.flatten.head?, a.isSafe = true := by
  intro a ha
  cases runs with
  | nil => cases ha
  | cons next rest =>
    obtain ⟨b, tail, rfl⟩ := List.exists_cons_of_ne_nil (h.tail.ne_nil next List.mem_cons_self)
    obtain rfl : b = a := Option.some.inj ha
    have hne := (List.isChain_cons_cons.mp h.apart).1 s hs b List.mem_cons_self
    exact Bool.eq_true_of_not_eq_false fun hb => hne (hsafe.trans hb.symm)

/-- Collapsing replaces the maximal runs one by one. -/
theorem IsCutInto.collapse_eq (h : IsCutInto t runs) :
    collapse false t = runs.flatMap replaceRun := by
  induction runs generalizing t with
  | nil =>
    obtain rfl := h.flatten_eq
    rfl
  | cons run runs ih =>
    obtain rfl := h.flatten_eq
    obtain ⟨s, rest, rfl⟩ := List.exists_cons_of_ne_nil (h.ne_nil run List.mem_cons_self)
    have same : ∀ a ∈ s :: rest, a.isSafe = s.isSafe := fun a ha =>
      h.same _ List.mem_cons_self a ha s List.mem_cons_self
    rw [List.flatten_cons, List.flatMap_cons, ← ih h.tail]
    cases hs : s.isSafe with
    | true =>
      have safe : ∀ a ∈ s :: rest, a.isSafe = true := fun a ha => (same a ha).trans hs
      rw [replaceRun, if_pos (List.all_eq_true.mpr safe), collapse_append_of_isSafe safe]
    | false =>
      have other : ∀ a ∈ rest, a.isSafe = false := fun a ha =>
        (same a (List.mem_cons_of_mem s ha)).trans hs
      rw [replaceRun, if_neg (by simp [hs]), List.cons_append,
        (collapse_cons_of_not_isSafe hs _).1, collapse_append_of_not_isSafe other,
        collapse_true_eq (h.head?_isSafe List.mem_cons_self hs), List.singleton_append]

/-! ## §3 Names -/

theorem isSafe_iff : isSafe c = true ↔
    ('A' ≤ c ∧ c ≤ 'Z') ∨ ('a' ≤ c ∧ c ≤ 'z') ∨ ('0' ≤ c ∧ c ≤ '9') ∨
      c = '.' ∨ c = '-' ∨ c = '_' := by
  simp [isSafe, Char.isAlphanum, Char.isAlpha, Char.isUpper, Char.isLower, Char.isDigit,
    Char.le_def, or_assoc]

theorem toList_safeName (t : Text) : (safeName t).toList = collapse false t :=
  String.toList_ofList

theorem safe?_eq_some_iff : s.safe? = some c ↔ s = .char c ∧ isSafe c = true := by
  cases s with
  | char d =>
    rw [Symbol.safe?, Option.ite_none_right_eq_some, Option.some.injEq, Symbol.char.injEq]
    refine ⟨fun ⟨hd, he⟩ => ⟨he, he ▸ hd⟩, fun ⟨he, hc⟩ => ⟨he ▸ hc, he⟩⟩
  | stray b => simp [Symbol.safe?]

/-- A safe name is made of safe characters. -/
theorem isSafe_of_mem_collapse {inRun : Bool} (h : c ∈ collapse inRun t) : isSafe c = true := by
  induction t generalizing inRun with
  | nil => cases h
  | cons s t ih =>
    rw [collapse] at h
    split at h
    · next d hd =>
      rcases List.mem_cons.mp h with rfl | h
      · exact (safe?_eq_some_iff.mp hd).2
      · exact ih h
    · split at h
      · exact ih h
      · rcases List.mem_cons.mp h with rfl | h
        · rfl
        · exact ih h

/-- No safe character is lost. -/
theorem safe_sublist_collapse (inRun : Bool) (t : Text) :
    (t.filterMap Symbol.safe?).Sublist (collapse inRun t) := by
  induction t generalizing inRun with
  | nil => exact List.Sublist.refl []
  | cons s t ih =>
    rw [collapse]
    split
    · next c hc =>
      rw [List.filterMap_cons_some hc]
      exact (ih false).cons_cons c
    · next hnone =>
      rw [List.filterMap_cons_none hnone]
      split
      · exact ih true
      · exact (ih true).cons '_'

theorem map_char_filterMap_safe? (h : ∀ s ∈ t, s.isSafe = true) :
    (t.filterMap Symbol.safe?).map Symbol.char = t := by
  induction t with
  | nil => rfl
  | cons s t ih =>
    obtain ⟨hs, ht⟩ := List.forall_mem_cons.mp h
    obtain ⟨c, hc⟩ := Option.isSome_iff_exists.mp hs
    rw [List.filterMap_cons_some hc, List.map_cons, ih ht, (safe?_eq_some_iff.mp hc).1]

/-- A text of safe characters is its own safe name. -/
theorem ofString_safeName (h : ∀ s ∈ t, s.isSafe = true) : ofString (safeName t) = t := by
  have kept := collapse_append_of_isSafe h []
  rw [List.append_nil, collapse, List.append_nil] at kept
  rw [ofString, toList_safeName, kept, map_char_filterMap_safe? h]

theorem isSafe_of_mem_ofString_safeName (h : s ∈ ofString (safeName t)) : s.isSafe = true := by
  rw [ofString, toList_safeName] at h
  obtain ⟨c, hc, rfl⟩ := List.mem_map.mp h
  rw [Symbol.isSafe, safe?_eq_some_iff.mpr ⟨rfl, isSafe_of_mem_collapse hc⟩, Option.isSome_some]

theorem ofString_injective : Function.Injective ofString := by
  intro a b h
  exact String.toList_inj.mp (List.map_injective_iff.mpr (fun _ _ => Symbol.char.inj) h)

/-- A safe name is its own safe name. -/
theorem safeName_safeName (t : Text) : safeName (ofString (safeName t)) = safeName t :=
  ofString_injective (ofString_safeName fun _ => isSafe_of_mem_ofString_safeName)

/-! ## §4 Files -/

/-- A byte string is its own safe name when it is made of safe characters. -/
theorem bytesOf_safeName_eq_iff (name : List UInt8) :
    bytesOf (safeName (ofBytes name)) = name ↔ ∀ s ∈ ofBytes name, s.isSafe = true := by
  constructor
  · intro h s hs
    rw [← h, ofBytes_bytesOf] at hs
    exact isSafe_of_mem_ofString_safeName hs
  · intro h
    rw [bytesOf, ofString_safeName h, toBytes_ofBytes]

theorem isSafe_of_mem_outputFile (h : c ∈ (Command.outputFile t "").toList) :
    isSafe c = true := by
  have ending : ∀ d ∈ ".dot".toList, isSafe d = true := by simp [isSafe]
  rw [Command.outputFile, if_pos rfl, String.toList_append, List.mem_append,
    toList_safeName] at h
  rcases h with h | h
  · exact isSafe_of_mem_collapse h
  · exact ending c h

/-- **Safe names replace the maximal runs of what is not safe.** For every byte
string, UTF-8 or not: it is cut into maximal runs, and its safe name has the safe
ones as they are and one underscore for each of the others. The name has nothing
but letters, digits, full stops, hyphens and underscores; the safe characters are
in it in their order. Its own safe name is itself, and only strings of safe
characters are their own safe names. So a file that is named after a function has
no separator of paths in its name. -/
theorem safeName_replaces_runs (name : List UInt8) :
    let t := ofBytes name
    let safe := safeName t
    toBytes t = name ∧ (∃ runs, t.IsCutInto runs) ∧
    (∀ runs, t.IsCutInto runs → safe.toList = runs.flatMap replaceRun) ∧
    (∀ c ∈ safe.toList, ('A' ≤ c ∧ c ≤ 'Z') ∨ ('a' ≤ c ∧ c ≤ 'z') ∨ ('0' ≤ c ∧ c ≤ '9') ∨
      c = '.' ∨ c = '-' ∨ c = '_') ∧
    (t.filterMap Symbol.safe?).Sublist safe.toList ∧
    safeName (ofBytes (bytesOf safe)) = safe ∧
    (bytesOf safe = name ↔ ∀ s ∈ t, s.isSafe = true) ∧
    ∀ c ∈ (Command.outputFile t "").toList, isSafe c = true ∧ c ≠ '/' ∧ c ≠ '\\' := by
  intro t safe
  refine ⟨toBytes_ofBytes name, ⟨_, isCutInto_splitBy t⟩, fun runs h => ?_,
    fun c hc => ?_, ?_, ?_, bytesOf_safeName_eq_iff name, fun c hc => ?_⟩
  · rw [toList_safeName, h.collapse_eq]
  · rw [toList_safeName] at hc
    exact isSafe_iff.mp (isSafe_of_mem_collapse hc)
  · rw [toList_safeName]
    exact safe_sublist_collapse false t
  · rw [ofBytes_bytesOf, safeName_safeName]
  · have hsafe := isSafe_of_mem_outputFile hc
    refine ⟨hsafe, ?_, ?_⟩ <;> rintro rfl <;> exact absurd hsafe (by decide)

/-- Separators, a letter that is not safe and a stray byte beside each other, and
an open bracket at the end. -/
def strangeName : List UInt8 := [0x2f, 0x61, 0xc3, 0xa9, 0xff, 0x2f, 0x2e, 0x62, 0x28]

theorem safeName_replaces_runs_strange :
    IsCutInto (ofBytes strangeName) [[.char '/'], [.char 'a'],
        [.char 'é', .stray 0xff, .char '/'], [.char '.', .char 'b'], [.char '(']] ∧
      (safeName (ofBytes strangeName)).toList = ['_', 'a', '_', '.', 'b', '_'] ∧
      '/' ∉ (Command.outputFile (ofBytes strangeName) "").toList := by
  have cut : IsCutInto (ofBytes strangeName) [[.char '/'], [.char 'a'],
      [.char 'é', .stray 0xff, .char '/'], [.char '.', .char 'b'], [.char '(']] := by
    refine ⟨by decide +kernel, by decide, by decide, by decide⟩
  obtain ⟨-, -, replaced, -, -, -, -, file⟩ := safeName_replaces_runs strangeName
  exact ⟨cut, (replaced _ cut).trans (by decide), fun hslash => (file '/' hslash).2.1 rfl⟩

end Text

end ArgTaint
