/-
ArgTaint.Proofs.Analysis.ReportFile — reports are read back from their files.

A report stands for a tree of texts (`Report.fields`). The text of a report is
that of its tree, and the reader of reports accepts the tree with the report,
the counters by kind in the order in which they are written. Only the name
`<<` cannot be the name of a counter: it is written plain and read as the key
that merges mappings.

  §1 Trees   — the tree of a report.
  §2 Texts   — the text of a report is the text of the tree.
  §3 Reading — the tree is read as the report.
  §4 Files   — a report that is written to a file is read back.
-/
import ArgTaint.Analysis.ReportFile
import ArgTaint.Proofs.Analysis.Determinism
import ArgTaint.Proofs.Kind
import ArgTaint.Proofs.Yaml.Entries
import ArgTaint.Workspace

namespace ArgTaint

open Yaml

/-! ## §1 Trees -/

def Text.IsPrintable (text : String) : Prop := text.toList.all Text.isPrintable = true

instance (text : String) : Decidable (Text.IsPrintable text) :=
  inferInstanceAs (Decidable (text.toList.all Text.isPrintable = true))

/-- No printable character breaks a line. -/
theorem Text.IsPrintable.isBreak {text : String} (h : Text.IsPrintable text) :
    ∀ c ∈ text.toList, isBreak c = false := by
  intro c hc
  by_contra hbreak
  have hcodes :
      ∀ n ∈ [0xa, 0xd, 0x85, 0x2028, 0x2029], Text.isPrintable (Char.ofNat n) = false := by
    decide +kernel
  have hmem : c.toNat ∈ [0xa, 0xd, 0x85, 0x2028, 0x2029] := by
    simp only [Yaml.isBreak, Bool.not_eq_false, Bool.or_eq_true, beq_iff_eq] at hbreak
    rcases hbreak with (((rfl | rfl) | h) | h) | h <;> simp [*]
  have hnot := hcodes _ hmem
  rw [Char.ofNat_toNat, List.all_eq_true.mp h c hc] at hnot
  cases hnot

/-- A target with a kind of the enumeration and printable texts. -/
structure Target.IsPrintable (t : Target) : Prop where
  kind : t.kind.isMember = true
  function : Text.IsPrintable t.function
  position : Text.IsPrintable t.position
  instruction : Text.IsPrintable t.instruction
  helper : ∃ text, t.helper = Text.ofString text ∧ Text.IsPrintable text

/-- A report of printable texts. A name has one counter. -/
structure Report.IsPrintable (r : Report) : Prop where
  targets : ∀ t ∈ r.targets, t.IsPrintable
  kinds : ∀ name ∈ r.stats.kinds.names, Text.IsPrintable name
  nodup : r.stats.kinds.names.Nodup

namespace Report

def targetFields (t : Target) : List (String × Tree) :=
  [("function", .word (.ofText t.function)), ("position", .word (.ofText t.position)),
    ("instruction", .word (.ofText t.instruction)), ("kind", .word (.ofText t.kind.name)),
    ("helper", .word (.ofText t.helper.display))]

def targetsTree (ts : List Target) : Tree :=
  if ts.isEmpty then .noItems
  else .items (ts.map fun t => .entries (Tree.fields (targetFields t)))

def kindsTree (kinds : Tally) : Tree :=
  if kinds.isEmpty then .noEntries
  else .entries (Tree.fields (Tree.counters (sortByKey kinds)))

def statsFields (s : Stats) : List (String × Tree) :=
  [("functions", .word (.ofInt64 s.functions)),
    ("tainted-values", .word (.ofInt64 s.taintedValues)),
    ("tainted-instructions", .word (.ofInt64 s.taintedInstructions)),
    ("targets", .word (.ofInt64 s.targets)), ("cycles", .word (.ofInt64 s.cycles)),
    ("kinds", kindsTree s.kinds)]

def fields (r : Report) : List (String × Tree) :=
  [("targets", targetsTree r.targets), ("ignored", .word (.ofInt64 r.ignored)),
    ("stats", .entries (Tree.fields (statsFields r.stats)))]

/-! ## §2 Texts -/

theorem isBreak_name {k : Kind} (h : k.isMember = true) :
    ∀ c ∈ k.name.toList, isBreak c = false := by
  have hall : (Kind.all.all fun k => k.name.toList.all fun c => !isBreak c) = true := by decide
  intro c hc
  simpa using List.all_eq_true.mp (List.all_eq_true.mp hall k (Kind.mem_all h)) c hc

/-- A string is written like the text that it is. -/
theorem writeBytes_ofString (indent : Nat) (text : String) :
    writeBytes indent (Text.ofString text) = writeText indent text := by
  have hchars : ∀ cs : List Char, (cs.map Symbol.char).mapM Text.char? = some cs := by
    intro cs
    induction cs with
    | nil => rfl
    | cons c cs ih => simp [List.mapM_cons, Text.char?, ih]
  simp [writeBytes, Text.string?, Text.ofString, hchars]

/-- The lines of a target are an item with its fields. -/
theorem exists_renderTarget {t : Target} (h : t.IsPrintable) :
    ∃ text, (renderTarget t).toList = List.replicate 4 ' ' ++ '-' :: ' ' :: text ∧
      IsEntries 0 6 text (targetFields t) := by
  obtain ⟨helper, hhelper, hprintable⟩ := h.helper
  have hfunction : IsEntries 0 6 (writeLine "function" (writeText 8 t.function)).toList _ :=
    isEntries_text "function" (by decide +kernel) h.function.isBreak
  have hposition : IsEntries 0 6 (writeLine "position" (writeText 8 t.position)).toList _ :=
    isEntries_text "position" (by decide +kernel) h.position.isBreak
  have hinstruction :
      IsEntries 0 6 (writeLine "instruction" (writeText 8 t.instruction)).toList _ :=
    isEntries_text "instruction" (by decide +kernel) h.instruction.isBreak
  have hkind : IsEntries 0 6 (writeLine "kind" (writeText 8 t.kind.name)).toList _ :=
    isEntries_text "kind" (by decide +kernel) (isBreak_name h.kind)
  have hdisplay : t.helper.display = helper := by rw [hhelper, string_ofString]
  have hlast : IsEntries 0 6 (writeLine "helper" (writeText 8 helper)).toList
      [("helper", .word (.ofText t.helper.display))] := by
    rw [hdisplay]
    exact isEntries_text "helper" (by decide +kernel) hprintable.isBreak
  have hfields : IsEntries 0 6 _ (targetFields t) :=
    hfunction.append (hposition.append (hinstruction.append (hkind.append hlast)))
  refine ⟨_, ?_, hfields⟩
  delta renderTarget
  simp only [hhelper, writeBytes_ofString, String.toList_append, String.reduceToList,
    List.append_assoc, List.cons_append, List.nil_append, List.replicate]

/-- The line of the targets and the lines of each of them. -/
theorem isEntries_renderTargets {ts : List Target} (h : ∀ t ∈ ts, t.IsPrintable) :
    IsEntries 2 0 (renderTargets ts).toList [("targets", targetsTree ts)] := by
  have hname : isFieldName "targets" = true := by decide +kernel
  cases ts with
  | nil =>
    have hbody : IsEntries 2 0 _ _ := isEntries_noItems "targets" hname
    simpa [renderTargets, targetsTree] using hbody
  | cons t ts =>
    obtain ⟨text, htext, hbody⟩ := exists_flatMap (List.cons_ne_nil t ts) fun u hu =>
      have ⟨text, htext, hbody⟩ := exists_renderTarget (h u hu)
      ⟨_, htext, hbody.item (by decide)⟩
    have hitems : (targetsTree (t :: ts)).kinds = .blockSequenceStart ::
        (((t :: ts).flatMap fun u => .blockEntry :: .blockMappingStart ::
          (Tree.entryKinds (Tree.fields (targetFields u)) ++ [.blockEnd])) ++ [.blockEnd]) := by
      simp [targetsTree, Tree.kinds, Tree.itemKinds_eq_flatMap, List.flatMap_map]
    have hblock := isEntries_block "targets" hname hbody hitems (Nat.zero_lt_succ 3)
    rw [← htext] at hblock
    have hlines : (renderTargets (t :: ts)).toList = "targets".toList ++ ':' :: '\n' ::
        (t :: ts).flatMap fun u => (renderTarget u).toList := by
      simp only [renderTargets, List.isEmpty_cons, Bool.false_eq_true, if_false,
        String.toList_append, String.toList_join, List.flatMap_map, String.reduceToList,
        List.cons_append, List.nil_append]
    rw [hlines]
    exact hblock

theorem perm_sortByKey {α : Type} (entries : List (String × α)) :
    (sortByKey entries).Perm entries :=
  List.mergeSort_perm entries _

/-- The line of the counters by kind and the lines of each of them. -/
theorem exists_renderKinds {kinds : Tally} (h : ∀ name ∈ kinds.names, Text.IsPrintable name) :
    ∃ text, (renderKinds kinds).toList = List.replicate 4 ' ' ++ text ∧
      IsEntries 1 4 text [("kinds", kindsTree kinds)] := by
  have hname : isFieldName "kinds" = true := by decide +kernel
  cases hkinds : kinds with
  | nil =>
    have hbody : IsEntries 1 4 _ _ := isEntries_noEntries "kinds" hname
    exact ⟨_, by simp [renderKinds], hbody⟩
  | cons e rest =>
    have hne : sortByKey kinds ≠ [] := fun hnil => by
      have := (perm_sortByKey kinds).length_eq
      rw [hnil, hkinds] at this
      cases this
    have hentries : ∀ f ∈ sortByKey kinds, ∃ text,
        (writeEntry 8 f.1 (toString f.2)).toList = List.replicate 8 ' ' ++ text ∧
          IsEntries 0 8 text [(f.1, .word (.ofInt64 f.2))] := fun f hf =>
      have hmem : f.1 ∈ kinds.names :=
        List.mem_map_of_mem ((perm_sortByKey kinds).mem_iff.mp hf)
      exists_writeEntry f.2 (h f.1 hmem).isBreak (by decide)
    obtain ⟨text, htext, hbody⟩ := exists_flatMap hne hentries
    have htree : (kindsTree kinds).kinds = .blockMappingStart ::
        ((sortByKey kinds).flatMap (fun f =>
          Tree.entryKinds (Tree.fields [(f.1, .word (.ofInt64 f.2))])) ++ [.blockEnd]) := by
      simp [kindsTree, hkinds, Tree.kinds, Tree.counters, Tree.fields,
        Tree.entryKinds_eq_flatMap, List.flatMap_map]
    have hblock : IsEntries 1 4 _ _ := isEntries_block "kinds" hname hbody htree (by decide)
    rw [← htext] at hblock
    rw [← hkinds]
    refine ⟨_, ?_, hblock⟩
    simp only [renderKinds, hkinds, List.isEmpty_cons, Bool.false_eq_true, if_false,
      String.toList_append, String.toList_join, List.flatMap_map, String.reduceToList,
      List.cons_append, List.nil_append, List.replicate]

/-- The line of statistics and the lines of their fields. -/
theorem isEntries_renderStats {s : Stats} (h : ∀ name ∈ s.kinds.names, Text.IsPrintable name) :
    IsEntries 2 0 (renderStats s).toList
      [("stats", .entries (Tree.fields (statsFields s)))] := by
  obtain ⟨text, htext, hkinds⟩ := exists_renderKinds h
  have hfunctions : IsEntries 1 4 _ _ :=
    isEntries_counter "functions" (by decide +kernel) s.functions
  have hvalues : IsEntries 1 4 _ _ :=
    isEntries_counter "tainted-values" (by decide +kernel) s.taintedValues
  have hinstructions : IsEntries 1 4 _ _ :=
    isEntries_counter "tainted-instructions" (by decide +kernel) s.taintedInstructions
  have htargets : IsEntries 1 4 _ _ := isEntries_counter "targets" (by decide +kernel) s.targets
  have hcycles : IsEntries 1 4 _ _ := isEntries_counter "cycles" (by decide +kernel) s.cycles
  have hfields : IsEntries 1 4 _ (statsFields s) :=
    hfunctions.append (hvalues.append (hinstructions.append
      (htargets.append (hcycles.append hkinds))))
  have htext' :
      (renderStats s).toList = "stats".toList ++ ':' :: '\n' :: (List.replicate 4 ' ' ++
      (counterLine "functions" s.functions ++ (List.replicate 4 ' ' ++
      (counterLine "tainted-values" s.taintedValues ++ (List.replicate 4 ' ' ++
      (counterLine "tainted-instructions" s.taintedInstructions ++ (List.replicate 4 ' ' ++
      (counterLine "targets" s.targets ++ (List.replicate 4 ' ' ++
      (counterLine "cycles" s.cycles ++ (List.replicate 4 ' ' ++ text))))))))))) := by
    delta renderStats
    simp only [counterLine, String.toList_append, htext, String.reduceToList, List.append_assoc,
      List.cons_append, List.nil_append, List.replicate]
  have htree : (Tree.entries (Tree.fields (statsFields s))).kinds =
      .blockMappingStart :: (Tree.entryKinds (Tree.fields (statsFields s)) ++
        [.blockEnd]) := rfl
  have hblock := isEntries_block "stats" (by decide +kernel) hfields htree (Nat.zero_lt_succ 3)
  rw [htext']
  exact hblock

/-- The text of a report is that of its fields. -/
theorem isEntries_render {r : Report} (h : r.IsPrintable) :
    IsEntries 2 0 r.render.toList r.fields := by
  have hignored : IsEntries 2 0 _ _ := isEntries_counter "ignored" (by decide +kernel) r.ignored
  have hfields : IsEntries 2 0 _ r.fields :=
    (isEntries_renderTargets h.targets).append
      (hignored.append (isEntries_renderStats h.kinds))
  have htext : r.render.toList = (renderTargets r.targets).toList ++ (List.replicate 0 ' ' ++
      (counterLine "ignored" r.ignored ++
        (List.replicate 0 ' ' ++ (renderStats r.stats).toList))) := by
    simp only [render, counterLine, String.toList_append, String.reduceToList,
      List.append_assoc, List.cons_append, List.nil_append, List.replicate]
  rw [htext]
  exact hfields

/-! ## §3 Reading -/

/-- A field that is a counter is filled with the number that was written. -/
theorem fills_counter {α : Type} {r : Record α} {get : α → Int64} {set : α → Int64 → α}
    {name : String} {n : Int64} {fs : List (String × Tree)} {a b : α}
    (hfield : r.field? name = some (counter get set)) (h : r.Fills fs (set a n) b) :
    r.Fills ((name, .word (.ofInt64 n)) :: fs) a b := by
  refine .field hfield (Reader.accepts_int64 n) ?_
  rwa [Int64.ofInt_toInt]

/-- A printable target is read back. -/
theorem accepts_target {t : Target} (h : t.IsPrintable) :
    targetRecord.reader.Accepts (.entries (Tree.fields (targetFields t))) {} t := by
  obtain ⟨helper, hhelper, -⟩ := h.helper
  have hkind : Reader.kind.Accepts (.word (.ofText t.kind.name)) .unknown t.kind :=
    Reader.accepts_text (by simp [Reader.kind, Kind.parse_name h.kind])
  have hlast : Reader.text.Accepts (.word (.ofText t.helper.display)) [] t.helper :=
    Reader.accepts_text (by simp [Reader.text, hhelper, string_ofString])
  have hfills : targetRecord.Fills (targetFields t) {} t :=
    .field rfl (Reader.accepts_string t.function "")
      (.field rfl (Reader.accepts_string t.position "")
        (.field rfl (Reader.accepts_string t.instruction "")
          (.field rfl hkind (.field rfl hlast (.nil t)))))
  exact hfills.accepts (by simp [targetFields]) (by simp [targetFields])

theorem accepts_targets {ts : List Target} (h : ∀ t ∈ ts, t.IsPrintable) :
    (Reader.list targetRecord.reader {}).Accepts (targetsTree ts) [] ts := by
  cases ts with
  | nil => exact Reader.accepts_noItems
  | cons t ts =>
    refine Reader.accepts_items ?_
    rw [List.forall₂_map_left_iff, List.forall₂_same]
    exact fun u hu => accepts_target (h u hu)

/-- Counters by kind are read back in the order of their names. -/
theorem accepts_kinds {kinds : Tally} (hmerge : "<<" ∉ kinds.names)
    (hnodup : kinds.names.Nodup) :
    Reader.tally.Accepts (kindsTree kinds) [] (sortByKey kinds) := by
  have hnames : ((sortByKey kinds).map Prod.fst).Perm kinds.names :=
    (perm_sortByKey kinds).map _
  cases hkinds : kinds with
  | nil => simpa [kindsTree, sortByKey] using Reader.accepts_noCounters
  | cons e rest =>
    rw [← hkinds]
    have hentries := Reader.accepts_counters (fun hmem => hmerge (hnames.mem_iff.mp hmem))
      (hnames.nodup_iff.mpr hnodup)
    simpa [kindsTree, hkinds] using hentries

/-- Statistics are read back, with the counters by kind in the order of the
names. -/
theorem accepts_stats {s : Stats} (hmerge : "<<" ∉ s.kinds.names)
    (hnodup : s.kinds.names.Nodup) :
    statsRecord.reader.Accepts (.entries (Tree.fields (statsFields s))) {}
      { s with kinds := sortByKey s.kinds } := by
  have hfills : statsRecord.Fills (statsFields s) {} { s with kinds := sortByKey s.kinds } :=
    fills_counter rfl (fills_counter rfl (fills_counter rfl
      (fills_counter rfl (fills_counter rfl
      (.field rfl (accepts_kinds hmerge hnodup) (.nil _))))))
  exact hfills.accepts (by simp [statsFields]) (by simp [statsFields])

/-- The fields of a report are read as the report. -/
theorem accepts_fields {r : Report} (h : r.IsPrintable) (hmerge : "<<" ∉ r.stats.kinds.names) :
    record.reader.Accepts (.entries (Tree.fields r.fields)) {}
      { r with stats := { r.stats with kinds := sortByKey r.stats.kinds } } := by
  have hfills : record.Fills r.fields {}
      { r with stats := { r.stats with kinds := sortByKey r.stats.kinds } } :=
    .field rfl (accepts_targets h.targets)
      (fills_counter rfl (.field rfl (accepts_stats hmerge h.nodup) (.nil _)))
  exact hfills.accepts (by simp [fields]) (by simp [fields])

/-- The text of a report is read as the report, with the counters by kind in
the order of the text. -/
theorem parse_render {r : Report} (h : r.IsPrintable) (hmerge : "<<" ∉ r.stats.kinds.names) :
    parse r.render =
      .ok { r with stats := { r.stats with kinds := sortByKey r.stats.kinds } } := by
  have hbody := isEntries_render h
  have hne : r.render.toList ≠ [] := fun hnil => by
    have := hbody.length_le
    rw [hnil] at this
    simp [fields, Tree.fields, Tree.entryKinds] at this
  have hyields := hbody.yields (by decide) hne
  refine decode_eq (accepts_fields h hmerge) ?_ ?_
  · have := hbody.length_le
    simp only [Tree.kinds, List.length_cons, List.length_append, List.length_nil]
    rw [String.length_toList] at this
    omega
  · simpa [Tree.kinds] using hyields

/-! ## §4 Files -/

/-- A file can be written where its directory is. -/
theorem exists_writeFile {w : Workspace} {path : String}
    (h : w.hasDirectory (Path.dir path) = true) (text : String) :
    ∃ w', w.writeFile path text = .ok w' := by
  simp only [Workspace.writeFile, h, if_true]
  exact ⟨_, rfl⟩

/-- A file is read back after it was written. -/
theorem readFile_of_writeFile {w w' : Workspace} {path text : String}
    (h : w.writeFile path text = .ok w') : w'.readFile path = .ok text := by
  unfold Workspace.writeFile at h
  split at h
  · cases h
    have hlookup : (w.files.filter (fun f => f.1 ≠ Path.clean path) ++
        [(Path.clean path, text)]).lookup (Path.clean path) = some text := by
      generalize hfiles : w.files.filter (fun f => f.1 ≠ Path.clean path) = files
      have hother : ∀ f ∈ files, f.1 ≠ Path.clean path := fun f hf => by
        rw [← hfiles, List.mem_filter] at hf
        simpa using hf.2
      clear hfiles
      induction files with
      | nil => simp
      | cons f files ih =>
        have hne := hother f List.mem_cons_self
        rw [List.cons_append, List.lookup_cons, beq_eq_false_iff_ne.mpr hne.symm]
        exact ih fun g hg => hother g (List.mem_cons_of_mem _ hg)
    simp only [Workspace.readFile, hlookup]
  · cases h

section Files

variable {r : Report} {directory : String} {w w' : Workspace}

def path (directory : String) : String := Workspace.within directory filePattern

/-- A report is written when its file can be. -/
theorem run_write (h : w.writeFile (path directory) r.render = .ok w') :
    (write (m := StateM Workspace) directory r).run w = (.ok (path directory), w') := by
  have hupdate : (Workspace.update fun w => w.writeFile (path directory) r.render).run w =
      (.ok (), w') := by
    simp only [StateT.run, Workspace.update, h]
  simp only [path] at hupdate
  simp only [write, Host.writeNew, StateT.run_bind, hupdate]
  rfl

/-- A report is read from the text of its file. -/
theorem run_read {file text : String} (h : w.readFile file = .ok text) :
    (read (m := StateM Workspace) file).run w = ((parse text).mapError .content, w) := by
  simp only [read, Host.readFile, StateT.run_bind, StateT.run_get, StateT.run_pure,
    pure_bind, h]
  rfl

/-- A report that is written to a new file is read back from it: the targets in
the same order, and the same counters. -/
theorem read_write (h : r.IsPrintable) (hmerge : "<<" ∉ r.stats.kinds.names)
    (hdirectory : w.hasDirectory (Path.dir (path directory)) = true) :
    ∃ file w' r', (write (m := StateM Workspace) directory r).run w = (.ok file, w') ∧
      (read (m := StateM Workspace) file).run w' = (.ok r', w') ∧
      r'.targets = r.targets ∧ r'.ignored = r.ignored ∧ r'.stats.Same r.stats := by
  obtain ⟨w', hwrite⟩ := exists_writeFile hdirectory r.render
  have hread := run_read (readFile_of_writeFile hwrite)
  rw [parse_render h hmerge] at hread
  exact ⟨path directory, w', _, run_write hwrite, hread, rfl, rfl, rfl, rfl, rfl, rfl, rfl,
    Tally.get?_perm (perm_sortByKey _) h.nodup⟩

end Files

/-- Texts that mean something else where they are written plain. -/
def ambiguous : Report where
  targets :=
    [{ function := "", position := " a: b", instruction := "null", kind := .load,
       helper := Text.ofString "# 'x' \"" }, { function := "~", position := "- 1" }]
  ignored := -1
  stats := { functions := Int64.minValue, kinds := [("no", 2), ("", -3), ("0x1F", 4)] }

theorem read_write_ambiguous :
    ambiguous.IsPrintable ∧ "<<" ∉ ambiguous.stats.kinds.names ∧
    ({} : Workspace).hasDirectory (Path.dir (path "")) = true ∧
    ∃ file w' r', (write (m := StateM Workspace) "" ambiguous).run {} = (.ok file, w') ∧
      (read (m := StateM Workspace) file).run w' = (.ok r', w') ∧
      r'.targets = ambiguous.targets ∧ r'.ignored = -1 ∧ r'.stats.Same ambiguous.stats := by
  have hprintable : ambiguous.IsPrintable := by
    refine ⟨?_, by decide, by decide⟩
    intro t ht
    simp only [ambiguous, List.mem_cons, List.not_mem_nil, or_false] at ht
    rcases ht with rfl | rfl
    · exact ⟨rfl, by decide, by decide, by decide, _, rfl, by decide⟩
    · exact ⟨rfl, by decide, by decide, by decide, "", rfl, by decide⟩
  have hmerge : "<<" ∉ ambiguous.stats.kinds.names := by decide
  have hdirectory : ({} : Workspace).hasDirectory (Path.dir (path "")) = true := by
    decide +kernel
  exact ⟨hprintable, hmerge, hdirectory, read_write hprintable hmerge hdirectory⟩

/-- A counter with the name that merges mappings. -/
def mergeCounter : Report := { stats := { kinds := [("<<", 3)] } }

/-- The file of that counter cannot be read. -/
theorem not_read_write_mergeCounter :
    mergeCounter.IsPrintable ∧
    ∃ file w', (write (m := StateM Workspace) "" mergeCounter).run {} = (.ok file, w') ∧
      (read (m := StateM Workspace) file).run w' = (.error (.content .malformed), w') := by
  have hparse : parse mergeCounter.render = .error .malformed := by decide +kernel
  have hdirectory : ({} : Workspace).hasDirectory (Path.dir (path "")) = true := by
    decide +kernel
  obtain ⟨w', hwrite⟩ := exists_writeFile hdirectory mergeCounter.render
  have hread := run_read (readFile_of_writeFile hwrite)
  rw [hparse] at hread
  exact ⟨⟨nofun, by decide, by decide⟩, _, w', run_write hwrite, hread⟩

end Report

end ArgTaint
