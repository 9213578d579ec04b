/-
ArgTaint.Proofs.Config.Verbosity — what the verbose option changes.

The option sets the level of the log to that of debugging. Two loads of the same
settings, one with the option and one without it, are compared run by run: they
fail together, and otherwise the settings differ in the level, and in the random
part of the name of a directory of reports that is made for the occasion. The
level is raised unless the settings ask for traces; then it is lowered, and the
traces are lost.

  §1 Two runs     — a judgement on pairs of runs.
  §2 Surroundings — surroundings that answer alike.
  §3 Loading      — two loads of the same settings.
  §4 Log          — what the option adds to a log, and what it takes away.
-/
import ArgTaint.Analysis.Program
import ArgTaint.Proofs.Config

namespace ArgTaint

/-! ## §1 Two runs -/

section Related

variable {σ α β γ δ : Type} {P : σ → σ → Prop} {Q : α × σ → β × σ → Prop}
  {S : γ × σ → δ × σ → Prop}

/-- From states that `P` relates, the two runs end in answers and states that `Q`
relates. -/
def Related (P : σ → σ → Prop) (x : StateM σ α) (y : StateM σ β)
    (Q : α × σ → β × σ → Prop) : Prop :=
  ∀ s t, P s t → Q (x.run s) (y.run t)

/-- Related runs can be followed by related runs. -/
theorem Related.bind {x : StateM σ α} {y : StateM σ β} {f : α → StateM σ γ} {g : β → StateM σ δ}
    (hx : Related P x y Q)
    (hf : ∀ a b, Related (fun s t => Q (a, s) (b, t)) (f a) (g b) S) :
    Related P (x >>= f) (y >>= g) S := by
  intro s t h
  rw [StateT.run_bind, StateT.run_bind]
  exact hf _ _ _ _ (hx s t h)

end Related

/-! ## §2 Surroundings -/

/-- The path of a new thing in a directory: its name is a random part, in which
no slash is, and a fixed end. -/
def IsNewPath (directory ending path : String) : Prop :=
  ∃ random : String, '/' ∉ random.toList ∧ path = Workspace.within directory (random ++ ending)

/-- States that `R` relates answer alike: files read the same, directories can be
made in both or in neither, and a new directory gets the same path up to the
random part of its name. -/
structure Host.Alike {σ : Type} [Host (StateM σ)] (R : σ → σ → Prop) : Prop where
  readFile : ∀ path, Related R (Host.readFile path) (Host.readFile path)
    fun p q => p.1 = q.1 ∧ R p.2 q.2
  makeDirectory : ∀ path, Related R (Host.makeDirectory path) (Host.makeDirectory path)
    fun p q => p.1 = q.1
  makeNewDirectory : ∀ directory ending, '*' ∉ ending.toList →
    Related R (Host.makeNewDirectory directory ("*" ++ ending))
      (Host.makeNewDirectory directory ("*" ++ ending)) fun p q =>
        (∃ e e', p.1 = .error e ∧ q.1 = .error e') ∨
        ∃ path path', p.1 = .ok path ∧ q.1 = .ok path' ∧
          IsNewPath directory ending path ∧ IsNewPath directory ending path'

/-- Surroundings in memory, with what is drawn for the random part of a name. It
is free in each directory. -/
structure DrawnWorkspace where
  workspace : Workspace
  drawn : String

namespace DrawnWorkspace

/-- Do what the surroundings in memory do. -/
def lift {α : Type} (x : StateM Workspace α) : StateM DrawnWorkspace α := fun s =>
  ((x.run s.workspace).1, { s with workspace := (x.run s.workspace).2 })

/-- A name after a pattern, in which a star stands for the random part. -/
def fill (drawn pattern : String) : String :=
  String.ofList (pattern.toList.flatMap fun c => if c = '*' then drawn.toList else [c])

/-- Make a directory with a new name in a directory that is there. -/
def makeNewDirectory (directory pattern : String) :
    StateM DrawnWorkspace (Except FileError String) := fun s =>
  let path := Workspace.within directory (fill s.drawn pattern)
  if s.workspace.hasDirectory directory then
    let directories := s.workspace.directories ++ [Path.clean path]
    (.ok path, { s with workspace := { s.workspace with directories := directories } })
  else (.error (s.workspace.missing "mkdir" path), s)

instance : Host (StateM DrawnWorkspace) where
  readFile path := lift (Host.readFile path)
  writeFile path text := lift (Host.writeFile path text)
  writeNew directory pattern text := do
    let s ← get
    lift (Host.writeNew directory (fill s.drawn pattern) text)
  makeDirectory path := lift (Host.makeDirectory path)
  makeNewDirectory := makeNewDirectory
  print text := lift (Host.print text)
  printError text := lift (Host.printError text)
  load packages := lift (Host.load packages)
  working := lift Host.working
  elapsed decimals := lift (Host.elapsed decimals)

/-- The star of a pattern gives way to what is drawn. -/
theorem fill_star {ending : String} (drawn : String) (h : '*' ∉ ending.toList) :
    fill drawn ("*" ++ ending) = drawn ++ ending := by
  have hending : (ending.toList.flatMap fun c => if c = '*' then drawn.toList else [c]) =
      ending.toList := by
    rw [List.flatMap_congr (g := fun c => [c]), List.flatMap_singleton']
    intro c hc
    rw [if_neg]
    rintro rfl
    exact h hc
  simp [fill, hending]

/-- The files are the same, and what is drawn is part of a name. -/
def Alike (s t : DrawnWorkspace) : Prop :=
  s.workspace = t.workspace ∧ '/' ∉ s.drawn.toList ∧ '/' ∉ t.drawn.toList

/-- What is done in memory alone keeps states alike. -/
theorem related_lift {α : Type} (x : StateM Workspace α) :
    Related Alike (lift x) (lift x) fun p q => p.1 = q.1 ∧ Alike p.2 q.2 := by
  rintro ⟨w, drawn⟩ ⟨w', drawn'⟩ ⟨hworkspace, hs, ht⟩
  obtain rfl : w = w' := hworkspace
  exact ⟨rfl, rfl, hs, ht⟩

theorem host_alike : Host.Alike Alike where
  readFile path := related_lift (Host.readFile path)
  makeDirectory path s t h := (related_lift (Host.makeDirectory path) s t h).1
  makeNewDirectory directory ending hending := by
    rintro ⟨w, drawn⟩ ⟨w', drawn'⟩ ⟨rfl, hs, ht⟩
    simp only [Host.makeNewDirectory, makeNewDirectory, StateT.run, fill_star _ hending]
    split
    · exact .inr ⟨_, _, rfl, rfl, ⟨drawn, hs, rfl⟩, ⟨drawn', ht, rfl⟩⟩
    · exact .inl ⟨_, _, rfl, rfl⟩

end DrawnWorkspace

/-! ## §3 Loading -/

namespace Config

variable {c d : Config} {path : String}

/-- The directory of reports was made for the settings of the file at the
path. -/
def IsFreshDir (path directory : String) : Prop := IsNewPath (Path.dir path) "-report" directory

/-- The directories of reports are the same, or both were made for the
occasion. -/
def SameReports (path : String) (c d : Config) : Prop :=
  c.reportsDir = d.reportsDir ∨
    d.reportTargets = true ∧ IsFreshDir path c.reportsDir ∧ IsFreshDir path d.reportsDir

/-- What two loads of the file at the path give: the same failure, or no new
directory in both; or settings that are the same up to the names of new
directories. -/
inductive LoadedAlike (path : String) : Except LoadError Config → Except LoadError Config → Prop
  | failed (e : LoadError) : LoadedAlike path (.error e) (.error e)
  | noDirectory (e e' : FileError) :
    LoadedAlike path (.error (.newDirectory e)) (.error (.newDirectory e'))
  | loaded {c d : Config} (sound : d.Sound) (eq : c = { d with reportsDir := c.reportsDir })
    (reports : SameReports path c d) : LoadedAlike path (.ok c) (.ok d)

theorem LoadedAlike.refl (sound : c.Sound) : LoadedAlike path (.ok c) (.ok c) :=
  .loaded sound rfl (.inl rfl)

section Host

variable {σ : Type} [Host (StateM σ)] {R : σ → σ → Prop}

/-- From states that answer alike, reports are prepared alike. -/
theorem related_prepareReports (alike : Host.Alike R) (sound : c.Sound)
    (reports : c.reportTargets = true) (hpath : c.sourceFile = path) :
    Related R c.prepareReports c.prepareReports fun p q => LoadedAlike path p.1 q.1 := by
  unfold prepareReports
  split
  · refine (alike.makeNewDirectory _ "-report" (by decide)).bind fun a b s t h => ?_
    rw [hpath] at h
    rcases h with ⟨e, e', rfl, rfl⟩ | ⟨directory, directory', rfl, rfl, fresh, fresh'⟩
    · exact .noDirectory e e'
    · refine .loaded ?_ rfl (.inr ⟨reports, fresh, fresh'⟩)
      exact ⟨sound.level, sound.kinds_ne_nil, sound.kinds_mem, sound.helper_ne_nil⟩
  · refine (alike.makeDirectory _).bind fun a b s t h => ?_
    obtain rfl : a = b := h
    cases a with
    | error e => exact .failed _
    | ok _ => exact .refl sound

/-- From states that answer alike, settings are loaded alike. -/
theorem related_load (alike : Host.Alike R) (path : String) :
    Related R (load path) (load path) fun p q => LoadedAlike path p.1 q.1 := by
  unfold load
  refine (alike.readFile path).bind fun a b s t h => ?_
  obtain ⟨hab, hst⟩ := h
  obtain rfl : a = b := hab
  cases a with
  | error e => exact .failed _
  | ok text =>
    dsimp only
    cases hparse : parse text with
    | error e => exact .failed _
    | ok c =>
      have sound := (sound_of_parse hparse).located path
      dsimp only
      split
      · next reports => exact related_prepareReports alike sound reports rfl s t hst
      · exact .refl sound

/-- The settings before the command line adds to them. -/
theorem run_choose (path : String) (verbose : Bool) (exclude : List String) (s : σ) :
    ((choose path verbose exclude : StateM σ _).run s).1 =
      ((if path = "" then pure (.ok standard) else load path : StateM σ _).run s).1.map
        (·.extend verbose exclude) := by
  unfold choose
  split <;> rfl

end Host

/-! ## §4 Log -/

/-- At debug level all is shown but traces. -/
theorem threshold_le_debugLevel_iff (l : Log.Level) :
    l.threshold ≤ debugLevel ↔ l ≠ .trace := by
  cases l <;> decide

/-- What is shown at some level is shown at that of debugging, traces apart. -/
theorem shows_debugLevel_iff {g : Log.Group} {l : Log.Level} (h : g.shows l = true) :
    ({ g with level := debugLevel } : Log.Group).shows l = true ↔ l ≠ .trace := by
  rw [← threshold_le_debugLevel_iff]
  simp_all [Log.Group.shows]

theorem visible_sublist_iff (g : Log.Group) (entries : List Log.Entry) :
    (g.visible entries).Sublist (({ g with level := debugLevel } : Log.Group).visible entries) ↔
      ∀ e ∈ g.visible entries, e.level ≠ .trace := by
  constructor
  · intro h e he
    have hdebug := (List.mem_filter.mp (h.subset he)).2
    exact (shows_debugLevel_iff (List.mem_filter.mp he).2).mp hdebug
  · intro h
    -- Without traces, what is shown is a filter of what is shown for debugging.
    have hfilter : g.visible entries =
        (({ g with level := debugLevel } : Log.Group).visible entries).filter
          fun e => g.shows e.level := by
      unfold Log.Group.visible
      rw [List.filter_filter]
      refine List.filter_congr fun e he => ?_
      cases hshown : g.shows e.level with
      | false => rfl
      | true =>
        have hlevel := h e (List.mem_filter.mpr ⟨he, hshown⟩)
        rw [(shows_debugLevel_iff hshown).mpr hlevel, Bool.and_self]
    rw [hfilter]
    exact List.filter_sublist

/-- The settings `c` are the settings `d` with the verbose option. -/
structure VerboseOf (path : String) (c d : Config) : Prop where
  /-- The level is that of debugging, and otherwise only the directories of
  reports may differ. -/
  eq : c = { d with logLevel := debugLevel, reportsDir := c.reportsDir }
  reports : SameReports path c d
  /-- The option raises the level, unless it is that of traces. -/
  level : d.logLevel ≤ c.logLevel ↔ d.logLevel ≠ Log.Level.trace.threshold
  /-- An analysis finds the same, and says the same, with both. -/
  analyze : ∀ (p : Ssa.Program) (directives : Directives) (working elapsed : String)
    (workers : Int), p.analyze c directives working elapsed workers =
      p.analyze d directives working elapsed workers
  /-- The log without the option is part of the log with it, just when no trace
  is in it. -/
  log : ∀ entries : List Log.Entry,
    (d.logGroup.visible entries).Sublist (c.logGroup.visible entries) ↔
      ∀ e ∈ d.logGroup.visible entries, e.level ≠ .trace

theorem verboseOf_extend (sound : d.Sound) (eq : c = { d with reportsDir := c.reportsDir })
    (reports : SameReports path c d) (exclude : List String) :
    VerboseOf path (c.extend true exclude) (d.extend false exclude) where
  eq := by
    rw [eq]
    rfl
  reports := reports
  level := by
    have hlevel := sound.level
    simp only [extend, debugLevel, Log.Level.threshold, if_true, Bool.false_eq_true, if_false]
    omega
  analyze p directives working elapsed workers := by
    rw [eq]
    rfl
  log entries := by
    have hgroup :
        (c.extend true exclude).logGroup = { d.logGroup with level := debugLevel } := by
      rw [eq]
      rfl
    rw [hgroup]
    exact visible_sublist_iff d.logGroup entries

theorem LoadedAlike.extend {a b : Except LoadError Config} (h : LoadedAlike path a b)
    (exclude : List String) :
    (∃ e e', a.map (·.extend true exclude) = .error e ∧
      b.map (·.extend false exclude) = .error e' ∧
      (e = e' ∨ ∃ f f', e = .newDirectory f ∧ e' = .newDirectory f')) ∨
    ∃ c d, a.map (·.extend true exclude) = .ok c ∧ b.map (·.extend false exclude) = .ok d ∧
      VerboseOf path c d := by
  cases h with
  | failed e => exact .inl ⟨e, e, rfl, rfl, .inl rfl⟩
  | noDirectory e e' => exact .inl ⟨_, _, rfl, rfl, .inr ⟨e, e', rfl, rfl⟩⟩
  | loaded sound eq reports =>
    exact .inr ⟨_, _, rfl, rfl, verboseOf_extend sound eq reports exclude⟩

/-- **The verbose option raises the level of the log, unless it is that of
traces.** For all surroundings that answer alike, every path of settings and all
excluded paths: settings are chosen with the option just when they are chosen
without it. They are the same but for the level, which is that of debugging, and
the random part of the name of a directory for reports. The option raises the
level if and only if it is not that of traces, and keeps the lines of a log if
and only if none of them is a trace. -/
theorem choose_verbose {σ : Type} [Host (StateM σ)] {R : σ → σ → Prop} (alike : Host.Alike R)
    {s t : σ} (hst : R s t) (path : String) (exclude : List String) :
    let verbose := ((choose path true exclude : StateM σ _).run s).1
    let quiet := ((choose path false exclude : StateM σ _).run t).1
    (∃ e e', verbose = .error e ∧ quiet = .error e' ∧
      (e = e' ∨ ∃ f f', e = .newDirectory f ∧ e' = .newDirectory f')) ∨
    ∃ c d, verbose = .ok c ∧ quiet = .ok d ∧ VerboseOf path c d := by
  intro verbose quiet
  have hloaded : LoadedAlike path
      ((if path = "" then pure (.ok standard) else load path : StateM σ _).run s).1
      ((if path = "" then pure (.ok standard) else load path : StateM σ _).run t).1 := by
    split
    · exact .refl valid_standard.toSound
    · exact related_load alike path s t hst
  rw [show verbose = _ from run_choose path true exclude s,
    show quiet = _ from run_choose path false exclude t]
  exact hloaded.extend exclude

/-- A workspace with settings that ask for warnings only, and for reports
without a directory. -/
def terseWorkspace : Workspace where
  files := [("conf/taint.yaml",
    "options:\n  log-level: 2\n  report-targets: true\n  exclude-paths: [a]\n")]

/-- The surroundings draw different names for the two runs. -/
theorem choose_verbose_terse :
    DrawnWorkspace.Alike ⟨terseWorkspace, "17"⟩ ⟨terseWorkspace, "4"⟩ ∧
    ∃ c d, ((choose "conf/taint.yaml" true ["x.go"] : StateM DrawnWorkspace _).run
        ⟨terseWorkspace, "17"⟩).1 = .ok c ∧
      ((choose "conf/taint.yaml" false ["x.go"] : StateM DrawnWorkspace _).run
        ⟨terseWorkspace, "4"⟩).1 = .ok d ∧
      c.reportsDir = "conf/17-report" ∧ d.reportsDir = "conf/4-report" ∧
      c.logLevel = 4 ∧ d.logLevel = 2 ∧ VerboseOf "conf/taint.yaml" c d := by
  have halike : DrawnWorkspace.Alike ⟨terseWorkspace, "17"⟩ ⟨terseWorkspace, "4"⟩ :=
    ⟨rfl, by decide, by decide⟩
  have hverbose : ((choose "conf/taint.yaml" true ["x.go"] : StateM DrawnWorkspace _).run
      ⟨terseWorkspace, "17"⟩).1 = .ok
        { reportsDir := "conf/17-report", reportTargets := true, logLevel := 4,
          excludePaths := ["conf/a", "x.go"], sourceFile := "conf/taint.yaml" } := by
    decide +kernel
  have hquiet : ((choose "conf/taint.yaml" false ["x.go"] : StateM DrawnWorkspace _).run
      ⟨terseWorkspace, "4"⟩).1 = .ok
        { reportsDir := "conf/4-report", reportTargets := true, logLevel := 2,
          excludePaths := ["conf/a", "x.go"], sourceFile := "conf/taint.yaml" } := by
    decide +kernel
  refine ⟨halike, _, _, hverbose, hquiet, rfl, rfl, rfl, rfl, ?_⟩
  rcases choose_verbose DrawnWorkspace.host_alike halike "conf/taint.yaml" ["x.go"] with
    ⟨e, e', hfailed, -⟩ | ⟨c, d, hc, hd, hcd⟩
  · cases hverbose.symm.trans hfailed
  · cases hverbose.symm.trans hc
    cases hquiet.symm.trans hd
    exact hcd

/-- A workspace with settings that ask for traces. -/
def traceWorkspace : Workspace where
  files := [("taint.yaml", "options:\n  log-level: 5\n")]

/-- The verbose option can lower the level of the log. -/
theorem not_choose_verbose_raises :
    ¬ ∀ (w : Workspace) (path : String) (exclude : List String) (c d : Config),
      ((choose path true exclude : StateM Workspace _).run w).1 = .ok c →
      ((choose path false exclude : StateM Workspace _).run w).1 = .ok d →
      d.logLevel ≤ c.logLevel := by
  intro h
  have hverbose : ((choose "taint.yaml" true [] : StateM Workspace _).run traceWorkspace).1 =
      .ok { logLevel := 4, sourceFile := "taint.yaml" } := by
    decide +kernel
  have hquiet : ((choose "taint.yaml" false [] : StateM Workspace _).run traceWorkspace).1 =
      .ok { logLevel := 5, sourceFile := "taint.yaml" } := by
    decide +kernel
  exact absurd (h traceWorkspace "taint.yaml" [] _ _ hverbose hquiet) (by decide)

end Config

end ArgTaint
