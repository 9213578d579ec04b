/-
ArgTaint.Proofs.Config — settings stay within their bounds.

A text may set each setting to anything of its type, and may leave it out or
empty. What is empty gets its default, and a log level out of range is refused;
so settings are sound once they are parsed. Loading adds a directory of reports
where one is needed, and the command line adds verbosity and excluded paths.

  §1 Bounds — `Sound`, and `Valid` with a directory of reports.
  §2 Texts  — what a text can set, and the settings of a text.
  §3 Files  — the settings of a file and of the command line.
-/
import ArgTaint.Config.Load
import ArgTaint.Proofs.Kind
import ArgTaint.Proofs.Yaml.Invariant
import ArgTaint.Workspace

namespace ArgTaint

namespace Config

variable {c d : Config}

/-! ## §1 Bounds -/

/-- The settings that an analysis relies on are within their bounds. -/
structure Sound (c : Config) : Prop where
  level : 1 ≤ c.logLevel ∧ c.logLevel ≤ 5
  kinds_ne_nil : c.targetKinds ≠ []
  kinds_mem : ∀ k ∈ c.targetKinds, k ∈ Kind.all
  helper_ne_nil : c.helper ≠ []

/-- The settings are sound, and there is a directory for the reports that they
ask for. -/
structure Valid (c : Config) : Prop extends Sound c where
  reports : c.reportTargets = true → c.reportsDir ≠ ""

theorem valid_standard : standard.Valid where
  level := by decide
  kinds_ne_nil := by decide
  kinds_mem := by decide
  helper_ne_nil := by decide
  reports h := by cases h

/-! ## §2 Texts -/

/-- The kinds of the targets, if any, are of the enumeration. -/
def KnownKinds (c : Config) : Prop := ∀ k ∈ c.targetKinds, k ∈ Kind.all

/-- A kind that is read is of the enumeration. -/
theorem keeps_kind : Yaml.Reader.kind.Keeps (· ∈ Kind.all) where
  null _ hold := hold
  scalar s text k h := by
    simp only [Yaml.Reader.kind] at h
    split at h
    · next found =>
      cases h
      exact (Kind.parse_eq_ok_iff.mp found).1
    · cases h
  items f hf := by cases hf
  entries f hf := by cases hf

/-- The options have no kinds among them. -/
theorem keeps_optionsRecord : optionsRecord.Keeps KnownKinds := by
  intro name read hread first refs n c hc
  simp only [optionsRecord] at hread
  split at hread <;> cases hread
  all_goals
    refine Yaml.ensures_field ?_ first refs n hc
    exact fun _ _ h => h

/-- Reading settings adds kinds of the enumeration only. -/
theorem keeps_record : record.Keeps KnownKinds := by
  intro name read hread first refs n c hc
  simp only [record] at hread
  split at hread
  · cases hread
    exact keeps_optionsRecord.reader.field (fun _ h => h) (fun _ _ _ h => h) first refs n hc
  · cases hread
    have hunknown : Kind.unknown ∈ Kind.all := by decide
    exact (keeps_kind.list hunknown).field (fun _ h => h) (fun _ _ _ h => h) first refs n hc
  · cases hread
    refine Yaml.ensures_field ?_ first refs n hc
    exact fun _ _ h => h
  · cases hread
    refine Yaml.ensures_field ?_ first refs n hc
    exact fun _ _ h => h
  · cases hread

/-- Settings that pass validation are sound. -/
theorem sound_of_validate (h : c.KnownKinds) (hvalidate : c.validate = .ok d) : d.Sound := by
  unfold validate at hvalidate
  dsimp only at hvalidate
  split at hvalidate
  · next hlevel =>
    cases hvalidate
    refine ⟨hlevel, ?_, ?_, ?_⟩
    · simp only [complete]
      split
      · decide
      · next hne => simpa using hne
    · simp only [complete]
      split
      · decide
      · exact h
    · simp only [complete]
      split
      · decide
      · next hne => simpa using hne
  · cases hvalidate

/-- Whatever a text sets, the settings are sound. -/
theorem sound_of_parse {text : String} (h : parse text = .ok c) : c.Sound := by
  unfold parse at h
  split at h
  · cases h
  · next raw hdecode =>
    have hknown : ({ standard with targetKinds := [] } : Config).KnownKinds :=
      fun k hk => absurd hk List.not_mem_nil
    exact sound_of_validate (keeps_record.reader.decode hknown hdecode) h

/-! ## §3 Files -/

theorem Sound.located (h : c.Sound) (path : String) : (c.located path).Sound :=
  ⟨h.level, h.kinds_ne_nil, h.kinds_mem, h.helper_ne_nil⟩

/-- The command line sets a level within bounds, and neither kinds, helper nor
reports. -/
theorem Valid.extend (h : c.Valid) (verbose : Bool) (exclude : List String) :
    (c.extend verbose exclude).Valid where
  level := by
    cases verbose with
    | false => exact h.level
    | true => exact (by decide : (1 : Int) ≤ debugLevel ∧ debugLevel ≤ 5)
  kinds_ne_nil := h.kinds_ne_nil
  kinds_mem := h.kinds_mem
  helper_ne_nil := h.helper_ne_nil
  reports := h.reports

variable {σ : Type} {s t : σ}

/-- What goes on with the answer of a step, and fails where the step failed,
succeeds only after an answer. -/
theorem exists_of_run_bind {ε δ α β : Type} {x : StateM σ (Except ε α)}
    {f : Except ε α → StateM σ (Except δ β)} {b : β}
    (hrun : (x >>= f).run s = (.ok b, t))
    (fails : ∀ e u, ∃ e', (f (.error e)).run u = (.error e', u)) :
    ∃ a u, x.run s = (.ok a, u) ∧ (f (.ok a)).run u = (.ok b, t) := by
  rw [StateT.run_bind] at hrun
  cases hx : x.run s with
  | mk answer u =>
    rw [hx] at hrun
    cases answer with
    | error e =>
      obtain ⟨e', he⟩ := fails e u
      cases he.symm.trans hrun
    | ok a => exact ⟨a, u, rfl, hrun⟩

/-- The surroundings give a new directory a path. -/
def NamesDirectories (σ : Type) [Host (StateM σ)] : Prop :=
  ∀ (directory pattern path : String) (s t : σ),
    (Host.makeNewDirectory directory pattern : StateM σ (Except FileError String)).run s =
      (.ok path, t) → path ≠ ""

variable [Host (StateM σ)]

/-- Sound settings are valid once there is a directory for reports. -/
theorem valid_of_prepareReports (names : NamesDirectories σ) (h : c.Sound)
    (hrun : (c.prepareReports : StateM σ _).run s = (.ok d, t)) : d.Valid := by
  unfold prepareReports at hrun
  split at hrun
  · obtain ⟨path, u, hmake, hrun⟩ := exists_of_run_bind hrun fun e u => ⟨_, rfl⟩
    cases hrun
    exact ⟨⟨h.level, h.kinds_ne_nil, h.kinds_mem, h.helper_ne_nil⟩,
      fun _ => names _ _ path s _ hmake⟩
  · next hdir =>
    obtain ⟨_, u, -, hrun⟩ := exists_of_run_bind hrun fun e u => ⟨_, rfl⟩
    cases hrun
    exact ⟨h, fun _ => hdir⟩

/-- Settings that could be loaded are valid. -/
theorem valid_of_load (names : NamesDirectories σ) {path : String}
    (hrun : (load path : StateM σ _).run s = (.ok c, t)) : c.Valid := by
  unfold load at hrun
  obtain ⟨text, u, -, hrun⟩ := exists_of_run_bind hrun fun e u => ⟨_, rfl⟩
  dsimp only at hrun
  split at hrun
  · cases hrun
  · next parsed hparse =>
    have hsound := (sound_of_parse hparse).located path
    split at hrun
    · exact valid_of_prepareReports names hsound hrun
    · next hnone =>
      cases hrun
      exact ⟨hsound, fun h => absurd h hnone⟩

/-- Settings that could be chosen are valid, from a file or not. -/
theorem valid_of_choose (names : NamesDirectories σ) {path : String} {verbose : Bool}
    {exclude : List String}
    (hrun : (choose path verbose exclude : StateM σ _).run s = (.ok c, t)) : c.Valid := by
  unfold choose at hrun
  dsimp only at hrun
  split at hrun
  · cases hrun
    exact valid_standard.extend verbose exclude
  · obtain ⟨loaded, u, hload, hrun⟩ := exists_of_run_bind hrun fun e u => ⟨_, rfl⟩
    cases hrun
    exact (valid_of_load names hload).extend verbose exclude

end Config

/-! ### Surroundings in memory -/

theorem Workspace.within_ne_empty (directory name : String) :
    Workspace.within directory name ≠ "" := by
  unfold Workspace.within
  split
  · intro h
    have := congrArg String.toList h
    simp [Workspace.temporary] at this
  · next hne =>
    split
    · intro h
      have := congrArg String.toList h
      simp [hne] at this
    · intro h
      have := congrArg String.toList h
      simp at this

theorem Workspace.namesDirectories : Config.NamesDirectories Workspace := by
  intro directory pattern path w w' hrun
  simp only [Host.makeNewDirectory, StateT.run_bind] at hrun
  generalize (Workspace.update _).run w = made at hrun
  obtain ⟨made, u⟩ := made
  cases made with
  | error e => cases hrun
  | ok _ =>
    cases hrun
    exact Workspace.within_ne_empty directory pattern

end ArgTaint
