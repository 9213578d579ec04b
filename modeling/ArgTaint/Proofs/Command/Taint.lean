/-
ArgTaint.Proofs.Command.Taint — the settings that the taint command analyses
with.

The options of the command override the helper and the kinds of the targets,
and may ask for a report. Each stage keeps settings valid, so those that reach
the analysis are.

  §1 Stages   — what the options override.
  §2 Settings — from the file to the analysis.
-/
import ArgTaint.Command.Taint
import ArgTaint.Proofs.Analysis.TargetKinds
import ArgTaint.Proofs.Config
import Mathlib.Control.Monad.Basic

namespace ArgTaint

namespace Command

variable {o : TaintOptions} {c d : Config}

/-! ## §1 Stages -/

/-- Options that are accepted keep settings valid. -/
theorem valid_of_override (h : c.Valid) (hoverride : override o c = .ok d) : d.Valid := by
  unfold override at hoverride
  dsimp only at hoverride
  have hhelper :
      (if o.helper = "" then c else { c with helper := Text.ofString o.helper }).Valid := by
    split
    · exact h
    · next hne =>
      refine ⟨⟨h.level, h.kinds_ne_nil, h.kinds_mem, ?_⟩, h.reports⟩
      simpa [Text.ofString] using hne
  split at hoverride
  · cases hoverride
    exact hhelper
  · split at hoverride
    · next kinds hkinds =>
      cases hoverride
      obtain ⟨hne, hknown, -⟩ :=
        (TargetKinds.parse_eq_ok_iff (TargetKinds.names_iff.mpr rfl)).mp hkinds
      exact ⟨⟨hhelper.level, hne, hknown, hhelper.helper_ne_nil⟩, hhelper.reports⟩
    · cases hoverride

section Host

variable {σ : Type} {s t : σ}

/-- A command that succeeds succeeds step by step. -/
theorem exists_of_run_bind {α β : Type} {x : Run (StateM σ) α}
    {f : α → Run (StateM σ) β} {b : β} (hrun : (x >>= f).run.run s = (.ok b, t)) :
    ∃ a u, x.run.run s = (.ok a, u) ∧ (f a).run.run u = (.ok b, t) := by
  rw [ExceptT.run_bind] at hrun
  exact Config.exists_of_run_bind hrun fun e u => ⟨e, rfl⟩

theorem run_orFail {ε α : Type} (wrap : ε → Failure) (step : StateM σ (Except ε α)) :
    (orFail wrap step).run = (step >>= fun answer => pure (answer.mapError wrap)) := by
  unfold orFail
  rw [ExceptT.run_bind, ExceptT.run_liftM, bind_map_left]
  congr 1
  funext answer
  cases answer <;> rfl

/-- A step that did not make a command fail gave its answer. -/
theorem run_of_orFail {ε α : Type} {wrap : ε → Failure} {step : StateM σ (Except ε α)} {a : α}
    (hrun : (orFail wrap step).run.run s = (.ok a, t)) : step.run s = (.ok a, t) := by
  rw [run_orFail] at hrun
  obtain ⟨a', u, hstep, hrun⟩ := Config.exists_of_run_bind hrun fun e u => ⟨_, rfl⟩
  cases hrun
  exact hstep

variable [Host (StateM σ)]

/-- Turning on the report keeps settings valid. -/
theorem valid_of_enableReport (h : c.Valid)
    (hrun : (enableReport o c : Run (StateM σ) Config).run.run s = (.ok d, t)) : d.Valid := by
  unfold enableReport at hrun
  split at hrun
  · split at hrun
    · cases hrun
    · next hdir =>
      obtain ⟨_, u, -, hrun⟩ := exists_of_run_bind hrun
      cases hrun
      exact ⟨⟨h.level, h.kinds_ne_nil, h.kinds_mem, h.helper_ne_nil⟩, fun _ => hdir⟩
  · cases hrun
    exact h

/-! ## §2 Settings -/

/-- The settings with which the taint command goes on are valid. -/
theorem valid_of_taintSettings (names : Config.NamesDirectories σ)
    (hrun : (taintSettings o : Run (StateM σ) Config).run.run s = (.ok c, t)) : c.Valid := by
  unfold taintSettings at hrun
  obtain ⟨chosen, u, hchoose, hrun⟩ := exists_of_run_bind hrun
  obtain ⟨overridden, v, hoverride, hrun⟩ := exists_of_run_bind hrun
  have hvalid := Config.valid_of_choose names (run_of_orFail hchoose)
  cases ho : override o chosen with
  | error e =>
    rw [ho] at hoverride
    cases hoverride
  | ok d =>
    rw [ho] at hoverride
    cases hoverride
    exact valid_of_enableReport (valid_of_override hvalid ho) hrun

/-- The analysis goes on with the settings. -/
theorem run_runTaint (colors : Bool) (o : TaintOptions) (s : σ) :
    (runTaint colors o : Run (StateM σ) Unit).run.run s =
      match (taintSettings o : Run (StateM σ) Config).run.run s with
      | (.ok c, u) => (taintWith colors o c : Run (StateM σ) Unit).run.run u
      | (.error e, u) => (.error e, u) := by
  unfold runTaint
  rw [ExceptT.run_bind, StateT.run_bind]
  cases (taintSettings o : Run (StateM σ) Config).run.run s with
  | mk answer u => cases answer <;> rfl

end Host

/-- **Settings are valid wherever they are used.** For every text, whatever the
files and the options are: the settings of a text have a log level from 1 to 5,
at least one kind of target, kinds of the enumeration only, and a helper. The
settings of a file, those that the common options choose, and those with which
the taint command analyses have, besides, a directory of reports when targets
are reported. The command analyses with these settings, or fails as they do. -/
theorem taintSettings_valid (w : Workspace) (o : TaintOptions) :
    (∀ text c, Config.parse text = .ok c → c.Sound) ∧
    (∀ path c w', (Config.load path : StateM Workspace _).run w = (.ok c, w') → c.Valid) ∧
    (∀ c w', (Config.choose o.config o.verbose o.exclude : StateM Workspace _).run w =
      (.ok c, w') → c.Valid) ∧
    (∀ c w', (taintSettings o : Run (StateM Workspace) Config).run.run w = (.ok c, w') →
      c.Valid ∧ ∀ colors, (runTaint colors o : Run (StateM Workspace) Unit).run.run w =
        (taintWith colors o c : Run (StateM Workspace) Unit).run.run w') ∧
    ∀ e w', (taintSettings o : Run (StateM Workspace) Config).run.run w = (.error e, w') →
      ∀ colors, (runTaint colors o : Run (StateM Workspace) Unit).run.run w =
        (.error e, w') := by
  have names := Workspace.namesDirectories
  refine ⟨fun _ _ => Config.sound_of_parse, fun _ _ _ => Config.valid_of_load names,
    fun _ _ => Config.valid_of_choose names, fun c w' hrun => ?_, fun e w' hrun colors => ?_⟩
  · refine ⟨valid_of_taintSettings names hrun, fun colors => ?_⟩
    rw [run_runTaint, hrun]
  · rw [run_runTaint, hrun]

/-- Settings with nulls and an empty helper, and with reports but no directory
for them. -/
def sparseSettings : String :=
  "options:\n  report-targets: true\n  log-level: null\n  exclude-paths: [a, /b]\n" ++
    "target-kinds: [null, store, ~]\nhelper-function: \"\"\n"

/-- A workspace in which a file has these settings. -/
def sparseWorkspace : Workspace where
  files := [("conf/taint.yaml", sparseSettings)]

def sparseOptions : TaintOptions where
  config := "conf/taint.yaml"
  verbose := true
  exclude := ["x.go"]
  targetKinds := " load,, compare"

theorem taintSettings_valid_sparse :
    ∃ c w', (taintSettings sparseOptions : Run (StateM Workspace) Config).run.run
        sparseWorkspace = (.ok c, w') ∧
      c.reportTargets = true ∧ c.reportsDir = "conf/*-report" ∧
      c.targetKinds = [.load, .compare] ∧ c.Valid := by
  have hanswer : ((taintSettings sparseOptions : Run (StateM Workspace) Config).run.run
      sparseWorkspace).1 = .ok
        { targetKinds := [.load, .compare]
          reportsDir := "conf/*-report"
          reportTargets := true
          logLevel := 4
          excludePaths := ["conf/a", "/b", "x.go"]
          sourceFile := "conf/taint.yaml" } := by
    decide +kernel
  obtain ⟨-, -, -, settings, -⟩ := taintSettings_valid sparseWorkspace sparseOptions
  generalize (taintSettings sparseOptions : Run (StateM Workspace) Config).run.run
    sparseWorkspace = answer at hanswer settings ⊢
  obtain ⟨answer, w'⟩ := answer
  obtain rfl := hanswer
  exact ⟨_, w', rfl, rfl, rfl, rfl, (settings _ w' rfl).1⟩

end Command

end ArgTaint
