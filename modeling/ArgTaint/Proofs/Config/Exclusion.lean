/-
ArgTaint.Proofs.Config.Exclusion — what the settings and the command line
exclude.

A relative path of a file of settings is seen from that file first, when the
settings are loaded, and from the working directory later, when the functions of
a program are selected. It is cleaned both times. The outcome is that of joining
and cleaning once, so the functions that are left out are those of the files
that the paths name, or of files below the directories that they name.

  §1 Resolving — what the paths stand for, in one step.
  §2 Files     — the settings that a file gives, and those of the command line.
  §3 Functions — which functions are left out.
-/
import ArgTaint.Analysis.Program
import ArgTaint.Proofs.Config
import ArgTaint.Proofs.Exclusion

namespace ArgTaint

namespace Exclusion

open ArgTaint.Path (CleanAbsolute components isAbsolute clean)

variable {working config p file : String} {entries flags : List String}

/-! ## §1 Resolving -/

/-- What a path in the settings of a file stands for: itself when it is absolute,
otherwise the path seen from the directory of the file, which is seen from the
working directory unless it is absolute. -/
def entryPath (working config p : String) : String :=
  if isAbsolute p then p
  else if isAbsolute config then Path.join [Path.dir config, p]
  else Path.join [working, Path.dir config, p]

theorem dir_ne_empty (config : String) : Path.dir config ≠ "" := Path.clean_ne_empty _

/-- Seeing a path from the file first and from the working directory then is
seeing it from both at once. -/
theorem absolute_join_dir (hworking : isAbsolute working = true) (hp : isAbsolute p = false) :
    Path.absolute working (Path.join [Path.dir config, p]) = entryPath working config p := by
  have hdir := dir_ne_empty config
  have start : isAbsolute (Path.dir config ++ "/" ++ p) = isAbsolute config := by
    rw [String.append_assoc, Path.isAbsolute_append hdir, Path.isAbsolute_dir]
  rw [entryPath, hp, if_neg Bool.false_ne_true, Path.absolute, Path.join_pair hdir,
    Path.isAbsolute_clean, start]
  cases hconfig : isAbsolute config with
  | true => rw [if_pos rfl, if_pos rfl]
  | false =>
    have hne := Path.ne_empty_of_isAbsolute hworking
    rw [if_neg Bool.false_ne_true, if_neg Bool.false_ne_true, Path.join_pair hne,
      Path.clean_append_clean hworking (start.trans hconfig), Path.join_triple hne hdir]

/-- A clean path seen from a working directory is clean and absolute. -/
theorem cleanAbsolute_absolute (hworking : isAbsolute working = true)
    (hp : isAbsolute p = true → clean p = p) : CleanAbsolute (Path.absolute working p) := by
  unfold Path.absolute
  split
  case isTrue h => exact ⟨h, hp h⟩
  case isFalse =>
    have hne := Path.ne_empty_of_isAbsolute hworking
    rw [Path.join_pair hne]
    apply Path.cleanAbsolute_clean
    rw [String.append_assoc, Path.isAbsolute_append hne, hworking]

/-- What a path in settings stands for is clean and absolute. -/
theorem cleanAbsolute_entryPath (hworking : isAbsolute working = true)
    (hp : isAbsolute p = true → clean p = p) : CleanAbsolute (entryPath working config p) := by
  cases h : isAbsolute p with
  | true =>
    rw [entryPath, if_pos h]
    exact ⟨h, hp h⟩
  | false =>
    rw [← absolute_join_dir hworking h, Path.join_pair (dir_ne_empty config)]
    exact cleanAbsolute_absolute hworking fun habsolute =>
      (Path.cleanAbsolute_clean ((Path.isAbsolute_clean _).symm.trans habsolute)).clean_eq

/-- The file is one that the paths of the settings in a file and the paths of
the command line name, or is below a directory that they name. -/
def Excludes (working config : String) (entries flags : List String) (file : String) : Prop :=
  (∃ p ∈ entries, Matches (entryPath working config p) file) ∨
    ∃ p ∈ flags, Matches (Path.absolute working p) file

instance (working config : String) (entries flags : List String) (file : String) :
    Decidable (Excludes working config entries flags file) :=
  inferInstanceAs (Decidable (_ ∨ _))

theorem isExcluded_iff_exists_covers {excluded : List String} (hfile : file ≠ "") :
    isExcluded excluded file = true ↔ ∃ q ∈ excluded, covers q file = true := by
  simp [isExcluded, hfile]

/-- Of clean absolute paths, those cover a file that are the file or above it.
-/
theorem exists_covers_map_iff {resolve : String → String} (hfile : CleanAbsolute file)
    (hne : components file ≠ []) (h : ∀ p ∈ entries, CleanAbsolute (resolve p)) :
    (∃ q ∈ entries.map resolve, covers q file = true) ↔
      ∃ p ∈ entries, Matches (resolve p) file := by
  simp only [List.mem_map, exists_exists_and_eq_and]
  exact exists_congr fun p => and_congr_right fun hp => covers_iff_matches (h p hp) hfile hne

/-- The paths are resolved in one step, and match by components. -/
theorem isExcluded_located_iff (c : Config) (config : String)
    (hworking : isAbsolute working = true)
    (hpaths : ∀ p ∈ c.excludePaths ++ flags, isAbsolute p = true → clean p = p)
    (hfile : CleanAbsolute file) (hne : components file ≠ []) :
    isExcluded (absolute working ((c.located config).excludePaths ++ flags)) file = true ↔
      Excludes working config c.excludePaths flags file := by
  obtain ⟨hentries, hflags⟩ := List.forall_mem_append.mp hpaths
  have resolved : (c.located config).excludePaths.map (Path.absolute working) =
      c.excludePaths.map (entryPath working config) := by
    rw [Config.located, List.map_map]
    refine List.map_congr_left fun p _ => ?_
    cases h : isAbsolute p with
    | true => simp [entryPath, Path.absolute, h]
    | false =>
      rw [Function.comp_apply, if_neg (by simp [h])]
      exact absolute_join_dir hworking h
  rw [isExcluded_iff_exists_covers (Path.ne_empty_of_isAbsolute hfile.absolute), absolute,
    List.map_append, resolved]
  simp only [List.mem_append, or_and_right, exists_or]
  rw [exists_covers_map_iff hfile hne fun p hp =>
      cleanAbsolute_entryPath hworking (hentries p hp),
    exists_covers_map_iff hfile hne fun p hp =>
      cleanAbsolute_absolute hworking (hflags p hp), Excludes]

end Exclusion

/-! ## §2 Files -/

namespace Config

variable {σ : Type} {s t : σ} [Host (StateM σ)] {path : String} {c : Config}

/-- The settings as the text of a file has them, with its paths as they are
written; the defaults when no file is named. -/
inductive Given (path : String) (s : σ) : Config → Prop
  | none (hpath : path = "") : Given path s standard
  | file {text : String} {t : σ} {raw : Config} (hpath : path ≠ "")
      (hread : (Host.readFile path : StateM σ (Except FileError String)).run s = (.ok text, t))
      (hparse : parse text = .ok raw) : Given path s raw

/-- Preparing the reports leaves the excluded paths alone. -/
theorem excludePaths_of_prepareReports {d : Config}
    (hrun : (c.prepareReports : StateM σ _).run s = (.ok d, t)) :
    d.excludePaths = c.excludePaths := by
  unfold prepareReports at hrun
  split at hrun
  · obtain ⟨directory, u, -, hrun⟩ := exists_of_run_bind hrun fun e u => ⟨_, rfl⟩
    cases hrun
    rfl
  · obtain ⟨_, u, -, hrun⟩ := exists_of_run_bind hrun fun e u => ⟨_, rfl⟩
    cases hrun
    rfl

/-- The excluded paths of loaded settings are those of the file, seen from it.
-/
theorem excludePaths_of_load (hpath : path ≠ "")
    (hrun : (load path : StateM σ _).run s = (.ok c, t)) :
    ∃ raw, Given path s raw ∧ c.excludePaths = (raw.located path).excludePaths := by
  unfold load at hrun
  obtain ⟨text, u, hread, hrun⟩ := exists_of_run_bind hrun fun e u => ⟨_, rfl⟩
  dsimp only at hrun
  split at hrun
  · cases hrun
  · next raw hparse =>
    refine ⟨raw, .file hpath hread hparse, ?_⟩
    split at hrun
    · exact excludePaths_of_prepareReports hrun
    · cases hrun
      rfl

/-- The command line adds its paths to those of the file. -/
theorem excludePaths_of_choose {verbose : Bool} {flags : List String}
    (hrun : (choose path verbose flags : StateM σ _).run s = (.ok c, t)) :
    ∃ raw, Given path s raw ∧ c.excludePaths = (raw.located path).excludePaths ++ flags := by
  unfold choose at hrun
  dsimp only at hrun
  split at hrun
  · next hpath =>
    cases hrun
    exact ⟨standard, .none hpath, rfl⟩
  · next hpath =>
    obtain ⟨loaded, u, hload, hrun⟩ := exists_of_run_bind hrun fun e u => ⟨_, rfl⟩
    cases hrun
    obtain ⟨raw, hgiven, hpaths⟩ := excludePaths_of_load hpath hload
    exact ⟨raw, hgiven, by rw [← hpaths]; rfl⟩

end Config

/-! ## §3 Functions -/

theorem Ssa.Program.mem_selected {p : Ssa.Program} {c : Config} {working : String}
    {f : Ssa.Function} :
    f ∈ p.selected c working ↔ f ∈ p.functions ∧ c.selects f = true ∧
      Exclusion.isExcluded (Exclusion.absolute working c.excludePaths) f.file = false := by
  simp [selected, sorted, List.mem_mergeSort]

namespace Config

open Exclusion ArgTaint.Path

/-- **What is excluded.** When the settings are loaded from a file and the
command line, seen from a clean working directory, a function of a file with a
clean name is excluded exactly when a path of the file of settings or of the
command line, resolved in one step, is that of its file or of a directory above
it; and the functions of a program that are analysed are those that the filter
selects and that are not excluded. -/
theorem isExcluded_choose_iff_excludes {σ : Type} [Host (StateM σ)] {s t : σ}
    {path : String} {verbose : Bool} {flags : List String} {c : Config}
    (hrun : (choose path verbose flags : StateM σ _).run s = (.ok c, t)) :
    ∃ raw, Given path s raw ∧ ∀ working, CleanAbsolute working →
      (∀ p ∈ raw.excludePaths ++ flags, isAbsolute p = true → clean p = p) →
      ∀ f : Ssa.Function, CleanAbsolute f.file → components f.file ≠ [] →
        (isExcluded (Exclusion.absolute working c.excludePaths) f.file = true ↔
          Excludes working path raw.excludePaths flags f.file) ∧
        ∀ program : Ssa.Program, f ∈ program.selected c working ↔
          f ∈ program.functions ∧ c.selects f = true ∧
            ¬ Excludes working path raw.excludePaths flags f.file := by
  obtain ⟨raw, hgiven, hpaths⟩ := excludePaths_of_choose hrun
  refine ⟨raw, hgiven, fun working hworking hclean f hfile hne => ?_⟩
  have excluded := isExcluded_located_iff raw path hworking.absolute hclean hfile hne
  rw [← hpaths] at excluded
  refine ⟨excluded, fun program => ?_⟩
  rw [Ssa.Program.mem_selected, ← excluded, Bool.not_eq_true]

/-- Settings in a directory of their own, with paths that leave it. -/
def strayingSettings : String :=
  "options:\n  exclude-paths: [../gen, ../../x.go, /opt/src]\n"

def strayingWorkspace : Workspace where
  files := [("conf/taint.yaml", strayingSettings)]
  working := "/home/u"

/-- A function of a file. -/
def declaredIn (file : String) : Ssa.Function where
  fullName := "p.f"
  name := "f"
  position := some ⟨file, 1, 1⟩

/-- A function of a file below an excluded directory is left out, one of a
directory whose name begins in the same way is not. -/
theorem isExcluded_choose_iff_excludes_straying :
    ∃ c w', (choose "conf/taint.yaml" false ["vendor/./y/"] : StateM Workspace _).run
        strayingWorkspace = (.ok c, w') ∧
      c.excludePaths = ["gen", "../x.go", "/opt/src", "vendor/./y/"] ∧
      isExcluded (Exclusion.absolute "/home/u" c.excludePaths) "/home/u/gen/a/b.go" = true ∧
      isExcluded (Exclusion.absolute "/home/u" c.excludePaths) "/home/u/generic/b.go" = false ∧
      isExcluded (Exclusion.absolute "/home/u" c.excludePaths) "/home/x.go" = true := by
  have hanswer : ((choose "conf/taint.yaml" false ["vendor/./y/"] : StateM Workspace _).run
      strayingWorkspace).1 = .ok
        { excludePaths := ["gen", "../x.go", "/opt/src", "vendor/./y/"],
          sourceFile := "conf/taint.yaml" } := by
    decide +kernel
  have htext : ((Host.readFile "conf/taint.yaml" : StateM Workspace _).run
      strayingWorkspace).1 = .ok strayingSettings := by
    decide +kernel
  have hsettings : parse strayingSettings =
      .ok { excludePaths := ["../gen", "../../x.go", "/opt/src"] } := by
    decide +kernel
  cases hrun : (choose "conf/taint.yaml" false ["vendor/./y/"] : StateM Workspace _).run
      strayingWorkspace with
  | mk answer w' =>
    obtain rfl : answer = _ := hrun ▸ hanswer
    obtain ⟨raw, hgiven, excludes⟩ := isExcluded_choose_iff_excludes hrun
    obtain rfl : raw = { excludePaths := ["../gen", "../../x.go", "/opt/src"] } := by
      cases hgiven with
      | none hpath => exact absurd hpath (by decide)
      | file _ hread hparse =>
        rw [hread] at htext
        cases htext
        rw [hsettings] at hparse
        exact (Except.ok.inj hparse).symm
    have files := fun file => excludes "/home/u" ⟨rfl, by decide⟩ (by decide) (declaredIn file)
    refine ⟨_, w', rfl, rfl, ?_, ?_, ?_⟩
    · exact (files "/home/u/gen/a/b.go" ⟨rfl, by decide⟩ (by decide)).1.mpr (by decide +kernel)
    · rw [Bool.eq_false_iff, ne_eq]
      exact (files "/home/u/generic/b.go" ⟨rfl, by decide⟩ (by decide)).1.not.mpr
        (by decide +kernel)
    · exact (files "/home/x.go" ⟨rfl, by decide⟩ (by decide)).1.mpr (by decide +kernel)

end Config

end ArgTaint
