/-
ArgTaint.Proofs.Exclusion — which files an excluded path covers.

Covering is a test on texts: a file is its own path, and a directory and a slash
begin the paths of the files below it. On clean absolute paths this is a test on
components, so `/src/p` does not cover the files of `/src/pkg`. A path that is
not clean covers no file with a clean name. That is where a relative path, which
is cleaned, and its absolute spelling, which is taken as it is, differ.

  §1 Covering  — clean paths and the components of files.
  §2 Spellings — relative paths and their absolute spellings.
-/
import ArgTaint.Exclusion
import ArgTaint.Proofs.Path

namespace ArgTaint.Exclusion

open ArgTaint.Path (CleanAbsolute Plain components elements rooted isAbsolute clean)

variable {q file : String}

/-! ## §1 Covering -/

theorem endsWith_iff {s t : String} : s.endsWith t = true ↔ t.toList <:+ s.toList := by
  rw [String.endsWith_eq_endsWith_toSlice, String.Slice.endsWith_string_iff,
    String.copy_toSlice]

/-- The path is the file, or a directory above it. -/
def Matches (q file : String) : Prop :=
  (q.endsWith ".go" = true ∧ file = q) ∨
    (q.endsWith ".go" = false ∧ components q <+: components file ∧
      components q ≠ components file)

instance (q file : String) : Decidable (Matches q file) := inferInstanceAs (Decidable (_ ∨ _))

/-- A file is below a path when the elements of the path start those of the
file. -/
theorem startsWith_slash_iff {a : String} :
    file.startsWith (a ++ "/") = true ↔
      elements a.toList <+: elements file.toList ∧
      elements a.toList ≠ elements file.toList := by
  rw [String.startsWith_string_iff, String.toList_append]
  exact Path.append_slash_prefix_iff

/-- A path of a source file covers that file only. -/
theorem covers_of_file (h : q.endsWith ".go" = true) : covers q file = true ↔ file = q := by
  rw [covers, if_pos h, beq_iff_eq]

/-- A path of a directory covers what is below it. -/
theorem covers_of_directory (hgo : q.endsWith ".go" = false) (hslash : q.endsWith "/" = false) :
    covers q file = file.startsWith (q ++ "/") := by
  rw [covers, hgo, hslash]
  rfl

/-- A slash at the end makes a directory. -/
theorem covers_append_slash (a : String) :
    covers (a ++ "/") file = file.startsWith (a ++ "/") := by
  have hgo : (a ++ "/").endsWith ".go" = false := by
    rw [Bool.eq_false_iff, ne_eq, endsWith_iff]
    rintro ⟨before, h⟩
    have := congrArg List.getLast? h
    simp at this
  have hslash : (a ++ "/").endsWith "/" = true :=
    endsWith_iff.mpr ⟨a.toList, by simp⟩
  rw [covers, hgo, hslash]
  rfl

theorem endsWith_slash_rooted {es : List (List Char)} (hes : es ≠ []) (h : ∀ e ∈ es, Plain e) :
    (rooted es).endsWith "/" = false := by
  rw [Bool.eq_false_iff, ne_eq, endsWith_iff]
  rintro ⟨before, hbefore⟩
  have helements : elements before ++ elements [] = [] :: es := by
    rw [← Path.elements_append_slash, ← Path.elements_rooted_of_plain hes h, ← hbefore]
    rfl
  have hlast : es.getLast? = some [] := by
    have := congrArg List.getLast? helements
    rw [List.getLast?_append] at this
    cases es with
    | nil => exact absurd rfl hes
    | cons e es => simpa [elements] using this.symm
  exact (h [] (List.mem_of_getLast? hlast)).proper.1 rfl

/-- For clean paths, to cover a file is to be it or to be above it. -/
theorem covers_iff_matches (hq : CleanAbsolute q) (hfile : CleanAbsolute file)
    (hne : components file ≠ []) : covers q file = true ↔ Matches q file := by
  obtain ⟨es, hes, rfl⟩ := Path.cleanAbsolute_iff.mp hq
  obtain ⟨fs, hfs, rfl⟩ := Path.cleanAbsolute_iff.mp hfile
  rw [Matches, Path.components_rooted hes, Path.components_rooted hfs]
  rw [Path.components_rooted hfs] at hne
  cases hgo : (rooted es).endsWith ".go" with
  | true => simp [covers_of_file hgo]
  | false =>
    have directory : covers (rooted es) (rooted fs) = true ↔ es <+: fs ∧ es ≠ fs := by
      by_cases hnil : es = []
      · subst hnil
        have root : covers (rooted []) (rooted fs) = (rooted fs).startsWith ("" ++ "/") :=
          covers_append_slash ""
        rw [root, startsWith_slash_iff, Path.elements_rooted_of_plain hne hfs]
        simp [elements, Ne.symm hne]
      · rw [covers_of_directory hgo (endsWith_slash_rooted hnil hes), startsWith_slash_iff,
          Path.elements_rooted_of_plain hne hfs, Path.elements_rooted_of_plain hnil hes]
        simp
    rw [directory]
    simp

/-- Every clean path covers something. -/
theorem exists_covers (hq : CleanAbsolute q) :
    ∃ file, CleanAbsolute file ∧ covers q file = true := by
  obtain ⟨es, hes, rfl⟩ := Path.cleanAbsolute_iff.mp hq
  cases hgo : (rooted es).endsWith ".go" with
  | true => exact ⟨rooted es, hq, (covers_of_file hgo).mpr rfl⟩
  | false =>
    have hx : Plain ['x'] := ⟨⟨by decide, by decide⟩, by decide, by decide⟩
    have hbelow : ∀ e ∈ es ++ [['x']], Plain e := List.forall_mem_append.mpr
      ⟨hes, List.forall_mem_singleton.mpr hx⟩
    have hfile : CleanAbsolute (rooted (es ++ [['x']])) :=
      Path.cleanAbsolute_iff.mpr ⟨_, hbelow, rfl⟩
    refine ⟨rooted (es ++ [['x']]), hfile, (covers_iff_matches hq hfile ?_).mpr (.inr ?_)⟩
    · rw [Path.components_rooted hbelow]
      exact List.append_ne_nil_of_right_ne_nil es (List.cons_ne_nil _ _)
    · rw [Path.components_rooted hbelow, Path.components_rooted hes]
      refine ⟨hgo, List.prefix_append _ _, fun h => ?_⟩
      exact List.cons_ne_nil _ _ (List.append_right_eq_self.mp h.symm)

/-- What begins a clean path up to a slash is nothing at all or clean. -/
theorem clean_of_startsWith_slash {a : String} (hfile : CleanAbsolute file)
    (h : file.startsWith (a ++ "/") = true) : a = "" ∨ clean a = a := by
  obtain ⟨fs, hfs, rfl⟩ := Path.cleanAbsolute_iff.mp hfile
  obtain ⟨⟨rest, hrest⟩, hne⟩ := startsWith_slash_iff.mp h
  have hrest_ne : rest ≠ [] := by
    rintro rfl
    exact hne (by rw [← hrest, List.append_nil])
  have joined : Path.joinElements (elements a.toList) = a.toList := Path.joinElements_elements _
  cases ha : elements a.toList with
  | nil => exact absurd ha (Path.elements_ne_nil _)
  | cons first es =>
    rw [ha, Path.elements_rooted, List.cons_append] at hrest
    obtain ⟨rfl, hes⟩ := List.cons.inj hrest
    by_cases hnil : es = []
    · left
      rw [ha, hnil] at joined
      exact String.toList_inj.mp joined.symm
    · right
      -- the components of the file begin with those of the path
      have hplain : ∀ e ∈ es, Plain e := by
        by_cases hfs_nil : fs = []
        · subst hfs_nil
          rcases List.append_eq_singleton_iff.mp hes with ⟨h, -⟩ | ⟨-, h⟩
          · exact absurd h hnil
          · exact absurd h hrest_ne
        · rw [Path.elements_joinElements hfs_nil fun e he => (hfs e he).no_slash] at hes
          exact fun e he => hfs e (hes ▸ List.mem_append_left rest he)
      have : a = rooted es := by
        rw [ha, Path.joinElements_cons hnil] at joined
        exact String.toList_inj.mp (by rw [← joined, rooted, String.toList_ofList]; rfl)
      rw [this, Path.clean_rooted hplain]

/-! ## §2 Spellings -/

/-- An absolute path that is clean, but for a slash at its end, and is not the
path of a file with such a slash. -/
def Tidy (a : String) : Prop :=
  clean a = a ∨ ∃ b, a = b ++ "/" ∧ clean b = b ∧ b.endsWith ".go" = false

/-- A path that covers a file with a clean name is clean, but for a slash at its
end. -/
theorem clean_of_covers {a : String} (ha : isAbsolute a = true) (hfile : CleanAbsolute file)
    (h : covers a file = true) : clean a = a ∨ ∃ b, a = b ++ "/" ∧ clean b = b := by
  cases hgo : a.endsWith ".go" with
  | true =>
    rw [covers_of_file hgo] at h
    exact .inl (h ▸ hfile.clean_eq)
  | false =>
    cases hslash : a.endsWith "/" with
    | true =>
      obtain ⟨before, hbefore⟩ := endsWith_iff.mp hslash
      obtain rfl : a = String.ofList before ++ "/" := String.toList_inj.mp (by simp [← hbefore])
      rw [covers_append_slash] at h
      obtain hempty | hclean := clean_of_startsWith_slash hfile h
      · left
        rw [hempty]
        decide
      · exact .inr ⟨_, rfl, hclean⟩
    | false =>
      rw [covers_of_directory hgo hslash] at h
      obtain hempty | hclean := clean_of_startsWith_slash hfile h
      · exact absurd hempty (Path.ne_empty_of_isAbsolute ha)
      · exact .inl hclean

theorem absolute_relative {p : String} (hp : isAbsolute p = false) :
    absolute "/" [p] = [clean ("/" ++ p)] := by
  have spelled : clean ("/" ++ "/" ++ p) = clean ("/" ++ p) := by
    refine Path.clean_congr ?_ ?_
    · rw [String.append_assoc, Path.isAbsolute_append (by decide),
        Path.isAbsolute_append (by decide)]
    · rw [Path.toList_append_slash, String.toList_append]
      rfl
  rw [← spelled, ← Path.join_pair (by decide)]
  simp [absolute, Path.absolute, hp]

theorem absolute_of_isAbsolute {a : String} (ha : isAbsolute a = true) (working : String) :
    absolute working [a] = [a] := by
  simp [absolute, Path.absolute, ha]

theorem isExcluded_singleton (hfile : CleanAbsolute file) :
    isExcluded [q] file = covers q file := by
  have : file ≠ "" := Path.ne_empty_of_isAbsolute hfile.absolute
  simp [isExcluded, this]

/-- Cleaning a clean absolute path with a slash at its end takes the slash
away. -/
theorem cleanAbsolute_of_slash {b : String} (ha : isAbsolute (b ++ "/") = true)
    (hclean : clean b = b) : CleanAbsolute b ∧ clean (b ++ "/") = b := by
  have hb : b ≠ "" := hclean ▸ Path.clean_ne_empty b
  have slash := Path.clean_append_slash hb
  rw [String.append_empty, hclean] at slash
  exact ⟨⟨(Path.isAbsolute_append hb "/").symm.trans ha, hclean⟩, slash⟩

/-- A slash at the end does not matter for a directory. -/
theorem covers_clean_eq_of_tidy {a : String} (ha : isAbsolute a = true) (hroot : a ≠ "//")
    (h : Tidy a) (file : String) : covers (clean a) file = covers a file := by
  obtain hclean | ⟨b, rfl, hclean, hgo⟩ := h
  · rw [hclean]
  · obtain ⟨hb, slash⟩ := cleanAbsolute_of_slash ha hclean
    obtain ⟨es, hes, rfl⟩ := Path.cleanAbsolute_iff.mp hb
    have hne : es ≠ [] := by
      rintro rfl
      exact hroot rfl
    rw [slash, covers_of_directory hgo (endsWith_slash_rooted hne hes), covers_append_slash]

/-- When a path and what cleaning makes of it cover the same files with clean
names, the path is tidy. -/
theorem tidy_of_covers_clean_eq {a : String} (ha : isAbsolute a = true)
    (h : ∀ file, CleanAbsolute file → covers (clean a) file = covers a file) : Tidy a := by
  obtain ⟨file, hfile, hcovers⟩ := exists_covers (Path.cleanAbsolute_clean ha)
  obtain hclean | ⟨b, rfl, hclean⟩ := clean_of_covers ha hfile (h file hfile ▸ hcovers)
  · exact .inl hclean
  · refine .inr ⟨b, rfl, hclean, ?_⟩
    obtain ⟨hb, slash⟩ := cleanAbsolute_of_slash ha hclean
    -- with a slash behind it, a file would not cover itself
    rw [Bool.eq_false_iff]
    intro hgo
    have itself : covers b b = true := (covers_of_file hgo).mpr rfl
    have := h b hb
    rw [slash, itself, covers_append_slash] at this
    exact (startsWith_slash_iff.mp this.symm).2 rfl

/-- **A relative path means the same as its clean absolute spelling.** Seen from
the root, a relative path excludes the same files as what cleaning makes of its
absolute spelling. The absolute spelling itself is taken as it is: it excludes
the same files with clean names exactly when it is clean, or is clean but for a
slash at its end and does not spell a file with that slash. -/
theorem isExcluded_relative_eq_spelling (p : String) (hp : isAbsolute p = false) :
    (∀ file, isExcluded (absolute "/" [p]) file =
      isExcluded (absolute "/" [clean ("/" ++ p)]) file) ∧
    ((∀ file, CleanAbsolute file → isExcluded (absolute "/" [p]) file =
        isExcluded (absolute "/" ["/" ++ p]) file) ↔
      clean ("/" ++ p) = "/" ++ p ∨
        ∃ b, "/" ++ p = b ++ "/" ∧ clean b = b ∧ b.endsWith ".go" = false) := by
  have ha : isAbsolute ("/" ++ p) = true := Path.isAbsolute_append (by decide) p
  have hclean : isAbsolute (clean ("/" ++ p)) = true := (Path.isAbsolute_clean _).trans ha
  rw [absolute_relative hp, absolute_of_isAbsolute ha, absolute_of_isAbsolute hclean]
  refine ⟨fun _ => rfl, fun h => tidy_of_covers_clean_eq ha fun file hfile => ?_,
    fun h file hfile => ?_⟩
  · rw [← isExcluded_singleton hfile, ← isExcluded_singleton hfile, h file hfile]
  · have hroot : "/" ++ p ≠ "//" := by
      intro h
      obtain rfl : p = "/" := (String.append_right_inj "/").mp (h.trans (by decide))
      cases hp
    rw [isExcluded_singleton hfile, isExcluded_singleton hfile,
      covers_clean_eq_of_tidy ha hroot h]

/-- A directory with a slash behind it is spelled as it is meant; a path through
the parent directory is not. -/
theorem isExcluded_relative_eq_spelling_directory :
    isAbsolute "src/p/" = false ∧
      (∀ file, CleanAbsolute file → isExcluded (absolute "/" ["src/p/"]) file =
        isExcluded (absolute "/" ["/src/p/"]) file) ∧
      isAbsolute "a/../x.go" = false ∧
      ¬ ∀ file, CleanAbsolute file → isExcluded (absolute "/" ["a/../x.go"]) file =
        isExcluded (absolute "/" ["/a/../x.go"]) file := by
  refine ⟨rfl, ?_, rfl, ?_⟩
  · exact (isExcluded_relative_eq_spelling "src/p/" rfl).2.mpr
      (.inr ⟨"/src/p", by decide, by decide, by decide +kernel⟩)
  · intro h
    obtain hclean | ⟨b, hb, -⟩ := (isExcluded_relative_eq_spelling "a/../x.go" rfl).2.mp h
    · revert hclean
      decide
    · have := congrArg (fun s : String => s.toList.getLast?) hb
      simp at this

/-- A relative path and its absolute spelling differ on a file of the directory
that they name. -/
theorem not_isExcluded_relative_eq_spelling :
    ¬ ∀ p file, isAbsolute p = false → CleanAbsolute file →
      isExcluded (absolute "/" [p]) file = isExcluded (absolute "/" ["/" ++ p]) file := by
  intro h
  have := h "./vendor" "/vendor/x.go" rfl ⟨rfl, by decide⟩
  revert this
  decide +kernel

end ArgTaint.Exclusion
