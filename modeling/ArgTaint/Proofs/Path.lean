/-
ArgTaint.Proofs.Path — clean paths and their components.

A path is its elements with slashes between them. Cleaning goes through the
elements from the left and keeps a stack: an empty element or `.` changes
nothing, `..` takes back what is on top, anything else is kept. The clean
absolute paths are the paths from the root through components, which are the
elements that are kept as they are. A relative path may be cleaned before it is
joined to an absolute one: the two lead to the same place.

  §1 Elements    — paths as lists of elements.
  §2 Resolving   — which elements are kept.
  §3 Clean paths — what cleaning leaves of absolute and relative paths.
  §4 Joining     — one path after another.
-/
import ArgTaint.Path
import ArgTaint.Proofs.Text.Space
import Mathlib.Data.List.DropRight

namespace ArgTaint.Path

variable {p q : String} {e : List Char} {es fs kept : List (List Char)}

/-! ## §1 Elements -/

/-- Elements are the pieces between slashes. -/
theorem elements_eq_splitOn (cs : List Char) : elements cs = List.splitOn '/' cs := by
  induction cs with
  | nil => rfl
  | cons c cs ih =>
    rw [elements, List.splitOn_cons_eq_if_modifyHead, ← ih]
    by_cases hc : c = '/'
    · rw [if_pos hc, if_pos (beq_iff_eq.mpr hc)]
    · rw [if_neg hc, if_neg (fun h => hc (beq_iff_eq.mp h))]
      cases helements : elements cs with
      | nil => exact absurd (ih ▸ helements) (List.splitOn_ne_nil _ _)
      | cons e es => rfl

theorem joinElements_cons (hes : es ≠ []) :
    joinElements (e :: es) = e ++ '/' :: joinElements es := by
  cases es with
  | nil => exact absurd rfl hes
  | cons f es => rfl

theorem joinElements_eq_intercalate (es : List (List Char)) :
    joinElements es = ['/'].intercalate es := by
  induction es with
  | nil => rfl
  | cons e es ih =>
    by_cases hes : es = []
    · subst hes
      exact List.intercalate_singleton.symm
    · rw [joinElements_cons hes, List.intercalate_cons_of_ne_nil hes, ih, List.append_assoc,
        List.singleton_append]

theorem elements_ne_nil (cs : List Char) : elements cs ≠ [] := by
  rw [elements_eq_splitOn]
  exact List.splitOn_ne_nil _ _

/-- Joining the elements of a text gives it back. -/
theorem joinElements_elements (cs : List Char) : joinElements (elements cs) = cs := by
  rw [elements_eq_splitOn, joinElements_eq_intercalate, List.intercalate_splitOn]

/-- Elements without slashes are those of their join. -/
theorem elements_joinElements (hne : es ≠ []) (h : ∀ e ∈ es, '/' ∉ e) :
    elements (joinElements es) = es := by
  rw [elements_eq_splitOn, joinElements_eq_intercalate, List.splitOn_intercalate _ h hne]

theorem elements_append_slash (a b : List Char) :
    elements (a ++ '/' :: b) = elements a ++ elements b := by
  simp only [elements_eq_splitOn, List.splitOn_append_cons_self]

theorem slash_not_mem_of_mem_elements {cs : List Char} : ∀ e ∈ elements cs, '/' ∉ e := by
  rw [elements_eq_splitOn]
  exact Text.not_mem_of_mem_splitOn

theorem joinElements_append (hes : es ≠ []) (hfs : fs ≠ []) :
    joinElements (es ++ fs) = joinElements es ++ '/' :: joinElements fs := by
  induction es with
  | nil => exact absurd rfl hes
  | cons e es ih =>
    by_cases hes : es = []
    · subst hes
      exact joinElements_cons hfs
    · rw [List.cons_append, joinElements_cons (List.append_ne_nil_of_left_ne_nil hes fs),
        ih hes, joinElements_cons hes, List.append_assoc, List.cons_append]

/-- A path and a slash begin another path when the elements of the first one
begin those of the other one, and the other one has more of them. -/
theorem append_slash_prefix_iff {a b : List Char} :
    a ++ ['/'] <+: b ↔ elements a <+: elements b ∧ elements a ≠ elements b := by
  constructor
  · rintro ⟨rest, rfl⟩
    rw [List.append_assoc, List.singleton_append, elements_append_slash]
    refine ⟨List.prefix_append _ _, fun h => ?_⟩
    exact elements_ne_nil rest (List.append_right_eq_self.mp h.symm)
  · rintro ⟨⟨rest, hrest⟩, hne⟩
    have hrest_ne : rest ≠ [] := by
      rintro rfl
      exact hne (by rw [← hrest, List.append_nil])
    refine ⟨joinElements rest, ?_⟩
    calc a ++ ['/'] ++ joinElements rest
        = joinElements (elements a) ++ '/' :: joinElements rest := by
          rw [joinElements_elements, List.append_assoc, List.singleton_append]
      _ = joinElements (elements b) := by
          rw [← joinElements_append (elements_ne_nil a) hrest_ne, hrest]
      _ = b := joinElements_elements b

/-! ## §2 Resolving -/

/-- The stack after one more element. -/
def push (rooted : Bool) (kept : List (List Char)) (e : List Char) : List (List Char) :=
  if e = [] ∨ e = ['.'] then kept
  else if e = ['.', '.'] then
    match kept with
    | [] => if rooted then [] else [e]
    | k :: more => if k = ['.', '.'] then e :: kept else more
  else e :: kept

theorem resolve_cons (rooted : Bool) (kept : List (List Char)) (e : List Char)
    (es : List (List Char)) :
    resolve rooted kept (e :: es) = resolve rooted (push rooted kept e) es := by
  rw [resolve.eq_def]
  unfold push
  dsimp only
  split
  · rfl
  · split
    · cases kept with
      | nil => cases rooted <;> rfl
      | cons k more =>
        dsimp only
        split <;> rfl
    · rfl

/-- Resolving is pushing element by element. -/
theorem resolve_eq_foldl (rooted : Bool) (es kept : List (List Char)) :
    resolve rooted kept es = (es.foldl (push rooted) kept).reverse := by
  induction es generalizing kept with
  | nil => rfl
  | cons e es ih => rw [resolve_cons, ih, List.foldl_cons]

/-- What is resolved already can be resolved again with the rest. -/
theorem resolve_append (rooted : Bool) (kept es fs : List (List Char)) :
    resolve rooted kept (es ++ fs) = resolve rooted (resolve rooted kept es).reverse fs := by
  simp only [resolve_eq_foldl, List.foldl_append, List.reverse_reverse]

/-- What is neither empty nor `.`. -/
def Proper (e : List Char) : Prop := e ≠ [] ∧ e ≠ ['.']

/-- A component: an element that is kept as it is, whatever is before it. -/
structure Plain (e : List Char) : Prop where
  proper : Proper e
  ne_dots : e ≠ ['.', '.']
  no_slash : '/' ∉ e

theorem push_of_proper (h : Proper e) (hdots : e ≠ ['.', '.']) (rooted : Bool) :
    push rooted kept e = e :: kept := by
  unfold push
  rw [if_neg (not_or.mpr h), if_neg hdots]

theorem push_of_not_proper (h : ¬ Proper e) (rooted : Bool) : push rooted kept e = kept :=
  if_pos (by simpa [Proper, or_iff_not_imp_left] using h)

/-- `..` takes back what is on top. -/
theorem push_dots_of_ne {top : List Char} (h : top ≠ ['.', '.']) (rooted : Bool) :
    push rooted (top :: kept) ['.', '.'] = kept := by
  simp [push, h]

theorem push_dots_dots (rooted : Bool) :
    push rooted (['.', '.'] :: kept) ['.', '.'] = ['.', '.'] :: ['.', '.'] :: kept := by
  simp [push]

/-- One more element is kept, or is not and everything else was there. -/
theorem mem_push {rooted : Bool} {k : List Char} (h : k ∈ push rooted kept e) :
    k ∈ kept ∨ k = e ∧ Proper e ∧ (rooted = true → e = ['.', '.'] → ['.', '.'] ∈ kept) := by
  unfold push at h
  split at h
  · exact .inl h
  · next hproper =>
    have hproper : Proper e := not_or.mp hproper
    split at h
    · next hdots =>
      cases kept with
      | nil =>
        cases rooted with
        | true => exact absurd h List.not_mem_nil
        | false => exact .inr ⟨List.mem_singleton.mp h, hproper, fun h => by cases h⟩
      | cons top more =>
        dsimp only at h
        split at h
        · next htop =>
          rcases List.mem_cons.mp h with rfl | hk
          · exact .inr ⟨rfl, hproper, fun _ _ => htop ▸ List.mem_cons_self⟩
          · exact .inl hk
        · exact .inl (List.mem_cons_of_mem top h)
    · next hdots =>
      rcases List.mem_cons.mp h with rfl | hk
      · exact .inr ⟨rfl, hproper, fun _ h => absurd h hdots⟩
      · exact .inl hk

/-- What is kept has each property that the elements which may be kept have. From
the root, `..` is not kept unless one is on the stack. -/
theorem forall_mem_foldl_push {P : List Char → Prop} {rooted : Bool}
    (hes : ∀ e ∈ es, Proper e → (rooted = true → e = ['.', '.'] → P ['.', '.']) → P e)
    (hkept : ∀ k ∈ kept, P k) : ∀ k ∈ es.foldl (push rooted) kept, P k := by
  induction es generalizing kept with
  | nil => exact hkept
  | cons e es ih =>
    obtain ⟨he, hes⟩ := List.forall_mem_cons.mp hes
    refine ih hes fun k hk => ?_
    obtain hk | ⟨rfl, hproper, hdots⟩ := mem_push hk
    · exact hkept k hk
    · exact he hproper fun hrooted heq => hkept _ (hdots hrooted heq)

theorem forall_mem_resolve {P : List Char → Prop} {rooted : Bool}
    (hes : ∀ e ∈ es, Proper e → (rooted = true → e = ['.', '.'] → P ['.', '.']) → P e) :
    ∀ k ∈ resolve rooted [] es, P k := by
  intro k hk
  rw [resolve_eq_foldl, List.mem_reverse] at hk
  exact forall_mem_foldl_push hes (fun k hk => absurd hk List.not_mem_nil) k hk

theorem proper_of_mem_resolve {rooted : Bool} : ∀ k ∈ resolve rooted [] es, Proper k :=
  forall_mem_resolve fun _ _ hproper _ => hproper

theorem slash_not_mem_of_mem_resolve {rooted : Bool} (hes : ∀ e ∈ es, '/' ∉ e) :
    ∀ k ∈ resolve rooted [] es, '/' ∉ k :=
  forall_mem_resolve fun e he _ _ => hes e he

/-- From the root, only components are kept. -/
theorem plain_of_mem_resolve (hes : ∀ e ∈ es, '/' ∉ e) : ∀ k ∈ resolve true [] es, Plain k :=
  forall_mem_resolve fun e he hproper hdots =>
    ⟨hproper, fun heq => (hdots rfl heq).ne_dots rfl, hes e he⟩

/-- Components stay. -/
theorem foldl_push_of_plain {rooted : Bool} (h : ∀ e ∈ es, Plain e) :
    es.foldl (push rooted) kept = es.reverse ++ kept := by
  induction es generalizing kept with
  | nil => rfl
  | cons e es ih =>
    obtain ⟨he, hes⟩ := List.forall_mem_cons.mp h
    rw [List.foldl_cons, push_of_proper he.proper he.ne_dots, ih hes, List.reverse_cons,
      List.append_assoc, List.singleton_append]

/-- Components are kept as they are. -/
theorem resolve_of_plain {rooted : Bool} (h : ∀ e ∈ es, Plain e) :
    resolve rooted [] es = es := by
  rw [resolve_eq_foldl, foldl_push_of_plain h, List.append_nil, List.reverse_reverse]

/-- From the root, an element leads on from where the elements that a relative
path has kept so far lead to. -/
theorem foldl_push_push {acc : List (List Char)} (hacc : ∀ k ∈ acc, Proper k) (e : List Char) :
    (push false acc e).reverse.foldl (push true) kept =
      push true (acc.reverse.foldl (push true) kept) e := by
  have snoc : ∀ f, (f :: acc).reverse.foldl (push true) kept =
      push true (acc.reverse.foldl (push true) kept) f := fun f => by
    rw [List.reverse_cons, List.foldl_append, List.foldl_cons, List.foldl_nil]
  by_cases hproper : Proper e
  · by_cases hdots : e = ['.', '.']
    · subst hdots
      cases acc with
      | nil => rfl
      | cons top more =>
        by_cases htop : top = ['.', '.']
        · subst htop
          rw [push_dots_dots, snoc]
        · -- the element on top is taken back, here and from the root
          rw [push_dots_of_ne htop, List.reverse_cons, List.foldl_append, List.foldl_cons,
            List.foldl_nil, push_of_proper (hacc top List.mem_cons_self) htop,
            push_dots_of_ne htop]
    · rw [push_of_proper hproper hdots, snoc]
  · rw [push_of_not_proper hproper, push_of_not_proper hproper]

/-- Resolving a path, and then from the root, is resolving it from the root. -/
theorem foldl_push_foldl_push {acc : List (List Char)} (hacc : ∀ k ∈ acc, Proper k) :
    (es.foldl (push false) acc).reverse.foldl (push true) kept =
      es.foldl (push true) (acc.reverse.foldl (push true) kept) := by
  induction es generalizing acc with
  | nil => rfl
  | cons e es ih =>
    have hpush : ∀ k ∈ push false acc e, Proper k :=
      show ∀ k ∈ [e].foldl (push false) acc, Proper k from
        forall_mem_foldl_push (fun _ _ hproper _ => hproper) hacc
    rw [List.foldl_cons, ih hpush, foldl_push_push hacc, List.foldl_cons]

/-- From the root, the elements of a relative path lead to the same place as
what is kept of them. -/
theorem resolve_resolve (kept es : List (List Char)) :
    resolve true kept (resolve false [] es) = resolve true kept es := by
  have hkept : ∀ k ∈ ([] : List (List Char)), Proper k := fun k hk => absurd hk List.not_mem_nil
  simp only [resolve_eq_foldl, foldl_push_foldl_push hkept]
  rfl

/-! ## §3 Clean paths -/

/-- The path from the root through the given components. -/
def rooted (es : List (List Char)) : String := String.ofList ('/' :: joinElements es)

/-- The components of a path: its elements but the empty ones. -/
def components (p : String) : List (List Char) := (elements p.toList).filter (!·.isEmpty)

/-- The path starts at the root and cleaning does not change it. -/
structure CleanAbsolute (p : String) : Prop where
  absolute : isAbsolute p = true
  clean_eq : clean p = p

theorem ne_empty_of_isAbsolute (h : isAbsolute p = true) : p ≠ "" := by
  rintro rfl
  cases h

theorem isAbsolute_rooted (es : List (List Char)) : isAbsolute (rooted es) = true := by
  simp [isAbsolute, rooted]

/-- A clean absolute path leads through what resolving keeps. -/
theorem clean_of_isAbsolute (h : isAbsolute p = true) :
    clean p = rooted (resolve true [] (elements p.toList)) := by
  simp only [clean, h, if_true]
  rfl

theorem elements_rooted (es : List (List Char)) :
    elements (rooted es).toList = [] :: elements (joinElements es) := by
  rw [rooted, String.toList_ofList, elements, if_pos rfl]

theorem elements_rooted_of_plain (hes : es ≠ []) (h : ∀ e ∈ es, Plain e) :
    elements (rooted es).toList = [] :: es := by
  rw [elements_rooted, elements_joinElements hes fun e he => (h e he).no_slash]

/-- A path from the root has the components that it leads through. -/
theorem components_rooted (h : ∀ e ∈ es, Plain e) : components (rooted es) = es := by
  by_cases hes : es = []
  · subst hes
    rfl
  · rw [components, elements_rooted_of_plain hes h, List.filter_cons_of_neg (by simp)]
    refine List.filter_eq_self.mpr fun e he => ?_
    simpa using (h e he).proper.1

/-- A path from the root through components is clean. -/
theorem clean_rooted (h : ∀ e ∈ es, Plain e) : clean (rooted es) = rooted es := by
  rw [clean_of_isAbsolute (isAbsolute_rooted es)]
  by_cases hes : es = []
  · subst hes
    rfl
  · have skip : push true [] [] = [] := rfl
    rw [elements_rooted_of_plain hes h, resolve_cons, skip, resolve_of_plain h]

theorem exists_clean_eq_rooted (h : isAbsolute p = true) :
    ∃ es, (∀ e ∈ es, Plain e) ∧ clean p = rooted es :=
  ⟨_, plain_of_mem_resolve slash_not_mem_of_mem_elements, clean_of_isAbsolute h⟩

/-- The clean absolute paths are those through components. -/
theorem cleanAbsolute_iff :
    CleanAbsolute p ↔ ∃ es, (∀ e ∈ es, Plain e) ∧ p = rooted es := by
  constructor
  · rintro ⟨habsolute, hclean⟩
    rw [← hclean]
    exact exists_clean_eq_rooted habsolute
  · rintro ⟨es, hes, rfl⟩
    exact ⟨isAbsolute_rooted es, clean_rooted hes⟩

/-- Cleaning makes an absolute path clean and absolute. -/
theorem cleanAbsolute_clean (h : isAbsolute p = true) : CleanAbsolute (clean p) :=
  cleanAbsolute_iff.mpr (exists_clean_eq_rooted h)

/-- The relative path through the given elements. -/
def relative (es : List (List Char)) : String :=
  if es = [] then "." else String.ofList (joinElements es)

/-- A clean relative path leads through what resolving keeps. -/
theorem clean_of_not_isAbsolute (h : isAbsolute p = false) :
    clean p = relative (resolve false [] (elements p.toList)) := by
  have hproper : ∀ k ∈ resolve false [] (elements p.toList), Proper k := proper_of_mem_resolve
  simp only [clean, h, relative, if_neg Bool.false_ne_true]
  generalize resolve false [] (elements p.toList) = es at hproper
  cases es with
  | nil => rfl
  | cons e es =>
    have hbody : joinElements (e :: es) ≠ [] := by
      have he : e ≠ [] := (hproper e List.mem_cons_self).1
      cases es with
      | nil => exact he
      | cons f es => simp [joinElements]
    rw [if_neg (by simpa using hbody), if_neg (List.cons_ne_nil e es)]

theorem elements_relative (hes : es ≠ []) (h : ∀ e ∈ es, '/' ∉ e) :
    elements (relative es).toList = es := by
  rw [relative, if_neg hes, String.toList_ofList, elements_joinElements hes h]

/-- A relative path resolves like its elements. -/
theorem resolve_elements_relative (h : ∀ e ∈ es, '/' ∉ e) :
    resolve true kept (elements (relative es).toList) = resolve true kept es := by
  by_cases hes : es = []
  · subst hes
    rfl
  · rw [elements_relative hes h]

/-- A path whose first element is not empty starts elsewhere than at the root. -/
theorem not_isAbsolute_of_elements (h : ∀ rest, elements p.toList ≠ [] :: rest) :
    isAbsolute p = false ∧ p ≠ "" := by
  refine ⟨?_, ?_⟩
  · rw [Bool.eq_false_iff]
    intro habsolute
    obtain ⟨cs, hcs⟩ := List.head?_eq_some_iff.mp (of_decide_eq_true habsolute)
    refine h (elements cs) ?_
    rw [hcs, elements, if_pos rfl]
  · rintro rfl
    exact h [] rfl

theorem not_isAbsolute_relative (hproper : ∀ e ∈ es, Proper e) (hslash : ∀ e ∈ es, '/' ∉ e) :
    isAbsolute (relative es) = false ∧ relative es ≠ "" := by
  refine not_isAbsolute_of_elements fun rest hrest => ?_
  by_cases hes : es = []
  · subst hes
    cases hrest
  · rw [elements_relative hes hslash] at hrest
    exact (hproper [] (hrest ▸ List.mem_cons_self)).1 rfl

/-- A clean path starts where the path does, and is not empty. -/
theorem clean_start (p : String) : isAbsolute (clean p) = isAbsolute p ∧ clean p ≠ "" := by
  cases h : isAbsolute p with
  | true =>
    rw [clean_of_isAbsolute h]
    exact ⟨isAbsolute_rooted _, ne_empty_of_isAbsolute (isAbsolute_rooted _)⟩
  | false =>
    rw [clean_of_not_isAbsolute h]
    exact not_isAbsolute_relative proper_of_mem_resolve
      (slash_not_mem_of_mem_resolve slash_not_mem_of_mem_elements)

/-- Cleaning keeps paths absolute or relative. -/
theorem isAbsolute_clean (p : String) : isAbsolute (clean p) = isAbsolute p := (clean_start p).1

theorem clean_ne_empty (p : String) : clean p ≠ "" := (clean_start p).2

/-! ## §4 Joining -/

theorem toList_append_slash (a b : String) :
    (a ++ "/" ++ b).toList = a.toList ++ '/' :: b.toList := by
  simp

theorem isAbsolute_append {a : String} (ha : a ≠ "") (b : String) :
    isAbsolute (a ++ b) = isAbsolute a := by
  have : a.toList ≠ [] := by simpa using ha
  cases hlist : a.toList with
  | nil => exact absurd hlist this
  | cons c cs => simp [isAbsolute, hlist]

/-- Cleaning goes by where the path starts and which of its elements are kept. -/
theorem clean_congr (hstart : isAbsolute p = isAbsolute q)
    (h : resolve (isAbsolute q) [] (elements p.toList) =
      resolve (isAbsolute q) [] (elements q.toList)) : clean p = clean q := by
  simp only [clean, hstart, h]

theorem clean_append_slash {a : String} (ha : a ≠ "") : clean (a ++ "/" ++ "") = clean a := by
  refine clean_congr ?_ ?_
  · rw [String.append_assoc, isAbsolute_append ha]
  · rw [toList_append_slash, elements_append_slash, resolve_append]
    exact List.reverse_reverse _

/-- Joining two paths cleans one with a slash between them. -/
theorem join_pair {a : String} (ha : a ≠ "") (b : String) :
    join [a, b] = clean (a ++ "/" ++ b) := by
  by_cases hb : b = ""
  · subst hb
    rw [clean_append_slash ha]
    simp [join, ha]
  · simp [join, ha, hb]

theorem join_triple {a b : String} (ha : a ≠ "") (hb : b ≠ "") (c : String) :
    join [a, b, c] = clean (a ++ "/" ++ (b ++ "/" ++ c)) := by
  by_cases hc : c = ""
  · subst hc
    have hab : a ++ "/" ++ b ≠ "" := by simp
    have hjoin : join [a, b, ""] = clean (a ++ "/" ++ b) := by simp [join, ha, hb]
    rw [hjoin, ← clean_append_slash hab]
    simp only [String.append_assoc]
  · simp [join, ha, hb, hc]

/-- Seen from an absolute path, a relative path leads to the same place when it is
cleaned first. -/
theorem clean_append_clean {a b : String} (ha : isAbsolute a = true)
    (hb : isAbsolute b = false) : clean (a ++ "/" ++ clean b) = clean (a ++ "/" ++ b) := by
  have start : ∀ c : String, isAbsolute (a ++ "/" ++ c) = true := fun c => by
    rw [String.append_assoc, isAbsolute_append (ne_empty_of_isAbsolute ha), ha]
  refine clean_congr (by rw [start, start]) ?_
  have slash : ∀ e ∈ resolve false [] (elements b.toList), '/' ∉ e :=
    slash_not_mem_of_mem_resolve slash_not_mem_of_mem_elements
  simp only [start, toList_append_slash, elements_append_slash, resolve_append]
  rw [clean_of_not_isAbsolute hb, resolve_elements_relative slash, resolve_resolve]

theorem isAbsolute_dir (p : String) : isAbsolute (dir p) = isAbsolute p := by
  rw [dir, isAbsolute_clean]
  have hbegins : upToLastSlash p.toList <+: p.toList := List.rdropWhile_prefix _ _
  have hempty : upToLastSlash p.toList = [] ↔ '/' ∉ p.toList := by
    rw [show upToLastSlash p.toList = p.toList.rdropWhile (· ≠ '/') from rfl,
      List.rdropWhile_eq_nil_iff]
    simp only [decide_eq_true_eq]
    exact ⟨fun h hmem => h '/' hmem rfl, fun h c hc heq => h (heq ▸ hc)⟩
  simp only [isAbsolute, String.toList_ofList]
  cases hdir : upToLastSlash p.toList with
  | nil =>
    cases hp : p.toList with
    | nil => rfl
    | cons c cs =>
      have hc : c ≠ '/' := fun h => hempty.mp hdir (by rw [hp, h]; exact List.mem_cons_self)
      simp [hc]
  | cons c cs =>
    obtain ⟨rest, hrest⟩ := hdir ▸ hbegins
    rw [← hrest]
    rfl

end ArgTaint.Path
