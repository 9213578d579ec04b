/-
ArgTaint.Proofs.Analysis.TargetKinds — which lists of kinds are accepted.

A list of kinds is a text with commas. The names in it are the texts between the
commas, without the white space around them and without the empty ones. A list
is accepted when there is a name and each name is that of a kind; otherwise the
refusal shows the first name that is not, or the whole list when it has none.

  §1 Kinds — the kinds of names, up to the first name that is none.
  §2 Names — how a list is made up of its names.
  §3 Lists — acceptance and refusal, and lists that are written out.
-/
import ArgTaint.Analysis.Target
import ArgTaint.Proofs.Kind
import ArgTaint.Proofs.Text.Space

namespace ArgTaint.TargetKinds

open Text (IsBlank Trims)

variable {list name : Text} {names : List Text} {kinds : List Kind}

/-! ## §1 Kinds -/

def namesOf (kinds : List Kind) : List Text := kinds.map fun k => Text.ofString k.name

def Known (kinds : List Kind) : Prop := ∀ k ∈ kinds, k ∈ Kind.all

/-- Names of kinds in front of a list are read one by one. -/
theorem parseAll_namesOf_append (h : Known kinds) (rest : List Text) :
    parseAll (namesOf kinds ++ rest) = (parseAll rest).map (kinds ++ ·) := by
  induction kinds with
  | nil => cases hrest : parseAll rest <;> simp [namesOf, Except.map, hrest]
  | cons k kinds ih =>
    obtain ⟨hk, hkinds⟩ := List.forall_mem_cons.mp h
    have first : Kind.parse (Text.ofString k.name) = .ok k := Kind.parse_eq_ok_iff.mpr ⟨hk, rfl⟩
    rw [namesOf, List.map_cons, List.cons_append, parseAll, first, ← namesOf]
    dsimp only
    rw [ih hkinds]
    cases parseAll rest <;> rfl

theorem parseAll_namesOf (h : Known kinds) : parseAll (namesOf kinds) = .ok kinds := by
  have := parseAll_namesOf_append h []
  rwa [List.append_nil, parseAll, Except.map, List.append_nil] at this

/-- The first name that is none decides, whatever follows. -/
theorem parseAll_namesOf_append_cons (h : Known kinds) (hname : ¬ Kind.IsName name)
    (rest : List Text) : parseAll (namesOf kinds ++ name :: rest) = .error ⟨name⟩ := by
  have refused : Kind.parse name = .error ⟨name⟩ := Kind.parse_eq_error_iff.mpr ⟨hname, rfl⟩
  rw [parseAll_namesOf_append h, parseAll, refused]
  rfl

/-- Texts that are all names of kinds are the names of some kinds. -/
theorem exists_namesOf_eq (h : ∀ name ∈ names, Kind.IsName name) :
    ∃ kinds, Known kinds ∧ names = namesOf kinds := by
  induction names with
  | nil => exact ⟨[], fun k hk => absurd hk List.not_mem_nil, rfl⟩
  | cons name names ih =>
    obtain ⟨⟨k, hk, rfl⟩, hnames⟩ := List.forall_mem_cons.mp h
    obtain ⟨kinds, hkinds, rfl⟩ := ih hnames
    exact ⟨k :: kinds, List.forall_mem_cons.mpr ⟨hk, hkinds⟩, rfl⟩

/-- All texts are names, or there is a first one that is none. -/
theorem forall_isName_or_exists_first (names : List Text) :
    (∀ name ∈ names, Kind.IsName name) ∨ ∃ before name after,
      names = before ++ name :: after ∧ (∀ n ∈ before, Kind.IsName n) ∧ ¬ Kind.IsName name := by
  induction names with
  | nil => exact .inl fun name hname => absurd hname List.not_mem_nil
  | cons name names ih =>
    by_cases hname : Kind.IsName name
    · obtain hnames | ⟨before, stranger, after, rfl, hbefore, hstranger⟩ := ih
      · exact .inl (List.forall_mem_cons.mpr ⟨hname, hnames⟩)
      · exact .inr ⟨name :: before, stranger, after, rfl,
          List.forall_mem_cons.mpr ⟨hname, hbefore⟩, hstranger⟩
    · exact .inr ⟨[], name, names, rfl, fun n hn => absurd hn List.not_mem_nil, hname⟩

/-! ## §2 Names -/

/-- The names that a list is made up of. -/
def Names (list : Text) (names : List Text) : Prop :=
  ∃ pieces cores, pieces ≠ [] ∧ list = [.char ','].intercalate pieces ∧
    (∀ piece ∈ pieces, .char ',' ∉ piece) ∧ List.Forall₂ Trims pieces cores ∧
      names = cores.filter (!·.isEmpty)

theorem forall₂_trims_iff {pieces cores : List Text} :
    List.Forall₂ Trims pieces cores ↔ cores = pieces.map Text.trim := by
  have trims : Trims = fun piece core => Text.trim piece = core := by
    funext piece core
    exact propext Text.trim_eq_iff.symm
  rw [trims, ← List.forall₂_map_left_iff, List.forall₂_eq_eq_eq, eq_comm]

/-- The names of a list are its trimmed pieces, but for the empty ones. -/
theorem names_iff :
    Names list names ↔ names = ((Text.splitOn ',' list).map Text.trim).filter (!·.isEmpty) := by
  simp only [Names, forall₂_trims_iff]
  constructor
  · rintro ⟨pieces, cores, hne, hlist, hpieces, rfl, rfl⟩
    rw [Text.splitOn_eq_iff.mpr ⟨hne, hlist, hpieces⟩]
  · rintro rfl
    obtain ⟨hne, hlist, hpieces⟩ := Text.splitOn_eq_iff.mp (rfl : Text.splitOn ',' list = _)
    exact ⟨_, _, hne, hlist, hpieces, rfl, rfl⟩

/-! ## §3 Lists -/

theorem parse_of_known (hlist : Names list (namesOf kinds)) (hne : kinds ≠ [])
    (h : Known kinds) : parse list = .ok kinds := by
  rw [parse, ← names_iff.mp hlist, parseAll_namesOf h]
  cases kinds with
  | nil => exact absurd rfl hne
  | cons k kinds => rfl

/-- A list without names is refused as a whole. -/
theorem parse_of_names_nil (hlist : Names list []) : parse list = .error (.none list) := by
  rw [parse, ← names_iff.mp hlist]
  rfl

/-- A list is refused for its first name that is of no kind. -/
theorem parse_of_stranger {before after : List Text}
    (hlist : Names list (before ++ name :: after)) (hbefore : ∀ n ∈ before, Kind.IsName n)
    (hname : ¬ Kind.IsName name) : parse list = .error (.unknown ⟨name⟩) := by
  obtain ⟨kinds, hkinds, rfl⟩ := exists_namesOf_eq hbefore
  rw [parse, ← names_iff.mp hlist, parseAll_namesOf_append_cons hkinds hname]

/-- What can become of a list, by its names. -/
theorem parse_cases (hlist : Names list names) :
    (∃ kinds, kinds ≠ [] ∧ Known kinds ∧ names = namesOf kinds ∧ parse list = .ok kinds) ∨
    (names = [] ∧ parse list = .error (.none list)) ∨
    ∃ before name after, names = before ++ name :: after ∧ (∀ n ∈ before, Kind.IsName n) ∧
      ¬ Kind.IsName name ∧ parse list = .error (.unknown ⟨name⟩) := by
  obtain hnames | ⟨before, stranger, after, rfl, hbefore, hstranger⟩ :=
    forall_isName_or_exists_first names
  · obtain ⟨kinds, hkinds, rfl⟩ := exists_namesOf_eq hnames
    by_cases hne : kinds = []
    · subst hne
      exact .inr (.inl ⟨rfl, parse_of_names_nil hlist⟩)
    · exact .inl ⟨kinds, hne, hkinds, rfl, parse_of_known hlist hne hkinds⟩
  · exact .inr (.inr ⟨before, stranger, after, rfl, hbefore, hstranger,
      parse_of_stranger hlist hbefore hstranger⟩)

/-- Accepted are the lists that name kinds only, and at least one. -/
theorem parse_eq_ok_iff (hlist : Names list names) :
    parse list = .ok kinds ↔ kinds ≠ [] ∧ Known kinds ∧ names = namesOf kinds := by
  constructor
  · intro h
    obtain ⟨found, hne, hfound, hnames, hparse⟩ | ⟨-, hparse⟩ | ⟨_, _, _, -, -, -, hparse⟩ :=
      parse_cases hlist
    all_goals
      rw [hparse] at h
      cases h
    exact ⟨hne, hfound, hnames⟩
  · rintro ⟨hne, hkinds, rfl⟩
    exact parse_of_known hlist hne hkinds

/-- Refused are the lists that name nothing, or something that is no kind. -/
theorem parse_eq_error_iff {e : Error} (hlist : Names list names) :
    parse list = .error e ↔ names = [] ∧ e = .none list ∨ ∃ before name after,
      names = before ++ name :: after ∧ (∀ n ∈ before, Kind.IsName n) ∧
        ¬ Kind.IsName name ∧ e = .unknown ⟨name⟩ := by
  constructor
  · intro h
    obtain ⟨_, -, -, -, hparse⟩ | ⟨hnames, hparse⟩ |
      ⟨before, stranger, after, hnames, hbefore, hstranger, hparse⟩ := parse_cases hlist
    all_goals
      rw [hparse] at h
      cases h
    · exact .inl ⟨hnames, rfl⟩
    · exact .inr ⟨before, stranger, after, hnames, hbefore, hstranger, rfl⟩
  · rintro (⟨rfl, rfl⟩ | ⟨before, stranger, after, rfl, hbefore, hstranger, rfl⟩)
    · exact parse_of_names_nil hlist
    · exact parse_of_stranger hlist hbefore hstranger

/-- The texts spell the kinds: each kind by its name with white space around it,
and texts of white space only wherever there are any. -/
inductive Spelled : List Kind → List Text → Prop
  | nil : Spelled [] []
  | blank {kinds : List Kind} {pieces : List Text} {piece : Text} (hpiece : IsBlank piece)
      (rest : Spelled kinds pieces) : Spelled kinds (piece :: pieces)
  | kind {k : Kind} {kinds : List Kind} {pieces : List Text} {left right : Text}
      (hk : k ∈ Kind.all) (hleft : IsBlank left) (hright : IsBlank right)
      (rest : Spelled kinds pieces) :
      Spelled (k :: kinds) ((left ++ (Text.ofString k.name ++ right)) :: pieces)

theorem comma_not_mem_of_isBlank {t : Text} (h : IsBlank t) : .char ',' ∉ t := fun hmem =>
  absurd (h _ hmem) (by decide)

/-- A name has no comma, is not empty and has no white space at its ends. -/
theorem name_plain {k : Kind} (hk : k ∈ Kind.all) :
    .char ',' ∉ Text.ofString k.name ∧ Text.ofString k.name ≠ [] ∧
      (∀ s ∈ (Text.ofString k.name).head?, s.isSpace = false) ∧
      ∀ s ∈ (Text.ofString k.name).getLast?, s.isSpace = false := by
  revert k
  decide

theorem Spelled.known {pieces : List Text} (h : Spelled kinds pieces) : Known kinds := by
  induction h with
  | nil => exact fun k hk => absurd hk List.not_mem_nil
  | blank _ _ ih => exact ih
  | kind hk _ _ _ ih => exact List.forall_mem_cons.mpr ⟨hk, ih⟩

theorem Spelled.comma_not_mem {pieces : List Text} (h : Spelled kinds pieces) :
    ∀ piece ∈ pieces, .char ',' ∉ piece := by
  induction h with
  | nil => exact fun piece hpiece => absurd hpiece List.not_mem_nil
  | blank hpiece _ ih => exact List.forall_mem_cons.mpr ⟨comma_not_mem_of_isBlank hpiece, ih⟩
  | kind hk hleft hright _ ih =>
    refine List.forall_mem_cons.mpr ⟨?_, ih⟩
    simp only [List.mem_append, not_or]
    exact ⟨comma_not_mem_of_isBlank hleft, (name_plain hk).1, comma_not_mem_of_isBlank hright⟩

theorem Spelled.trim_eq {pieces : List Text} (h : Spelled kinds pieces) :
    (pieces.map Text.trim).filter (!·.isEmpty) = namesOf kinds := by
  induction h with
  | nil => rfl
  | @blank kinds pieces piece hpiece _ ih =>
    have : Text.trim piece = [] := Text.trim_eq_of_trims
      ⟨⟨piece, [], by simp, hpiece, fun s hs => absurd hs List.not_mem_nil⟩, by simp, by simp⟩
    rw [List.map_cons, this]
    exact ih
  | @kind k kinds pieces left right hk hleft hright _ ih =>
    obtain ⟨-, hne, hfirst, hlast⟩ := name_plain hk
    have : Text.trim (left ++ (Text.ofString k.name ++ right)) = Text.ofString k.name :=
      Text.trim_eq_of_trims ⟨⟨left, right, rfl, hleft, hright⟩, hfirst, hlast⟩
    rw [List.map_cons, this, List.filter_cons_of_pos (by simpa using hne), ih]
    rfl

/-- Texts that spell kinds make up a list of their names. -/
theorem Spelled.names_intercalate {pieces : List Text} (h : Spelled kinds pieces)
    (hne : kinds ≠ []) : Names ([.char ','].intercalate pieces) (namesOf kinds) := by
  have hpieces : pieces ≠ [] := by
    rintro rfl
    cases h
    exact hne rfl
  exact ⟨pieces, _, hpieces, rfl, h.comma_not_mem, forall₂_trims_iff.mpr rfl, h.trim_eq.symm⟩

/-- **Which lists of kinds are accepted.** A list has its names. It gives some
kinds exactly when there are any, they are of the enumeration and its names are
theirs, in order. It is refused exactly when it has no name, with a message that
shows the list, or when a name is none of a kind, with a message that shows the
first such name. So kinds are read back from a list of their names with commas
between them, whatever the white space around the names and the empty names. -/
theorem parse_eq_ok_iff_names (list : Text) :
    ∃ names, (∀ names', Names list names' ↔ names' = names) ∧
      (∀ kinds, parse list = .ok kinds ↔
        kinds ≠ [] ∧ (∀ k ∈ kinds, k ∈ Kind.all) ∧
          names = kinds.map fun k => Text.ofString k.name) ∧
      (∀ e, parse list = .error e ↔
        (names = [] ∧ e = .none list ∧
          e.message = "invalid -target-kinds: no kind in " ++ list.quote) ∨
        ∃ before name after, names = before ++ name :: after ∧
          (∀ n ∈ before, Kind.IsName n) ∧ ¬ Kind.IsName name ∧ e = .unknown ⟨name⟩ ∧
            e.message = "invalid -target-kinds: unknown instruction kind " ++ name.quote) ∧
      ∀ kinds pieces, kinds ≠ [] → Spelled kinds pieces →
        list = [.char ','].intercalate pieces → parse list = .ok kinds := by
  refine ⟨_, fun names' => names_iff, fun kinds => parse_eq_ok_iff (names_iff.mpr rfl),
    fun e => ?_, ?_⟩
  · rw [parse_eq_error_iff (names_iff.mpr rfl)]
    constructor
    · rintro (⟨hnames, rfl⟩ | ⟨before, name, after, hnames, hbefore, hname, rfl⟩)
      · exact .inl ⟨hnames, rfl, rfl⟩
      · exact .inr ⟨before, name, after, hnames, hbefore, hname, rfl, rfl⟩
    · rintro (⟨hnames, he, -⟩ | ⟨before, name, after, hnames, hbefore, hname, he, -⟩)
      · exact .inl ⟨hnames, he⟩
      · exact .inr ⟨before, name, after, hnames, hbefore, hname, he⟩
  · rintro kinds pieces hne hspelled rfl
    exact parse_of_known (hspelled.names_intercalate hne) hne hspelled.known

/-- Texts that spell three kinds, one of them twice, with white space of several
sorts and two empty texts. -/
def untidy : List Text :=
  [.ofString "\u00a0load ", [], .ofString " get-element-pointer\n", .ofString "\u2003",
    .ofString "load"]

/-- The kinds are read from the untidy list; of two names that are none, the
first one is shown. -/
theorem parse_eq_ok_iff_names_untidy :
    Spelled [.load, .getElementPointer, .load] untidy ∧
      parse ([.char ','].intercalate untidy) = .ok [.load, .getElementPointer, .load] ∧
      Names (.ofString "store, tele port,move") [.ofString "store", .ofString "tele port",
        .ofString "move"] ∧
      parse (.ofString "store, tele port,move") =
        .error (.unknown ⟨.ofString "tele port"⟩) := by
  have spelled : Spelled [.load, .getElementPointer, .load] untidy :=
    @Spelled.kind .load _ _ (.ofString "\u00a0") (.ofString " ") (by decide) (by decide)
      (by decide) <| .blank (by decide) <|
    @Spelled.kind .getElementPointer _ _ (.ofString " ") (.ofString "\n") (by decide)
      (by decide) (by decide) <| .blank (by decide) <|
    @Spelled.kind .load _ _ [] [] (by decide) (by decide) (by decide) .nil
  have names : Names (.ofString "store, tele port,move") [.ofString "store",
      .ofString "tele port", .ofString "move"] := names_iff.mpr (by decide)
  obtain ⟨_, -, -, -, written⟩ := parse_eq_ok_iff_names ([.char ','].intercalate untidy)
  obtain ⟨_, unique, -, refused, -⟩ := parse_eq_ok_iff_names (.ofString "store, tele port,move")
  obtain rfl := (unique _).mp names
  refine ⟨spelled, written _ _ (by decide) spelled rfl, names, ?_⟩
  refine (refused _).mpr (.inr ⟨[.ofString "store"], _, _, rfl, ?_, ?_, rfl, rfl⟩)
  · unfold Kind.IsName
    decide
  · unfold Kind.IsName
    decide

end ArgTaint.TargetKinds
