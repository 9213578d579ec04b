/-
ArgTaint.Proofs.Tally — what a tally counts.

A tally counts the names of a list (`Tally.Counts`) when it has one entry per
name that occurs, with the number of its occurrences. Adding two tallies
counts the names of both lists, and the sum of all entries is the length of
the list, as long as no counter wraps around.

  §1 Entries — one entry per name: `get?` after `upsert` and after `merge`.
  §2 Counts  — counting one name, counting names, adding tallies.
  §3 Sums    — over all the entries and over some of them.
-/
import ArgTaint.Tally
import Mathlib

namespace ArgTaint.Tally

/-! ## §1 Entries -/

/-- The names that have an entry, in the order of the entries. -/
def names (t : Tally) : List String := t.map Prod.fst

theorem names_cons (name : String) (c : Int64) (t : Tally) :
    names ((name, c) :: t) = name :: names t := rfl

theorem get?_cons (name n : String) (c : Int64) (t : Tally) :
    get? ((name, c) :: t) n = if n = name then some c else t.get? n := by
  rw [get?, List.lookup_cons, get?]
  by_cases h : n = name
  · simp [h]
  · rw [if_neg h, beq_eq_false_iff_ne.mpr h]

/-- Only the name itself gets a new counter. -/
theorem get?_upsert (name : String) (fresh : Int64) (image : Int64 → Int64) (t : Tally)
    (n : String) :
    (t.upsert name fresh image).get? n =
      if n = name then some (((t.get? name).map image).getD fresh) else t.get? n := by
  induction t with
  | nil => simp only [upsert, get?_cons]; rfl
  | cons e t ih =>
    obtain ⟨m, c⟩ := e
    simp only [upsert]
    by_cases hm : m = name
    · subst hm
      simp only [if_true, get?_cons]
      by_cases hn : n = m <;> simp [hn]
    · by_cases hn : n = m
      · simp [hm, get?_cons, hn]
      · simp [hm, get?_cons, hn, ih, Ne.symm hm]

/-- A name that is new comes last. -/
theorem names_upsert (name : String) (fresh : Int64) (image : Int64 → Int64) (t : Tally) :
    (t.upsert name fresh image).names =
      if name ∈ t.names then t.names else t.names ++ [name] := by
  induction t with
  | nil => rfl
  | cons e t ih =>
    obtain ⟨m, c⟩ := e
    simp only [upsert]
    by_cases hm : m = name
    · simp [hm, names]
    · have hmem : name ∈ names ((m, c) :: t) ↔ name ∈ names t := by
        rw [names_cons, List.mem_cons, or_iff_right (Ne.symm hm)]
      rw [if_neg hm, names_cons, ih, names_cons]
      simp only [← names_cons m c t, hmem]
      split <;> rfl

theorem nodup_upsert {t : Tally} (h : t.names.Nodup) (name : String) (fresh : Int64)
    (image : Int64 → Int64) : (t.upsert name fresh image).names.Nodup := by
  rw [names_upsert]
  split
  · exact h
  · next hn =>
    rw [← List.concat_eq_append]
    exact List.Nodup.concat hn h

/-- A name has no counter when it has no entry. -/
theorem get?_eq_none {t : Tally} {n : String} : t.get? n = none ↔ n ∉ t.names := by
  induction t with
  | nil => simp [get?, names]
  | cons e t ih =>
    obtain ⟨m, c⟩ := e
    rw [get?_cons, names_cons, List.mem_cons, not_or, ← ih]
    by_cases hn : n = m <;> simp [hn]

theorem get?_of_mem {t : Tally} (h : t.names.Nodup) {n : String} {c : Int64} (hm : (n, c) ∈ t) :
    t.get? n = some c := by
  induction t with
  | nil => cases hm
  | cons e t ih =>
    obtain ⟨m, d⟩ := e
    obtain ⟨hnot, hrest⟩ := List.nodup_cons.mp h
    rw [get?_cons]
    rcases List.mem_cons.mp hm with he | htail
    · cases he
      rw [if_pos rfl]
    · have hne : n ≠ m := by
        rintro rfl
        exact hnot (List.mem_map.mpr ⟨_, htail, rfl⟩)
      rw [if_neg hne]
      exact ih hrest htail

theorem merge_cons (both : Int64 → Int64 → Int64) (a b : Tally) (name : String) (y : Int64) :
    merge both a ((name, y) :: b) = merge both (a.upsert name y (both · y)) b := rfl

theorem nodup_merge (both : Int64 → Int64 → Int64) :
    ∀ (b a : Tally), a.names.Nodup → (merge both a b).names.Nodup := by
  intro b
  induction b with
  | nil => intro a ha; exact ha
  | cons e b ih =>
    intro a ha
    exact ih _ (nodup_upsert ha _ _ _)

/-- A name of both tallies gets `both` of its counters, any other name keeps
the one that it has. -/
theorem get?_merge (both : Int64 → Int64 → Int64) (n : String) :
    ∀ (b a : Tally), b.names.Nodup →
      (merge both a b).get? n = (a.get? n).merge both (b.get? n) := by
  intro b
  induction b with
  | nil => intro a _; exact (Option.merge_none_right).symm
  | cons e b ih =>
    intro a hb
    obtain ⟨m, y⟩ := e
    obtain ⟨hnot, hrest⟩ := List.nodup_cons.mp hb
    rw [merge_cons, ih _ hrest, get?_upsert, get?_cons]
    by_cases hn : n = m
    · subst hn
      have hnone : get? b n = none := get?_eq_none.mpr hnot
      rw [if_pos rfl, if_pos rfl, hnone]
      cases a.get? n <;> rfl
    · rw [if_neg hn, if_neg hn]

/-! ## §2 Counts -/

/-- The tally has an entry for each name that occurs among the given ones, and
its counter is the number of occurrences. -/
structure Counts (t : Tally) (ns : List String) : Prop where
  nodup : t.names.Nodup
  get?_eq : ∀ n, t.get? n = if n ∈ ns then some (.ofNat (ns.count n)) else none

variable {t a b : Tally} {ns ms : List String}

theorem counts_nil : Counts [] [] := ⟨List.nodup_nil, fun _ => rfl⟩

/-- A counter is the number of occurrences. -/
theorem Counts.getD (h : t.Counts ns) (n : String) :
    (t.get? n).getD 0 = .ofNat (ns.count n) := by
  rw [h.get?_eq]
  split
  · rfl
  · next hn => rw [List.count_eq_zero.mpr hn]; rfl

theorem Counts.mem_names (h : t.Counts ns) (n : String) : n ∈ t.names ↔ n ∈ ns := by
  rw [← not_iff_not, ← get?_eq_none, h.get?_eq]
  split <;> simp_all

/-- Counting one more name. -/
theorem Counts.count (h : t.Counts ns) (name : String) :
    (t.count name).Counts (ns ++ [name]) where
  nodup := nodup_upsert h.nodup _ _ _
  get?_eq n := by
    rw [Tally.count, get?_upsert, h.get?_eq, h.get?_eq]
    by_cases hn : n = name
    · subst hn
      have hcount : (ns ++ [n]).count n = ns.count n + 1 := by simp
      have hin : n ∈ ns ++ [n] := by simp
      rw [if_pos rfl, if_pos hin, hcount, Int64.ofNat_add]
      by_cases hm : n ∈ ns
      · rw [if_pos hm]
        rfl
      · rw [if_neg hm, List.count_eq_zero.mpr hm]
        rfl
    · have hcount : (ns ++ [name]).count n = ns.count n := by
        rw [List.count_append, List.count_singleton]
        simp [Ne.symm hn]
      rw [if_neg hn, hcount]
      simp [hn]

/-- Counting further names counts their occurrences too. -/
theorem counts_foldl_count :
    ∀ (ms ns : List String) (t : Tally), t.Counts ns →
      (ms.foldl Tally.count t).Counts (ns ++ ms) := by
  intro ms
  induction ms with
  | nil => intro ns t h; rwa [List.append_nil]
  | cons m ms ih =>
    intro ns t h
    have := ih (ns ++ [m]) (t.count m) (h.count m)
    rwa [List.append_assoc, List.singleton_append] at this

/-- A tally of names counts their occurrences. -/
theorem counts_ofNames (ns : List String) : (ofNames ns).Counts ns :=
  counts_foldl_count ns [] [] counts_nil

/-- The sum of two tallies counts the names of both. -/
theorem Counts.add (ha : a.Counts ns) (hb : b.Counts ms) : (a.add b).Counts (ns ++ ms) where
  nodup := nodup_merge _ b a ha.nodup
  get?_eq n := by
    rw [Tally.add, get?_merge _ n b a hb.nodup, ha.get?_eq, hb.get?_eq, List.count_append,
      Int64.ofNat_add]
    by_cases hn : n ∈ ns <;> by_cases hm : n ∈ ms
    · simp [hn, hm]
    · simp [hn, hm, List.count_eq_zero.mpr hm]
    · simp [hn, hm, List.count_eq_zero.mpr hn]
    · simp [hn, hm]

/-! ## §3 Sums -/

/-- The counters of some names sum up to the occurrences of these names. -/
theorem Counts.sum_getD (h : t.Counts ns) (hlt : ns.length < 2 ^ 63) (l : List String) :
    (l.map fun n => ((t.get? n).getD 0).toInt).sum =
      ((l.map fun n => ns.count n).sum : Nat) := by
  have counters : ∀ n ∈ l, ((t.get? n).getD 0).toInt = (ns.count n : Int) := by
    intro n _
    rw [h.getD]
    exact Int64.toInt_ofNat_of_lt (Nat.lt_of_le_of_lt List.count_le_length hlt)
  rw [List.map_congr_left counters, Nat.cast_list_sum, List.map_map]
  rfl

/-- The entries sum up to the number of names counted. -/
theorem Counts.sum_entries (h : t.Counts ns) (hlt : ns.length < 2 ^ 63) :
    (t.map fun e => e.2.toInt).sum = ns.length := by
  have entries :
      (t.map fun e => e.2.toInt) = t.names.map fun n => ((t.get? n).getD 0).toInt := by
    rw [names, List.map_map]
    refine List.map_congr_left fun e he => ?_
    rw [Function.comp_apply, get?_of_mem h.nodup he, Option.getD_some]
  have perm : t.names.Perm ns.dedup :=
    (List.perm_ext_iff_of_nodup h.nodup ns.nodup_dedup).mpr fun n => by
      rw [h.mem_names, List.mem_dedup]
  rw [entries, h.sum_getD hlt, (perm.map _).sum_eq, List.sum_map_count_dedup_eq_length]

theorem countP_mem_cons {γ : Type} [DecidableEq γ] {k : γ} {ks : List γ} (hk : k ∉ ks)
    (l : List γ) : l.countP (· ∈ k :: ks) = l.count k + l.countP (· ∈ ks) := by
  induction l with
  | nil => rfl
  | cons x l ih =>
    rw [List.countP_cons, List.countP_cons, List.count_cons, ih]
    by_cases hx : x = k
    · subst hx
      simp [hk]
      omega
    · simp [hx]
      omega

/-- The occurrences of distinct elements, summed up. -/
theorem sum_map_count {γ : Type} [DecidableEq γ] (l : List γ) {ks : List γ} (hks : ks.Nodup) :
    (ks.map fun k => l.count k).sum = l.countP (· ∈ ks) := by
  induction ks with
  | nil => simp
  | cons k ks ih =>
    obtain ⟨hk, hrest⟩ := List.nodup_cons.mp hks
    rw [List.map_cons, List.sum_cons, ih hrest, countP_mem_cons hk]

end ArgTaint.Tally
