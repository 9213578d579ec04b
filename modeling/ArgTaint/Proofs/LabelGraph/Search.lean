/-
ArgTaint.Proofs.LabelGraph.Search — searching from a node meets exactly what
non-empty paths lead to.

The search marks ids in an array and keeps a frontier of ids to look at. It is
given a number of frontier entries that it may look at, and this number is
enough: every id is expanded at most once, so no more entries are ever put on
the frontier than there are neighbours.

  §1 Tables  — the neighbours that a list of edges gives, and their number.
  §2 Marks   — what is marked stays marked, and was met on a path.
  §3 Closure — with enough entries, what is newly marked has its neighbours
               marked (`search_closed`).
  §4 Reached — `getElem?_reached`.
-/
import ArgTaint.LabelGraph.Cycles
import Mathlib.Algebra.BigOperators.Group.Finset.Basic
import Mathlib.Algebra.Order.BigOperators.Group.Finset
import Mathlib.Logic.Relation

namespace ArgTaint.Adjacency

open Relation (ReflTransGen TransGen)

def Adj (a : Adjacency) (v w : Nat) : Prop := w ∈ a.neighbours.getD v []

/-! ## §1 Tables -/

/-- The number of entries of a table of lists. -/
def entries (table : Array (List Nat)) : Nat :=
  ∑ v ∈ Finset.range table.size, (table.getD v []).length

/-- Two sums that differ in one summand. -/
theorem sum_range_change {n i : Nat} (hi : i < n) {f k : Nat → Nat}
    (h : ∀ j, j ≠ i → k j = f j) :
    (∑ j ∈ Finset.range n, k j) + f i = (∑ j ∈ Finset.range n, f j) + k i := by
  have hm : i ∈ Finset.range n := Finset.mem_range.mpr hi
  have he : ∑ j ∈ (Finset.range n).erase i, k j = ∑ j ∈ (Finset.range n).erase i, f j :=
    Finset.sum_congr rfl fun j hj => h j (Finset.ne_of_mem_erase hj)
  rw [← Finset.add_sum_erase _ k hm, ← Finset.add_sum_erase _ f hm, he]
  omega

theorem getD_modify_self {table : Array (List Nat)} {i : Nat} (hi : i < table.size)
    (f : List Nat → List Nat) : (table.modify i f).getD i [] = f (table.getD i []) := by
  rw [Array.getD_eq_getD_getElem?, Array.getD_eq_getD_getElem?, Array.getElem?_modify,
    if_pos rfl, Array.getElem?_eq_getElem hi, Option.map_some, Option.getD_some,
    Option.getD_some]

theorem getD_modify_of_ne {table : Array (List Nat)} {i j : Nat} (h : j ≠ i)
    (f : List Nat → List Nat) : (table.modify i f).getD j [] = table.getD j [] := by
  simp [Array.getD_eq_getD_getElem?, Array.getElem?_modify, Ne.symm h]

theorem modify_of_size_le {table : Array (List Nat)} {i : Nat} (h : table.size ≤ i)
    (f : List Nat → List Nat) : table.modify i f = table := by
  apply Array.ext_getElem?
  intro j
  rw [Array.getElem?_modify]
  split
  · next he => rw [← he, Array.getElem?_eq_none h, Option.map_none]
  · rfl

theorem mem_getD_modify_cons {table : Array (List Nat)} {i x v w : Nat} :
    w ∈ (table.modify i (x :: ·)).getD v [] ↔
      w ∈ table.getD v [] ∨ (v < table.size ∧ v = i ∧ w = x) := by
  by_cases hi : i < table.size
  · by_cases hv : v = i
    · subst hv
      rw [getD_modify_self hi, List.mem_cons]
      simp only [hi, true_and]
      exact or_comm
    · rw [getD_modify_of_ne hv]
      simp only [hv, false_and, and_false, or_false]
  · rw [modify_of_size_le (Nat.le_of_not_lt hi)]
    constructor
    · exact Or.inl
    · rintro (h | ⟨hv, rfl, -⟩)
      · exact h
      · exact absurd hv hi

theorem entries_modify_cons_le (table : Array (List Nat)) (i x : Nat) :
    entries (table.modify i (x :: ·)) ≤ entries table + 1 := by
  by_cases hi : i < table.size
  · have hc := sum_range_change hi (f := fun v => (table.getD v []).length)
      (k := fun v => ((table.modify i (x :: ·)).getD v []).length)
      fun j hj => by rw [getD_modify_of_ne hj]
    simp only [getD_modify_self hi, List.length_cons] at hc
    simp only [entries, Array.size_modify]
    omega
  · rw [modify_of_size_le (Nat.le_of_not_lt hi)]
    omega

theorem size_foldl_modify :
    ∀ (edges : List (Nat × Nat)) (table : Array (List Nat)),
      (edges.foldl (fun table e => table.modify e.1 (e.2 :: ·)) table).size = table.size := by
  intro edges
  induction edges with
  | nil => intro table; rfl
  | cons e rest ih => intro table; rw [List.foldl_cons, ih, Array.size_modify]

/-- The table of edges lists each end at its start. -/
theorem mem_getD_foldl_modify {v w : Nat} :
    ∀ (edges : List (Nat × Nat)) (table : Array (List Nat)),
      w ∈ (edges.foldl (fun table e => table.modify e.1 (e.2 :: ·)) table).getD v [] ↔
        w ∈ table.getD v [] ∨ (v < table.size ∧ (v, w) ∈ edges) := by
  intro edges
  induction edges with
  | nil => intro table; simp
  | cons e rest ih =>
    intro table
    rw [List.foldl_cons, ih, mem_getD_modify_cons, Array.size_modify, List.mem_cons,
      Prod.ext_iff]
    tauto

/-- Each edge adds at most one entry. -/
theorem entries_foldl_modify_le :
    ∀ (edges : List (Nat × Nat)) (table : Array (List Nat)),
      entries (edges.foldl (fun table e => table.modify e.1 (e.2 :: ·)) table) ≤
        entries table + edges.length := by
  intro edges
  induction edges with
  | nil => intro table; exact Nat.le_refl _
  | cons e rest ih =>
    intro table
    have h1 := entries_modify_cons_le table e.1 e.2
    have h2 := ih (table.modify e.1 (e.2 :: ·))
    rw [List.foldl_cons, List.length_cons]
    omega

theorem getD_replicate_nil (order v : Nat) :
    (Array.replicate order ([] : List Nat)).getD v [] = [] := by
  rw [Array.getD_eq_getD_getElem?, Array.getElem?_replicate]
  split <;> rfl

theorem size_ofEdges (order : Nat) (edges : List (Nat × Nat)) :
    (ofEdges order edges).neighbours.size = order := by
  rw [ofEdges, size_foldl_modify, Array.size_replicate]

/-- The edges between ids, read off the table. -/
theorem adj_ofEdges {order v w : Nat} {edges : List (Nat × Nat)} :
    (ofEdges order edges).Adj v w ↔ v < order ∧ (v, w) ∈ edges := by
  rw [Adj, ofEdges, mem_getD_foldl_modify, getD_replicate_nil, Array.size_replicate]
  simp only [List.not_mem_nil, false_or]

/-- A table has no more entries than there are edges. -/
theorem entries_ofEdges_le (order : Nat) (edges : List (Nat × Nat)) :
    entries (ofEdges order edges).neighbours ≤ (ofEdges order edges).size := by
  have h := entries_foldl_modify_le edges (Array.replicate order [])
  have h0 : entries (Array.replicate order []) = 0 := by
    refine Finset.sum_eq_zero fun v _ => ?_
    rw [getD_replicate_nil, List.length_nil]
  rw [h0, Nat.zero_add] at h
  exact h

/-! ## §2 Marks -/

variable {a : Adjacency}

theorem getD_true_eq_false {seen : Array Bool} {v : Nat} :
    ¬ seen.getD v true = true ↔ seen[v]? = some false := by
  rw [Array.getD_eq_getD_getElem?]
  rcases seen[v]? with _ | _ | _ <;> simp

theorem getElem?_mark {seen : Array Bool} {v w : Nat} :
    (seen.setIfInBounds v true)[w]? = some true ↔
      (v = w ∧ v < seen.size) ∨ seen[w]? = some true := by
  rw [Array.getElem?_setIfInBounds]
  by_cases he : v = w
  · subst he
    by_cases hv : v < seen.size
    · simp [hv]
    · simp [hv]
  · simp [he]

/-- What is marked stays marked. -/
theorem getElem?_search_of_marked {w : Nat} :
    ∀ (bound : Nat) (frontier : List Nat) (seen : Array Bool), seen[w]? = some true →
      (a.search bound frontier seen)[w]? = some true := by
  intro bound
  induction bound with
  | zero => intro frontier seen h; exact h
  | succ n ih =>
    intro frontier seen h
    cases frontier with
    | nil => exact h
    | cons v frontier =>
      rw [search]
      split
      · exact ih frontier seen h
      · exact ih _ _ (getElem?_mark.mpr (Or.inr h))

/-- What is marked was marked before or lies on a path from the frontier. -/
theorem getElem?_search_cases {w : Nat} :
    ∀ (bound : Nat) (frontier : List Nat) (seen : Array Bool),
      (a.search bound frontier seen)[w]? = some true →
      seen[w]? = some true ∨ ∃ v ∈ frontier, ReflTransGen a.Adj v w := by
  intro bound
  induction bound with
  | zero => intro frontier seen h; exact Or.inl h
  | succ n ih =>
    intro frontier seen h
    cases frontier with
    | nil => exact Or.inl h
    | cons v frontier =>
      rw [search] at h
      split at h
      · rcases ih frontier seen h with h | ⟨u, hu, hr⟩
        · exact Or.inl h
        · exact Or.inr ⟨u, List.mem_cons_of_mem v hu, hr⟩
      · rcases ih _ _ h with h | ⟨u, hu, hr⟩
        · rcases getElem?_mark.mp h with ⟨rfl, -⟩ | h
          · exact Or.inr ⟨v, List.mem_cons_self, ReflTransGen.refl⟩
          · exact Or.inl h
        · rcases List.mem_append.mp hu with hu | hu
          · exact Or.inr ⟨v, List.mem_cons_self, hr.head hu⟩
          · exact Or.inr ⟨u, List.mem_cons_of_mem v hu, hr⟩

/-! ## §3 Closure -/

/-- The number of neighbours of the ids that are not marked. -/
def unseenEntries (a : Adjacency) (seen : Array Bool) : Nat :=
  ∑ v ∈ Finset.range a.neighbours.size,
    if seen[v]? = some false then (a.neighbours.getD v []).length else 0

/-- Marking an id takes its neighbours off the entries that are left. -/
theorem unseenEntries_mark {seen : Array Bool} {v : Nat} (hs : seen.size = a.neighbours.size)
    (hv : seen[v]? = some false) :
    a.unseenEntries (seen.setIfInBounds v true) + (a.neighbours.getD v []).length =
      a.unseenEntries seen := by
  have hlt : v < seen.size := (Array.getElem?_eq_some_iff.mp hv).1
  have hself : (seen.setIfInBounds v true)[v]? = some true :=
    getElem?_mark.mpr (Or.inl ⟨rfl, hlt⟩)
  have hother : ∀ j, j ≠ v → (seen.setIfInBounds v true)[j]? = seen[j]? := by
    intro j hj
    rw [Array.getElem?_setIfInBounds, if_neg (Ne.symm hj)]
  have hc := sum_range_change (hs ▸ hlt)
    (f := fun j => if seen[j]? = some false then (a.neighbours.getD j []).length else 0)
    (k := fun j => if (seen.setIfInBounds v true)[j]? = some false
      then (a.neighbours.getD j []).length else 0)
    fun j hj => by rw [hother j hj]
  simp only [hself, hv, if_true, Option.some.injEq, Bool.true_eq_false, if_false,
    Nat.add_zero] at hc
  exact hc

/-- Given enough entries to look at, the search marks the frontier and the
neighbours of all that it marks. -/
theorem search_closed :
    ∀ (bound : Nat) (frontier : List Nat) (seen : Array Bool),
      seen.size = a.neighbours.size → frontier.length + a.unseenEntries seen ≤ bound →
      (∀ v ∈ frontier, v < seen.size → (a.search bound frontier seen)[v]? = some true) ∧
      ∀ v, (a.search bound frontier seen)[v]? = some true → seen[v]? ≠ some true →
        ∀ w, a.Adj v w → w < seen.size → (a.search bound frontier seen)[w]? = some true := by
  intro bound
  induction bound with
  | zero =>
    intro frontier seen _ hb
    have hf : frontier = [] := List.eq_nil_of_length_eq_zero (by omega)
    subst hf
    exact ⟨fun v hv => absurd hv List.not_mem_nil, fun v h hn => absurd h hn⟩
  | succ n ih =>
    intro frontier seen hs hb
    cases frontier with
    | nil => exact ⟨fun v hv => absurd hv List.not_mem_nil, fun v h hn => absurd h hn⟩
    | cons v frontier =>
      rw [List.length_cons] at hb
      rw [search]
      split
      · next hv =>
        obtain ⟨hfront, hclosed⟩ := ih frontier seen hs (by omega)
        refine ⟨fun u hu hlt => ?_, hclosed⟩
        rcases List.mem_cons.mp hu with rfl | hu
        · -- in range and not unmarked, so marked
          refine getElem?_search_of_marked n frontier seen ?_
          rw [Array.getD_eq_getD_getElem?, Array.getElem?_eq_getElem hlt,
            Option.getD_some] at hv
          rw [Array.getElem?_eq_getElem hlt, hv]
        · exact hfront u hu hlt
      · next hv =>
        have hv := getD_true_eq_false.mp hv
        have hlt : v < seen.size := (Array.getElem?_eq_some_iff.mp hv).1
        have hw := unseenEntries_mark hs hv
        obtain ⟨hfront, hclosed⟩ := ih (a.neighbours.getD v [] ++ frontier)
          (seen.setIfInBounds v true) (by rw [Array.size_setIfInBounds]; exact hs)
          (by rw [List.length_append]; omega)
        simp only [Array.size_setIfInBounds] at hfront hclosed
        refine ⟨fun u hu hlu => ?_, fun u hu hn w hadj hlw => ?_⟩
        · rcases List.mem_cons.mp hu with rfl | hu
          · exact getElem?_search_of_marked _ _ _ (getElem?_mark.mpr (Or.inl ⟨rfl, hlt⟩))
          · exact hfront u (List.mem_append_right _ hu) hlu
        · by_cases he : u = v
          · subst he
            exact hfront w (List.mem_append_left _ hadj) hlw
          · refine hclosed u hu ?_ w hadj hlw
            rw [Ne, getElem?_mark]
            rintro (⟨rfl, -⟩ | h)
            · exact he rfl
            · exact hn h

/-! ## §4 Reached -/

/-- The search from `v` marks exactly the ends of the non-empty paths from
`v`, in a table whose size counts all its entries and whose entries are ids. -/
theorem getElem?_reached (hsize : entries a.neighbours ≤ a.size)
    (hid : ∀ v w, a.Adj v w → w < a.neighbours.size) (v w : Nat) :
    (a.reached v)[w]? = some true ↔ TransGen a.Adj v w := by
  have hnone : ∀ u : Nat, (Array.replicate a.neighbours.size false)[u]? ≠ some true := by
    intro u
    rw [Array.getElem?_replicate]
    split <;> simp
  constructor
  · intro h
    rcases getElem?_search_cases _ _ _ h with h | ⟨u, hu, hr⟩
    · exact absurd h (hnone w)
    · exact TransGen.head' hu hr
  · intro h
    have hunseen : a.unseenEntries (Array.replicate a.neighbours.size false) =
        entries a.neighbours := by
      refine Finset.sum_congr rfl fun u hu => ?_
      rw [Array.getElem?_replicate, if_pos (Finset.mem_range.mp hu), if_pos rfl]
    have hdegree : (a.neighbours.getD v []).length ≤ entries a.neighbours := by
      by_cases hv : v < a.neighbours.size
      · exact Finset.single_le_sum (f := fun u => (a.neighbours.getD u []).length)
          (fun _ _ => Nat.zero_le _) (Finset.mem_range.mpr hv)
      · rw [Array.getD_eq_getD_getElem?, Array.getElem?_eq_none (Nat.le_of_not_lt hv),
          Option.getD_none, List.length_nil]
        exact Nat.zero_le _
    obtain ⟨hfront, hclosed⟩ := search_closed (2 * a.size + 1) (a.neighbours.getD v [])
      (Array.replicate a.neighbours.size false) Array.size_replicate (by omega)
    rw [Array.size_replicate] at hfront hclosed
    induction h with
    | single hadj => exact hfront _ hadj (hid _ _ hadj)
    | tail _ hadj ih => exact hclosed _ ih (hnone _) _ hadj (hid _ _ hadj)

/-- The same of a table made of edges between ids. -/
theorem getElem?_reached_ofEdges {order : Nat} {edges : List (Nat × Nat)}
    (hlt : ∀ v w, (v, w) ∈ edges → v < order ∧ w < order) (v w : Nat) :
    ((ofEdges order edges).reached v)[w]? = some true ↔
      TransGen (fun u t => (u, t) ∈ edges) v w := by
  have hadj : (ofEdges order edges).Adj = fun u t => (u, t) ∈ edges := by
    funext u t
    rw [adj_ofEdges]
    exact propext ⟨And.right, fun he => ⟨(hlt u t he).1, he⟩⟩
  have hid : ∀ u t, (ofEdges order edges).Adj u t →
      t < (ofEdges order edges).neighbours.size := by
    intro u t hut
    rw [hadj] at hut
    rw [size_ofEdges]
    exact (hlt u t hut).2
  rw [getElem?_reached (entries_ofEdges_le order edges) hid, hadj]

end ArgTaint.Adjacency
