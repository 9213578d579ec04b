/-
ArgTaint.Proofs.Analysis.Ledger — sums of statistics do not depend on an order.

The sum of some statistics is said without an order (`Stats.IsSum`): each
counter is the sum of the counters, wrapped around to 64 bits, the names are
those of any of them, and what is counted of a name is the sum of its counts.
Adding one more keeps this, in whichever order its entries are met. Sums of the
same statistics in another order are therefore the same.

In memory the statistics that are added up start without a map, and the map that
they get is new. So they never share it with those that are added, and the maps
that were there are only read.

  §1 Sums   — what the sum of a list is, and one more.
  §2 Memory — the loop that merges, one addition, and a run of them.
-/
import ArgTaint.Analysis.Ledger
import ArgTaint.Proofs.Analysis.Determinism

namespace ArgTaint

/-! ## §1 Sums -/

namespace Tally

/-- What is counted of a name. -/
def countOf (n : String) (t : Tally) : Int64 := (t.get? n).getD 0

theorem get?_eq_ite (t : Tally) (n : String) :
    t.get? n = if n ∈ t.names then some (t.countOf n) else none := by
  by_cases hn : n ∈ t.names
  · rw [if_pos hn, countOf]
    cases hc : t.get? n with
    | none => exact absurd hn (get?_eq_none.mp hc)
    | some c => rfl
  · rw [if_neg hn, get?_eq_none.mpr hn]

/-- The names of a sum are those of both. -/
theorem mem_names_add {a b : Tally} (hb : b.names.Nodup) (n : String) :
    n ∈ (a.add b).names ↔ n ∈ a.names ∨ n ∈ b.names := by
  rw [← not_iff_not, not_or, ← get?_eq_none, ← get?_eq_none, ← get?_eq_none, add,
    get?_merge _ n b a hb]
  cases a.get? n <;> cases b.get? n <;> simp

/-- Counters are added name by name. -/
theorem countOf_add {a b : Tally} (hb : b.names.Nodup) (n : String) :
    (a.add b).countOf n = a.countOf n + b.countOf n := by
  rw [countOf, countOf, countOf, add, get?_merge _ n b a hb]
  cases a.get? n <;> cases b.get? n <;> simp

end Tally

namespace Stats

/-- The counters that are not by kind. -/
def counters : List (Stats → Int64) :=
  [functions, taintedValues, taintedInstructions, targets, cycles]

def wrappedSum (xs : List Int64) : Int := (xs.map Int64.toInt).sum.bmod (2 ^ 64)

/-- A wrapped sum does not depend on the order of its summands. -/
theorem wrappedSum_perm {xs ys : List Int64} (h : xs.Perm ys) :
    wrappedSum xs = wrappedSum ys := by
  rw [wrappedSum, wrappedSum, (h.map Int64.toInt).sum_eq]

/-- One more summand. -/
theorem toInt_add_eq_wrappedSum {x : Int64} {xs : List Int64} (h : x.toInt = wrappedSum xs)
    (y : Int64) : (x + y).toInt = wrappedSum (xs ++ [y]) := by
  rw [Int64.toInt_add, h, wrappedSum, wrappedSum, List.map_append, List.sum_append,
    Int.bmod_add_bmod, List.map_singleton, List.sum_singleton]

/-- The statistics are the sum of those of the list. -/
structure IsSum (values : List Stats) (total : Stats) : Prop where
  counters : ∀ counter ∈ counters, (counter total).toInt = wrappedSum (values.map counter)
  nodup : total.kinds.names.Nodup
  names : ∀ n, n ∈ total.kinds.names ↔ ∃ v ∈ values, n ∈ v.kinds.names
  counts : ∀ n, (total.kinds.countOf n).toInt =
    wrappedSum (values.map fun v => v.kinds.countOf n)

variable {values others : List Stats} {total other o : Stats}

theorem isSum_nil : IsSum [] {} where
  counters := by decide
  nodup := List.nodup_nil
  names n := by simp [Tally.names]
  counts n := rfl

/-- Statistics are added counter by counter. -/
theorem counter_add (a b : Stats) : ∀ counter ∈ counters,
    counter (a.add b) = counter a + counter b := by
  simp [counters, Stats.add]

/-- One more is added, with its entries in any order. -/
theorem IsSum.add (h : IsSum values total) (hnodup : o.kinds.names.Nodup) {kinds : Tally}
    (entries : kinds.Perm o.kinds) :
    IsSum (values ++ [o]) (total.add { o with kinds := kinds }) := by
  have names : kinds.names.Perm o.kinds.names := entries.map Prod.fst
  have hkinds : kinds.names.Nodup := names.nodup_iff.mpr hnodup
  refine ⟨fun counter hc => ?_, Tally.nodup_merge _ kinds _ h.nodup, fun n => ?_, fun n => ?_⟩
  · have hsame : counter { o with kinds := kinds } = counter o := by
      revert counter
      simp [Stats.counters]
    rw [counter_add total _ counter hc, hsame, List.map_append]
    exact toInt_add_eq_wrappedSum (h.counters counter hc) _
  · rw [Stats.add, Tally.mem_names_add hkinds, h.names, names.mem_iff]
    simp [or_and_right, exists_or]
  · rw [Stats.add, Tally.countOf_add hkinds, List.map_append]
    have hsame : Tally.countOf n kinds = o.kinds.countOf n := by
      rw [Tally.countOf, Tally.get?_perm entries hnodup, Tally.countOf]
    rw [hsame]
    exact toInt_add_eq_wrappedSum (h.counts n) _

/-- Adding the rest of a list to the sum of its beginning gives the sum of the
list. -/
theorem IsSum.sumsTo {rest : List Stats} {s t : Stats} (hrun : SumsTo s rest t) :
    ∀ {done : List Stats}, IsSum done s → (∀ o ∈ rest, o.kinds.names.Nodup) →
      IsSum (done ++ rest) t := by
  induction hrun with
  | nil s => intro done h _; rwa [List.append_nil]
  | @cons s o t rest kinds entries _ ih =>
    intro done h hnodup
    obtain ⟨ho, hrest⟩ := List.forall_mem_cons.mp hnodup
    have := ih (h.add ho entries) hrest
    rwa [List.append_assoc, List.singleton_append] at this

/-- Sums of the same statistics are the same. -/
theorem IsSum.same (h : IsSum values total) (hother : IsSum others other)
    (hperm : values.Perm others) : total.Same other := by
  have hcounter : ∀ counter ∈ Stats.counters, counter total = counter other := by
    intro counter hc
    apply Int64.toInt_inj.mp
    rw [h.counters counter hc, hother.counters counter hc, wrappedSum_perm (hperm.map counter)]
  refine ⟨hcounter _ (by simp [Stats.counters]), hcounter _ (by simp [Stats.counters]),
    hcounter _ (by simp [Stats.counters]), hcounter _ (by simp [Stats.counters]),
    hcounter _ (by simp [Stats.counters]), fun n => ?_⟩
  have hnames : n ∈ total.kinds.names ↔ n ∈ other.kinds.names := by
    simp only [h.names, hother.names, hperm.mem_iff]
  have hcount : total.kinds.countOf n = other.kinds.countOf n := by
    apply Int64.toInt_inj.mp
    rw [h.counts, hother.counts, wrappedSum_perm (hperm.map _)]
  rw [Tally.get?_eq_ite, Tally.get?_eq_ite]
  simp only [hnames, hcount]

end Stats

/-! ## §2 Memory -/

namespace Memory

theorem mergeInto_cons (both : Int64 → Int64 → Int64) (target : Nat) (name : String) (y : Int64)
    (met : Tally) (mem : Memory) :
    mergeInto both target ((name, y) :: met) mem =
      mergeInto both target met (mem.modify target fun t => t.upsert name y (both · y)) := rfl

/-- Merging into the last map leaves those before it as they are. -/
theorem mergeInto_last (both : Int64 → Int64 → Int64) (mem : Memory) (met t : Tally) :
    mergeInto both mem.length met (mem ++ [t]) = mem ++ [t.merge both met] := by
  induction met generalizing t with
  | nil => rfl
  | cons e met ih =>
    obtain ⟨name, y⟩ := e
    have hstep : (mem ++ [t]).modify mem.length (fun t => t.upsert name y (both · y)) =
        mem ++ [t.upsert name y (both · y)] := by
      simp [List.modify_eq_set_getElem?]
    rw [mergeInto_cons, hstep, ih, Tally.merge_cons]

/-- New maps leave what is behind older references alone. -/
theorem tally_append {mem more : Memory} {r : Option Nat} (h : ∀ p ∈ r, p < mem.length) :
    tally (mem ++ more) r = tally mem r := by
  cases r with
  | none => rfl
  | some p =>
    have hp := h p rfl
    simp [tally, List.getElem?_append_left hp]

end Memory

namespace Ledger

variable {mem m : Memory} {s o : Ledger} {os : List Ledger}

/-- The reference of the statistics, if any, is to a map of the memory. -/
def IsIn (o : Ledger) (mem : Memory) : Prop := ∀ r ∈ o.kinds, r < mem.length

theorem read_append (h : o.IsIn mem) (more : Memory) : o.read (mem ++ more) = o.read mem := by
  rw [read, read, Memory.tally_append h]

/-- The statistics have no map yet, or one that came after those of `mem`; the
memory has `mem` and this map. -/
def Owns (mem : Memory) (s : Ledger) (m : Memory) : Prop :=
  (s.kinds = none ∧ m = mem) ∨ ∃ t, s.kinds = some mem.length ∧ m = mem ++ [t]

theorem Owns.isPrefix (h : Owns mem s m) : mem <+: m := by
  obtain ⟨-, rfl⟩ | ⟨t, -, rfl⟩ := h
  · exact List.prefix_rfl
  · exact List.prefix_append mem [t]

/-- One addition writes into the map that is owned, and reads as an addition. -/
theorem Owns.add (h : Owns mem s m) (o : Ledger) (met : Tally) :
    Owns mem (s.add o met m).1 (s.add o met m).2 ∧
      (s.add o met m).1.read (s.add o met m).2 =
        (s.read m).add { o.read m with kinds := met } := by
  obtain ⟨hkinds, rfl⟩ | ⟨t, hkinds, rfl⟩ := h
  · simp only [Ledger.add, hkinds, Memory.mergeInto_last]
    refine ⟨Or.inr ⟨_, rfl, rfl⟩, ?_⟩
    simp [read, Stats.add, Memory.tally, hkinds, Tally.add]
  · simp only [Ledger.add, hkinds, Memory.mergeInto_last]
    refine ⟨Or.inr ⟨_, rfl, rfl⟩, ?_⟩
    simp [read, Stats.add, Memory.tally, hkinds, Tally.add]

/-- A run of additions reads as adding up what the statistics say. -/
theorem Sums.sumsTo {a b : Ledger × Memory} (hrun : Sums os a b) :
    Owns mem a.1 a.2 → (∀ o ∈ os, o.IsIn mem) →
      Owns mem b.1 b.2 ∧ (a.1.read a.2).SumsTo (os.map (·.read mem)) (b.1.read b.2) := by
  induction hrun with
  | nil a => exact fun h _ => ⟨h, .nil _⟩
  | @cons o os s m b met any _ ih =>
    intro h hin
    obtain ⟨ho, hrest⟩ := List.forall_mem_cons.mp hin
    obtain ⟨hnext, hread⟩ := h.add o met
    obtain ⟨hb, hsums⟩ := ih hnext hrest
    have hsame : o.read m = o.read mem := by
      obtain ⟨more, rfl⟩ := h.isPrefix
      exact read_append ho more
    have hmet : met.Perm (o.read mem).kinds := hsame ▸ any
    rw [hread, hsame] at hsums
    exact ⟨hb, .cons hmet hsums⟩

/-- Statistics can always be added up. -/
theorem exists_sums :
    ∀ (os : List Ledger) (s : Ledger) (m : Memory), ∃ t n, Sums os (s, m) (t, n)
  | [], s, m => ⟨s, m, .nil _⟩
  | o :: os, s, m => by
    obtain ⟨t, n, h⟩ :=
      exists_sums os (s.add o (m.tally o.kinds) m).1 (s.add o (m.tally o.kinds) m).2
    exact ⟨t, n, .cons _ (.refl _) h⟩

theorem nodup_read (hmaps : ∀ t ∈ mem, t.names.Nodup) (o : Ledger) :
    (o.read mem).kinds.names.Nodup := by
  simp only [read, Memory.tally]
  split
  · next r _ =>
    rw [List.getD_eq_getElem?_getD]
    cases ht : mem[r]? with
    | none => exact List.nodup_nil
    | some t => exact hmaps t (List.mem_of_getElem? ht)
  · exact List.nodup_nil

/-- **Sums of statistics do not depend on an order.** For every memory, every
list of statistics in it, with maps of their own, shared or none, and every
permutation of the list: the statistics can be added up, from none. In whichever
orders the entries are met, the outcome has the wrapped sum of each counter, the
names of all the maps and the wrapped sum of the counts of each name. It is the
same for the permutation, and the same as the fold of additions. All the maps
are as they were, and so are the statistics that were added. -/
theorem sums_unordered {mem : Memory} {os os' : List Ledger}
    (hmaps : ∀ t ∈ mem, t.names.Nodup) (hin : ∀ o ∈ os, o.IsIn mem) (hperm : os.Perm os') :
    (∃ s' m', Sums os' ({}, mem) (s', m')) ∧
    ∀ s m s' m', Sums os ({}, mem) (s, m) → Sums os' ({}, mem) (s', m') →
      Stats.IsSum (os.map (·.read mem)) (s.read m) ∧
      (s.read m).Same (s'.read m') ∧
      (s.read m).Same ((os'.map (·.read mem)).foldl Stats.add {}) ∧
      mem <+: m ∧ ∀ o ∈ os, o.read m = o.read mem := by
  refine ⟨exists_sums os' {} mem, fun s m s' m' hrun hrun' => ?_⟩
  have hstart : Owns mem {} mem := Or.inl ⟨rfl, rfl⟩
  have hnodup (l : List Ledger) : ∀ v ∈ l.map (·.read mem), v.kinds.names.Nodup := by
    simp only [List.forall_mem_map]
    exact fun o _ => nodup_read hmaps o
  have hvalues : (os.map (·.read mem)).Perm (os'.map (·.read mem)) := hperm.map _
  obtain ⟨howns, hsums⟩ := hrun.sumsTo hstart hin
  obtain ⟨-, hsums'⟩ := hrun'.sumsTo hstart fun o ho => hin o (hperm.mem_iff.mpr ho)
  have hsum := Stats.isSum_nil.sumsTo hsums (hnodup os)
  have hsum' := Stats.isSum_nil.sumsTo hsums' (hnodup os')
  have hfold :=
    Stats.isSum_nil.sumsTo (Stats.sumsTo_foldl (os'.map (·.read mem)) {}) (hnodup os')
  obtain ⟨more, rfl⟩ := howns.isPrefix
  exact ⟨hsum, hsum.same hsum' hvalues, hsum.same hfold hvalues, List.prefix_append mem more,
    fun o ho => read_append (hin o ho) more⟩

/-- Two maps; a counter of the first is as large as it can be. -/
def sharedMemory : Memory := [[("load", 9223372036854775807), ("store", 2)], [("load", 1)]]

/-- Statistics of which two share a map and one has none. -/
def sharedLedgers : List Ledger :=
  [{ functions := 1, kinds := some 0 }, { functions := 1 }, { functions := 1, kinds := some 1 },
   { functions := 1, targets := 3, kinds := some 0 }]

theorem sums_unordered_shared :
    ∃ s m s' m', Sums sharedLedgers ({}, sharedMemory) (s, m) ∧
      Sums sharedLedgers.reverse ({}, sharedMemory) (s', m') ∧
      ((s.read m).kinds.countOf "load").toInt = -1 ∧ (s.read m).Same (s'.read m') ∧
      sharedMemory <+: m := by
  have hmaps : ∀ t ∈ sharedMemory, t.names.Nodup := by decide
  have hin : ∀ o ∈ sharedLedgers, o.IsIn sharedMemory := by
    simp [sharedLedgers, sharedMemory, IsIn]
  obtain ⟨⟨s, m, hrun⟩, -⟩ := sums_unordered hmaps hin (.refl _)
  obtain ⟨⟨s', m', hrun'⟩, hsums⟩ := sums_unordered hmaps hin (List.reverse_perm _).symm
  obtain ⟨hsum, hsame, -, hkept, -⟩ := hsums s m s' m' hrun hrun'
  exact ⟨s, m, s', m', hrun, hrun', (hsum.counts "load").trans (by decide), hsame, hkept⟩

end Ledger

end ArgTaint
