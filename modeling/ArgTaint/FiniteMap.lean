/-
ArgTaint.FiniteMap — maps with finitely many keys.

A map is a list of entries, one for each of its keys. The order of the entries
means nothing.

* `FiniteMap.get?`, `FiniteMap.keys` — reading.
* `FiniteMap.insert` — setting the value of a key.
-/

namespace ArgTaint

/-- A map with finitely many keys. -/
structure FiniteMap (K V : Type) where
  entries : List (K × V)
  /-- A key has one entry. -/
  nodup : (entries.map Prod.fst).Nodup
  deriving DecidableEq, Repr

namespace FiniteMap

variable {K V : Type}

def empty : FiniteMap K V := ⟨[], List.Pairwise.nil⟩

/-- The keys, in no particular order. -/
def keys (m : FiniteMap K V) : List K := m.entries.map Prod.fst

variable [DecidableEq K]

def get? (m : FiniteMap K V) (k : K) : Option V := m.entries.lookup k

/-- The map in which a key has the given value, and the other keys have the
values that they had. -/
def insert (m : FiniteMap K V) (k : K) (v : V) : FiniteMap K V where
  entries := (k, v) :: m.entries.filter fun e => e.1 ≠ k
  nodup := by
    refine List.nodup_cons.mpr ⟨fun hk => ?_, m.nodup.sublist (List.filter_sublist.map _)⟩
    obtain ⟨e, he, hek⟩ := List.mem_map.mp hk
    exact of_decide_eq_true (List.mem_filter.mp he).2 hek

end FiniteMap

end ArgTaint
