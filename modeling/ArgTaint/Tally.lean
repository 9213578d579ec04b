/-
ArgTaint.Tally — counts by name.

A tally maps names to 64-bit counters; each name has one entry. The order of
the entries is that of first mention and means nothing.

* `Tally.get?` — the counter of a name.
* `Tally.merge` — one tally merged into another, with a rule for the names
  that both have.
* `Tally.add` — the sum of two tallies; counters wrap around.
-/

namespace ArgTaint

/-- Counts by name. -/
abbrev Tally := List (String × Int64)

namespace Tally

def get? (t : Tally) (name : String) : Option Int64 := t.lookup name

/-- The tally in which the counter of `name` is replaced by its image, or set
to `fresh` when there is none. -/
def upsert (name : String) (fresh : Int64) (image : Int64 → Int64) : Tally → Tally
  | [] => [(name, fresh)]
  | (n, c) :: rest =>
    if n = name then (n, image c) :: rest else (n, c) :: upsert name fresh image rest

/-- `b` merged into `a`: a name of `b` alone keeps its counter, a name of both
gets `both` of the two. -/
def merge (both : Int64 → Int64 → Int64) (a b : Tally) : Tally :=
  b.foldl (fun t (name, y) => t.upsert name y (both · y)) a

def add (a b : Tally) : Tally := merge (· + ·) a b

/-- One more of a name. -/
def count (t : Tally) (name : String) : Tally := t.upsert name 1 (· + 1)

/-- How often each name occurs. -/
def ofNames (names : List String) : Tally := names.foldl count []

end Tally

end ArgTaint
