/-
ArgTaint.Proofs.LabelGraph.Table — tables stay in step with the graph they hold.

A table is three structures that nothing ties together but the calls that build
it. It holds a graph (`GraphTable.Holds`) when it has the labels of the graph,
finds each by its id and has a row for every id with the edges from there. Each
call keeps this, against the same call on the graph; so no call ever misses a
row, and what is known of graphs is known of tables.

  §1 Maps       — what a key has after an insertion.
  §2 Labels     — the labels of a graph in the order of first mention.
  §3 Tables     — one call, and a run of calls.
  §4 Successors — in order, and against the edges of the graph.
  §5 Visitors   — which calls of a visitor are made, whatever it does.
  §6 Histories  — all of this after any calls.
-/
import ArgTaint.LabelGraph.Table
import ArgTaint.Proofs.LabelGraph.StrongComponents

namespace ArgTaint

/-! ## §1 Maps -/

namespace FiniteMap

variable {K V : Type} [DecidableEq K]

theorem get?_empty (k : K) : (empty : FiniteMap K V).get? k = none := rfl

theorem lookup_filter_ne {j k : K} (h : j ≠ k) (entries : List (K × V)) :
    (entries.filter fun e => e.1 ≠ k).lookup j = entries.lookup j := by
  induction entries with
  | nil => rfl
  | cons e rest ih =>
    by_cases hk : e.1 = k
    · rw [List.filter_cons_of_neg (by simpa using hk), ih, List.lookup_cons,
        beq_false_of_ne (hk ▸ h)]
    · rw [List.filter_cons_of_pos (by simpa using hk), List.lookup_cons, List.lookup_cons, ih]

/-- Only the key itself gets the value. -/
theorem get?_insert (m : FiniteMap K V) (j k : K) (v : V) :
    (m.insert k v).get? j = if j = k then some v else m.get? j := by
  by_cases h : j = k
  · rw [if_pos h, h, get?, insert, List.lookup_cons_self]
  · rw [if_neg h, get?, insert, List.lookup_cons, beq_false_of_ne h]
    exact lookup_filter_ne h m.entries

theorem mem_keys {m : FiniteMap K V} {k : K} : k ∈ m.keys ↔ (m.get? k).isSome := by
  rw [← not_iff_not, Bool.not_eq_true, Option.isSome_eq_false_iff, Option.isNone_iff_eq_none,
    get?, List.lookup_eq_none_iff, keys, List.mem_map, not_exists]
  exact forall_congr' fun e => by rw [not_and, bne_iff_ne, ne_comm]

end FiniteMap

/-! ## §2 Labels -/

namespace LabelGraph

variable {T : Type} {g : LabelGraph T}

def Call.mentions : Call T → List T
  | .addNode x => [x]
  | .addEdge x y => [x, y]

/-- Edges are between the ids of joined labels. -/
theorem WellFormed.mem_edges_iff (h : g.WellFormed) {v w : Nat} :
    (v, w) ∈ g.edges ↔
      ∃ x y, g.labels[v]? = some x ∧ g.labels[w]? = some y ∧ g.Joins x y := by
  constructor
  · intro he
    obtain ⟨hv, hw⟩ := h.edges_lt v w he
    have hx := List.getElem?_eq_getElem hv
    have hy := List.getElem?_eq_getElem hw
    exact ⟨_, _, hx, hy, v, w, hx, hy, he⟩
  · rintro ⟨x, y, hv, hw, v', w', hv', hw', he⟩
    rw [h.id_unique hv hv', h.id_unique hw hw']
    exact he

variable [DecidableEq T]

/-- A new label has the next free id, and the others keep theirs. -/
theorem id?_append (x y : T) :
    LabelGraph.id? { g with labels := g.labels ++ [x] } y =
      (g.id? y).or (if x = y then some g.order else none) := by
  simp only [id?, List.findIdx?_append, List.findIdx?_singleton, decide_eq_true_eq]
  split <;> simp [order]

theorem id?_eq_none {x : T} (hx : x ∉ g.labels) : g.id? x = none := by
  rw [id?, List.findIdx?_eq_none_iff]
  exact fun y hy => decide_eq_false fun he => hx (he ▸ hy)

/-- A call adds the labels that it mentions for the first time. -/
theorem labels_perform_eraseDups {mentioned : List T} (h : g.labels = mentioned.eraseDups)
    (c : Call T) : (g.perform c).labels = (mentioned ++ c.mentions).eraseDups := by
  cases c with
  | addNode x => exact labels_addNode_eraseDups [] h List.not_mem_nil
  | addEdge x y =>
    rw [perform, labels_addEdge, Call.mentions, List.append_cons]
    exact labels_addNode_eraseDups [] (labels_addNode_eraseDups [] h List.not_mem_nil)
      List.not_mem_nil

/-- The labels are those that the calls mention, each where it is mentioned
first. -/
theorem labels_run_eraseDups :
    ∀ (calls : List (Call T)) (mentioned : List T) {g : LabelGraph T},
      g.labels = mentioned.eraseDups →
        (g.run calls).labels = (mentioned ++ calls.flatMap Call.mentions).eraseDups := by
  intro calls
  induction calls with
  | nil => intro mentioned g h; simpa [LabelGraph.run] using h
  | cons c rest ih =>
    intro mentioned g h
    rw [List.flatMap_cons, ← List.append_assoc]
    exact ih _ (labels_perform_eraseDups h c)

end LabelGraph

/-! ## §3 Tables -/

namespace GraphTable

variable {T : Type} {t : GraphTable T} {g : LabelGraph T}

section Tables

variable [DecidableEq T]

/-- The table holds the graph: its labels, their ids and a row for each id. The
keys of a row are the ends of the edges from its id, all of them set. -/
structure Holds (t : GraphTable T) (g : LabelGraph T) : Prop where
  labels : t.labels = g.labels
  id?_eq : ∀ x, t.id? x = g.id? x
  row_isSome_iff : ∀ v, (t.rows.get? v).isSome ↔ v < g.order
  row_get? : ∀ v row, t.rows.get? v = some row →
    ∀ w b, row.get? w = some b ↔ b = true ∧ (v, w) ∈ g.edges

theorem holds_empty : (empty : GraphTable T).Holds .empty where
  labels := rfl
  id?_eq _ := rfl
  row_isSome_iff v := by simp [empty, FiniteMap.get?_empty, LabelGraph.empty, LabelGraph.order]
  row_get? v row h := by simp [empty, FiniteMap.get?_empty] at h

theorem Holds.order (h : t.Holds g) : t.order = g.order := congrArg List.length h.labels

/-- A new label extends all three tables. -/
theorem Holds.append (h : t.Holds g) (hg : g.WellFormed) {x : T} (hx : x ∉ g.labels) :
    Holds ⟨t.labels ++ [x], t.ids.insert x t.order, t.rows.insert t.order .empty⟩
      { g with labels := g.labels ++ [x] } where
  labels := by rw [h.labels]
  id?_eq y := by
    rw [id?, FiniteMap.get?_insert, h.order, LabelGraph.id?_append]
    by_cases hy : y = x
    · subst hy
      rw [if_pos rfl, LabelGraph.id?_eq_none hx, Option.none_or, if_pos rfl]
    · rw [if_neg hy, if_neg (Ne.symm hy), Option.or_none]
      exact h.id?_eq y
  row_isSome_iff v := by
    have hlength : (g.labels ++ [x]).length = g.order + 1 := List.length_append
    rw [FiniteMap.get?_insert, h.order]
    change _ ↔ v < (g.labels ++ [x]).length
    by_cases hv : v = g.order
    · simp [hv, hlength]
    · rw [if_neg hv, h.row_isSome_iff, hlength]
      omega
  row_get? v row hrow w b := by
    rw [FiniteMap.get?_insert, h.order] at hrow
    by_cases hv : v = g.order
    · -- edges leave only ids that were there before
      rw [if_pos hv] at hrow
      cases hrow
      have hnone : (v, w) ∉ g.edges := fun he => (hv ▸ (hg.edges_lt v w he).1).false
      simp [FiniteMap.get?_empty, hnone]
    · rw [if_neg hv] at hrow
      exact h.row_get? v row hrow w b

/-- Adding a node to a table is adding it to the graph, and gives its id. -/
theorem Holds.addNode (h : t.Holds g) (hg : g.WellFormed) (x : T) :
    (t.addNode x).2.Holds (g.addNode x) ∧
      (g.addNode x).labels[(t.addNode x).1]? = some x := by
  have hid : t.ids.get? x = g.id? x := h.id?_eq x
  rw [GraphTable.addNode, hid]
  cases hv : g.id? x with
  | some v =>
    have hx := LabelGraph.getElem?_of_id? hv
    rw [LabelGraph.addNode_of_mem (List.mem_of_getElem? hx)]
    exact ⟨h, hx⟩
  | none =>
    have hx : x ∉ g.labels :=
      fun hm => Option.ne_none_iff_exists'.mpr (LabelGraph.exists_id? hm) hv
    rw [LabelGraph.addNode_of_not_mem hx]
    refine ⟨h.append hg hx, ?_⟩
    rw [h.order]
    exact List.getElem?_concat_length

/-- Setting a key in the row of an id is adding an edge. -/
theorem Holds.insertEdge (h : t.Holds g) {g' : LabelGraph T} {v w : Nat}
    {row : FiniteMap Nat Bool}
    (hrow : t.rows.get? v = some row) (hlabels : g'.labels = g.labels)
    (hedges : ∀ e, e ∈ g'.edges ↔ e ∈ g.edges ∨ e = (v, w)) :
    Holds { t with rows := t.rows.insert v (row.insert w true) } g' where
  labels := h.labels.trans hlabels.symm
  id?_eq x := by
    rw [LabelGraph.id?, hlabels]
    exact h.id?_eq x
  row_isSome_iff u := by
    have horder : g'.order = g.order := congrArg List.length hlabels
    rw [FiniteMap.get?_insert, horder]
    by_cases hu : u = v
    · have := (h.row_isSome_iff v).mp (hrow ▸ rfl)
      simpa [hu] using this
    · rw [if_neg hu]
      exact h.row_isSome_iff u
  row_get? u row' hrow' u' b := by
    rw [FiniteMap.get?_insert] at hrow'
    rw [hedges, Prod.mk.injEq]
    by_cases hu : u = v
    · subst hu
      rw [if_pos rfl, Option.some.injEq] at hrow'
      subst hrow'
      rw [FiniteMap.get?_insert]
      by_cases hu' : u' = w
      · simp [hu', eq_comm]
      · simpa [hu'] using h.row_get? u row hrow u' b
    · rw [if_neg hu] at hrow'
      simpa [hu] using h.row_get? u row' hrow' u' b

/-- Adding an edge to a table is adding it to the graph: the row is there. -/
theorem Holds.addEdge (h : t.Holds g) (hg : g.WellFormed) (x y : T) :
    ∃ t', t.addEdge x y = .ok t' ∧ t'.Holds (g.addEdge x y) := by
  obtain ⟨hx, hsource⟩ := h.addNode hg x
  obtain ⟨hy, htarget⟩ := hx.addNode (hg.addNode x) y
  have hgxy := (hg.addNode x).addNode y
  -- the second node leaves the id of the first alone
  rw [← LabelGraph.getElem?_addNode (x := y) (LabelGraph.order_of_getElem? hsource)] at hsource
  obtain ⟨row, hrow⟩ := Option.isSome_iff_exists.mp
    ((hy.row_isSome_iff _).mpr (LabelGraph.order_of_getElem? hsource))
  refine ⟨{ ((t.addNode x).2.addNode y).2 with
    rows := ((t.addNode x).2.addNode y).2.rows.insert (t.addNode x).1
      (row.insert ((t.addNode x).2.addNode y).1 true) }, ?_, ?_⟩
  · simp only [GraphTable.addEdge, hrow]
  · refine hy.insertEdge hrow LabelGraph.labels_addEdge fun e => ?_
    rw [LabelGraph.mem_edges_addEdge, LabelGraph.edges_addNode, LabelGraph.edges_addNode,
      hgxy.id_unique LabelGraph.getElem?_ends.1 hsource,
      hgxy.id_unique LabelGraph.getElem?_ends.2 htarget]

def perform (t : GraphTable T) : LabelGraph.Call T → Except Fault (GraphTable T)
  | .addNode x => .ok (t.addNode x).2
  | .addEdge x y => t.addEdge x y

def run (t : GraphTable T) (calls : List (LabelGraph.Call T)) : Except Fault (GraphTable T) :=
  calls.foldlM perform t

/-- A call to a table that holds a graph succeeds, and the table holds the graph
after the call. -/
theorem Holds.perform (h : t.Holds g) (hg : g.WellFormed) (c : LabelGraph.Call T) :
    ∃ t', t.perform c = .ok t' ∧ t'.Holds (g.perform c) := by
  cases c with
  | addNode x => exact ⟨_, rfl, (h.addNode hg x).1⟩
  | addEdge x y => exact h.addEdge hg x y

/-- Calls on a table never fail and do what they do to the graph. -/
theorem Holds.run :
    ∀ (calls : List (LabelGraph.Call T)) {t : GraphTable T} {g : LabelGraph T}, t.Holds g →
      g.WellFormed → ∃ t', t.run calls = .ok t' ∧ t'.Holds (g.run calls) := by
  intro calls
  induction calls with
  | nil => intro t g h _; exact ⟨t, rfl, h⟩
  | cons c rest ih =>
    intro t g h hg
    obtain ⟨t₁, hfirst, h₁⟩ := h.perform hg c
    obtain ⟨t₂, hrest, h₂⟩ := ih h₁ (hg.perform c)
    refine ⟨t₂, ?_, h₂⟩
    rw [GraphTable.run, List.foldlM_cons, hfirst]
    exact hrest

end Tables

/-! ## §4 Successors -/

theorem successors_natCast (t : GraphTable T) (v : Nat) :
    t.successors v = ((t.rows.get? v).elim [] FiniteMap.keys).mergeSort (· ≤ ·) := rfl

/-- The keys of a row come in any order; sorting puts them in one. -/
theorem pairwise_successors (t : GraphTable T) (v : Int) :
    (t.successors v).Pairwise (· < ·) := by
  have distinct : (t.successors v).Nodup := by
    refine (List.mergeSort_perm _ _).nodup_iff.mpr ?_
    cases t.row? v with
    | none => exact List.nodup_nil
    | some row => exact row.nodup
  exact (List.sortedLE_mergeSort.sortedLT_of_nodup distinct).pairwise

variable [DecidableEq T] in
/-- The successors of an id are the ends of the edges from it. -/
theorem Holds.mem_successors_iff (h : t.Holds g) (hg : g.WellFormed) {v w : Nat} :
    w ∈ t.successors v ↔ (v, w) ∈ g.edges := by
  rw [successors_natCast, List.mem_mergeSort]
  cases hrow : t.rows.get? v with
  | none =>
    refine ⟨fun hw => absurd hw List.not_mem_nil, fun he => ?_⟩
    have := (h.row_isSome_iff v).mpr (hg.edges_lt v w he).1
    rw [hrow] at this
    cases this
  | some row =>
    rw [Option.elim_some, FiniteMap.mem_keys, Option.isSome_iff_exists]
    simp only [h.row_get? v row hrow, exists_eq_left]

variable [DecidableEq T] in
/-- Only ids of nodes are successors. -/
theorem Holds.lt_order_of_mem_successors (h : t.Holds g) (hg : g.WellFormed) {v : Int} {w : Nat}
    (hw : w ∈ t.successors v) : w < t.order := by
  cases v with
  | ofNat v =>
    rw [h.order]
    exact (hg.edges_lt v w ((h.mem_successors_iff hg).mp hw)).2
  | negSucc v => exact absurd (List.mem_mergeSort.mp hw) List.not_mem_nil

/-! ## §5 Visitors -/

/-- One call of a visitor: the id and the cost that it is handed, and whether it
asks to stop. -/
structure Visit where
  id : Nat
  cost : Int
  stop : Bool
  deriving DecidableEq, Repr

section Visitors

variable {σ : Type} (ask : Nat → Int → StateM σ Bool)

/-- The visitor that does what `ask` does and keeps a list of its calls. -/
def recorded (w : Nat) (cost : Int) : StateM (σ × List Visit) Bool := fun (s, made) =>
  let (stop, s') := ask w cost s
  (stop, s', made ++ [⟨w, cost, stop⟩])

/-- The calls that are made when a visitor is handed ids in order until it asks
to stop; `stopped` says that it did. -/
structure HandsOver (ids : List Nat) (made : List Visit) (stopped : Bool) : Prop where
  /-- Ids are handed over in order, from the first one on. -/
  isPrefix : made.map Visit.id <+: ids
  cost_eq : ∀ c ∈ made, c.cost = 1
  /-- Only the last call can ask to stop. -/
  dropLast_stop : ∀ c ∈ made.dropLast, c.stop = false
  stopped_iff : stopped = true ↔ ∃ c ∈ made, c.stop = true
  /-- A visitor that never asks to stop is handed all the ids. -/
  all : stopped = false → made.map Visit.id = ids

theorem HandsOver.nil : HandsOver [] [] false where
  isPrefix := List.prefix_rfl
  cost_eq := by simp
  dropLast_stop := by simp
  stopped_iff := by simp
  all _ := rfl

theorem HandsOver.stop (w : Nat) (ids : List Nat) :
    HandsOver (w :: ids) [⟨w, 1, true⟩] true where
  isPrefix := by simp
  cost_eq := by simp
  dropLast_stop := by simp
  stopped_iff := by simp
  all := by simp

theorem HandsOver.cons {ids : List Nat} {made : List Visit} {stopped : Bool}
    (h : HandsOver ids made stopped) (w : Nat) :
    HandsOver (w :: ids) (⟨w, 1, false⟩ :: made) stopped where
  isPrefix := List.cons_prefix_cons.mpr ⟨rfl, h.isPrefix⟩
  cost_eq := List.forall_mem_cons.mpr ⟨rfl, h.cost_eq⟩
  dropLast_stop := by
    cases made with
    | nil => simp
    | cons c rest => exact List.forall_mem_cons.mpr ⟨rfl, h.dropLast_stop⟩
  stopped_iff := h.stopped_iff.trans (by simp)
  all hs := congrArg (w :: ·) (h.all hs)

/-- A visitor does the same when its calls are recorded, and the record shows
how the ids are handed over. -/
theorem anyM_recorded :
    ∀ (ids : List Nat) (s : σ) (before : List Visit), ∃ stopped s' made,
      ids.anyM (fun w => ask w 1) s = (stopped, s') ∧
      ids.anyM (fun w => recorded ask w 1) (s, before) = (stopped, s', before ++ made) ∧
      HandsOver ids made stopped := by
  intro ids
  induction ids with
  | nil =>
    intro s before
    exact ⟨false, s, [], rfl, by rw [List.append_nil]; rfl, .nil⟩
  | cons w rest ih =>
    intro s before
    simp only [List.anyM_cons]
    cases hask : ask w 1 s with
    | mk stop s₁ =>
      cases stop with
      | true =>
        refine ⟨true, s₁, [⟨w, 1, true⟩], ?_, ?_, .stop w rest⟩
        · simp only [bind, StateT.bind, hask]
          rfl
        · simp only [bind, StateT.bind, recorded, hask]
          rfl
      | false =>
        obtain ⟨stopped, s', made, hrun, hrec, hover⟩ := ih s₁ (before ++ [⟨w, 1, false⟩])
        refine ⟨stopped, s', ⟨w, 1, false⟩ :: made, ?_, ?_, hover.cons w⟩
        · simp only [bind, StateT.bind, hask]
          exact hrun
        · rw [List.append_cons]
          simp only [bind, StateT.bind, recorded, hask]
          exact hrec

end Visitors

/-! ## §6 Histories -/

variable [DecidableEq T]

/-- The table is what the calls ask for. -/
structure Represents (t : GraphTable T) (calls : List (LabelGraph.Call T)) : Prop where
  /-- Labels stand in the order of their first mention. -/
  labels_eq : t.labels = (calls.flatMap LabelGraph.Call.mentions).eraseDups
  nodup_labels : t.labels.Nodup
  /-- A label is found at its place among the labels, and nothing else is found. -/
  id?_eq_some_iff : ∀ x v, t.id? x = some v ↔ t.labels[v]? = some x
  /-- The ids have rows, and nothing else has. -/
  row?_isSome_iff : ∀ v : Nat, (t.row? v).isSome ↔ v < t.order
  pairwise_successors : ∀ v, (t.successors v).Pairwise (· < ·)
  /-- The successors of an id are those of the edges that were added. -/
  mem_successors_iff : ∀ v w : Nat, w ∈ t.successors v ↔
    ∃ x y, t.labels[v]? = some x ∧ t.labels[w]? = some y ∧ .addEdge x y ∈ calls
  /-- A visitor, with whatever state, is handed the successors of an id, all of
  them ids, until it asks to stop; the answer is whether it did. -/
  visit : ∀ {σ : Type} (ask : Nat → Int → StateM σ Bool) (v : Int) (s : σ),
    ∃ stopped s' made, t.visit v ask s = (stopped, s') ∧
      t.visit v (recorded ask) (s, []) = (stopped, s', made) ∧
      HandsOver (t.successors v) made stopped ∧ ∀ c ∈ made, c.id < t.order

/-- A table that holds the graph of some calls is what the calls ask for. -/
theorem Holds.represents {calls : List (LabelGraph.Call T)}
    (h : t.Holds ((LabelGraph.empty : LabelGraph T).run calls)) : t.Represents calls := by
  have hg := LabelGraph.wellFormed_run_empty calls
  refine ⟨?_, h.labels ▸ hg.nodup, fun x v => ?_, fun v => ?_, t.pairwise_successors,
    fun v w => ?_, ?_⟩
  · rw [h.labels, LabelGraph.labels_run_eraseDups calls [] rfl, List.nil_append]
  · rw [h.labels, h.id?_eq]
    exact hg.id?_eq_some_iff
  · rw [h.order]
    exact h.row_isSome_iff v
  · rw [h.mem_successors_iff hg, hg.mem_edges_iff, LabelGraph.joins_run_empty, h.labels]
  · intro σ ask v s
    obtain ⟨stopped, s', made, hrun, hrec, hover⟩ := anyM_recorded ask (t.successors v) s []
    refine ⟨stopped, s', made, hrun, hrec, hover, fun c hc => ?_⟩
    exact h.lt_order_of_mem_successors hg (hover.isPrefix.subset (List.mem_map_of_mem hc))

/-- **Tables stay in step.** Whatever nodes and edges are asked for, in whatever
order and however often, no call misses a row, and the table represents them:
labels in the order of first mention, each with its place as its id; a row for
every id; successors in increasing order, which are those of the edges that were
asked for and what a visitor is handed until it asks to stop. The same calls
build a graph with the same labels and edges. -/
theorem run_represents (calls : List (LabelGraph.Call T)) :
    ∃ t, (empty : GraphTable T).run calls = .ok t ∧ t.Represents calls ∧
      let g := (LabelGraph.empty : LabelGraph T).run calls
      t.labels = g.labels ∧ ∀ v w : Nat, w ∈ t.successors v ↔ g.hasEdge v w = true := by
  obtain ⟨t, hrun, h⟩ := holds_empty.run calls LabelGraph.wellFormed_empty
  refine ⟨t, hrun, h.represents, h.labels, fun v w => ?_⟩
  rw [h.mem_successors_iff (LabelGraph.wellFormed_run_empty calls), LabelGraph.hasEdge,
    decide_eq_true_iff]

example :
    ((empty : GraphTable Nat).run [.addEdge 7 3, .addNode 3, .addEdge 7 7, .addEdge 7 3]).map
      (fun t => (t.labels, t.successors 0, t.successors 1)) = .ok ([7, 3], [0, 1], []) := by
  cbv

end GraphTable

end ArgTaint
