import ProcessStep.Process.Graph
import ProcessStep.Proofs.Tables

/-!
What a graph says of its flows. The activities that follow an id are the targets of the flows
that leave it, and those that precede it the sources of the flows that reach it, in the order of
the flows and with repetitions. This holds of any flows and ids; forks, joins and entries are
read off the same two lists. `Graph.Shows` puts it together, and `ofFlows_shows` says that no
condition on ids and flows is needed.
-/

namespace ProcessStep.Graph

open Definition (Flow)

variable {t : Table (List String)} {flows : List Flow} {id : String}

/-! ### Lists under keys -/

/-- What was pushed under a key stands there in its order, behind what stood there before. -/
theorem getD_foldl_push (key value : Flow → String) (fs : List Flow) (t : Table (List String))
    (k : String) :
    ((fs.foldl (fun t f => Table.push t (key f) (value f)) t).get? k).getD [] =
      (t.get? k).getD [] ++ (fs.filter (key · = k)).map value := by
  induction fs generalizing t with
  | nil => simp
  | cons f fs ih =>
      rw [List.foldl_cons, ih, Table.push, Table.get?_insert]
      by_cases same : key f = k <;> simp [same]

theorem sorted_foldl_push (sorted : t.Sorted) (key value : Flow → String) (fs : List Flow) :
    (fs.foldl (fun t f => Table.push t (key f) (value f)) t).Sorted := by
  induction fs generalizing t with
  | nil => exact sorted
  | cons f fs ih => exact ih (Table.sorted_insert sorted _ _)

/-- A key branches exactly if more than one value was pushed under it. -/
theorem mem_branching_iff (sorted : t.Sorted) :
    id ∈ branching t ↔ 1 < ((t.get? id).getD []).length := by
  simp only [branching, List.mem_map, List.mem_filter, decide_eq_true_eq]
  constructor
  · rintro ⟨⟨_, xs⟩, ⟨member, several⟩, rfl⟩
    rw [(Table.get?_eq_some_iff sorted).mpr member]
    exact several
  · intro several
    cases found : t.get? id with
    | none =>
        rw [found] at several
        cases several
    | some xs =>
        rw [found] at several
        exact ⟨(id, xs), ⟨Table.mem_of_get? found, several⟩, rfl⟩

/-! ### Graphs -/

def leaving (flows : List Flow) (id : String) : List Flow := flows.filter (·.source = id)

def reaching (flows : List Flow) (id : String) : List Flow := flows.filter (·.target = id)

/-- The activities that follow are the targets of the leaving flows, repeated ones again. -/
theorem following_ofFlows (ids : List String) (flows : List Flow) (id : String) :
    (ofFlows ids flows).following id = (leaving flows id).map (·.target) :=
  getD_foldl_push (·.source) (·.target) flows [] id

/-- The activities that precede are the sources of the reaching flows, repeated ones again. -/
theorem preceding_ofFlows (ids : List String) (flows : List Flow) (id : String) :
    (ofFlows ids flows).preceding id = (reaching flows id).map (·.source) :=
  getD_foldl_push (·.target) (·.source) flows [] id

theorem isFork_ofFlows (ids : List String) (flows : List Flow) (id : String) :
    (ofFlows ids flows).isFork id = decide (1 < (leaving flows id).length) := by
  have sorted := sorted_foldl_push Table.sorted_nil (·.source) (·.target) flows
  rw [isFork, List.contains_eq_mem, ofFlows, decide_eq_decide, mem_branching_iff sorted,
    getD_foldl_push]
  simp [leaving]

theorem isJoin_ofFlows (ids : List String) (flows : List Flow) (id : String) :
    (ofFlows ids flows).isJoin id = decide (1 < (reaching flows id).length) := by
  have sorted := sorted_foldl_push Table.sorted_nil (·.target) (·.source) flows
  rw [isJoin, List.contains_eq_mem, ofFlows, decide_eq_decide, mem_branching_iff sorted,
    getD_foldl_push]
  simp [reaching]

/-- Entries are the activities that no flow reaches, in the order of the definition. -/
theorem entries_ofFlows (ids : List String) (flows : List Flow) :
    (ofFlows ids flows).entries = ids.filter fun id => (reaching flows id).isEmpty := by
  refine List.filter_congr fun id _ => ?_
  rw [getD_foldl_push]
  simp [reaching]

/-- What a graph says of ids and flows, whether they fit together or not. -/
structure Shows (ids : List String) (flows : List Flow) (g : Graph) : Prop where
  /-- The targets of the flows that leave an id, as often as flows lead there. -/
  following : ∀ x, g.following x = (leaving flows x).map (·.target)
  /-- The sources of the flows that reach an id, as often as flows come from there. -/
  preceding : ∀ x, g.preceding x = (reaching flows x).map (·.source)
  fork : ∀ x, g.isFork x = true ↔ 1 < (leaving flows x).length
  join : ∀ x, g.isJoin x = true ↔ 1 < (reaching flows x).length
  /-- The ids that no flow leads to, in their order and as often as they are listed. -/
  entries : g.entries = ids.filter fun id => ∀ f ∈ flows, f.target ≠ id

/-- The graph of any ids and flows says what the flows say. The ids may repeat themselves, and flows
may have one id, lead back to where they come from, or have ends that are not among the ids: every
text is answered by the flows alone, and the ids matter only for where the graph is entered. -/
theorem ofFlows_shows (ids : List String) (flows : List Flow) :
    Shows ids flows (ofFlows ids flows) where
  following := following_ofFlows ids flows
  preceding := preceding_ofFlows ids flows
  fork x := by rw [isFork_ofFlows, decide_eq_true_iff]
  join x := by rw [isJoin_ofFlows, decide_eq_true_iff]
  entries := by
    rw [entries_ofFlows]
    refine List.filter_congr fun id _ => ?_
    rw [Bool.eq_iff_iff, decide_eq_true_iff, List.isEmpty_iff, reaching, List.filter_eq_nil_iff]
    simp

/-- An id that is listed twice, a flow back to it, two flows of one id to an end that is not
listed. -/
example :
    let g := ofFlows ["a", "b", "a", "b"]
      [.between "f" "a" "a", .between "g" "a" "x", .between "g" "a" "x"]
    g.following "a" = ["a", "x", "x"] ∧ g.preceding "x" = ["a", "a"] ∧ g.isJoin "x" = true ∧
      g.isJoin "a" = false ∧ g.entries = ["b", "b"] := by
  decide

end ProcessStep.Graph
