import ProcessStep.Proofs.Graphs
import ProcessStep.Proofs.WellFormed

/-!
What a linked process is made of. `MadeOf` says, of a definition and a process, that the process
has the activities and the flows of the definition, each under its id; that every flow stands at
its source and at its target and nowhere else; and that the graph says of each activity what its
own flows say. The graph and the activities are built apart from each other, from the same flows:
`linked_exactly` says that they agree in every process that linking makes.
-/

namespace ProcessStep

open Definition (Flow)

namespace LinkedProcess

/-- The process consists of the parts of the definition, with each flow where it belongs. -/
structure MadeOf (d : Definition.Process) (p : LinkedProcess) : Prop where
  /-- The activities are those of the definition, in its order. -/
  activities : p.activities.map (·.toActivity) = d.activities
  activity : ∀ a ∈ p.activities, p.activity a.id = .ok a
  noActivity : ∀ id, id ∉ d.activityIds → p.activity id = .error (.activityNotFound id)
  flow : ∀ f ∈ d.flows, p.flow? f.id = some f
  noFlow : ∀ id, id ∉ d.flows.map (·.id) → p.flow? id = none
  /-- There are an activity that a flow leaves and an activity that it reaches. -/
  ends : ∀ f ∈ d.flows, f.source ∈ p.activities.map (·.id) ∧ f.target ∈ p.activities.map (·.id)
  /-- A flow stands once among the outbound flows of its source, and not among those of any other
  activity. -/
  outbound : ∀ a ∈ p.activities, ∀ f ∈ d.flows,
    a.outbound.count f = if f.source = a.id then 1 else 0
  /-- A flow stands once among the inbound flows of its target, and not among those of any other
  activity. -/
  inbound : ∀ a ∈ p.activities, ∀ f ∈ d.flows,
    a.inbound.count f = if f.target = a.id then 1 else 0
  /-- The flows at an activity are flows of the definition, in its order. -/
  order : ∀ a ∈ p.activities, a.inbound.Sublist d.flows ∧ a.outbound.Sublist d.flows
  following : ∀ a ∈ p.activities, p.graph.following a.id = a.outbound.map (·.target)
  preceding : ∀ a ∈ p.activities, p.graph.preceding a.id = a.inbound.map (·.source)
  fork : ∀ a ∈ p.activities, p.graph.isFork a.id = a.isFork
  join : ∀ a ∈ p.activities, p.graph.isJoin a.id = a.isJoin
  /-- The graph is entered at the activities that no flow reaches, in the order of the
  definition. -/
  entries : p.graph.entries = (p.activities.filter (·.inbound.isEmpty)).map (·.id)

variable {d : Definition.Process} {p : LinkedProcess}

/-- The process that linking makes. -/
theorem eq_of_link (linked : link d = .ok p) :
    p = { id := d.id, name := d.name, activities := d.activities.map (Activity.link d.flows),
          places := .ofList d.activityIds.zipIdx,
          flows := .ofList (d.flows.map fun f => (f.id, f)),
          graph := .ofFlows d.activityIds d.flows } := by
  have fit := wellFormed_of_link linked
  rw [link_eq, problem?_eq_none_iff.mpr fit] at linked
  exact (Except.ok.inj linked).symm

/-- A linked process has the activities of its definition, in their order. -/
theorem ids_activities (linked : link d = .ok p) : p.activities.map (·.id) = d.activityIds := by
  rw [eq_of_link linked, List.map_map]
  rfl

/-- The flows of an activity are those that reach it and those that leave it. -/
theorem flows_of_mem {a : Activity} (linked : link d = .ok p) (member : a ∈ p.activities) :
    a.inbound = Graph.reaching d.flows a.id ∧ a.outbound = Graph.leaving d.flows a.id := by
  rw [eq_of_link linked] at member
  obtain ⟨activity, _, rfl⟩ := List.mem_map.mp member
  exact ⟨rfl, rfl⟩

/-! ### Looking up -/

/-- The place that is noted for an activity is the one where it stands. -/
theorem activity_of_mem {a : Activity} (linked : link d = .ok p) (member : a ∈ p.activities) :
    p.activity a.id = .ok a := by
  obtain ⟨i, here⟩ := List.mem_iff_getElem?.mp member
  -- Ids come once each, so a later entry of the index does not replace the place of this one.
  have distinct : (d.activityIds.zipIdx.map (·.1)).Nodup := by
    rw [List.zipIdx_map_fst]
    exact (wellFormed_of_link linked).activities
  have noted : (a.id, i) ∈ d.activityIds.zipIdx := by
    rw [List.mk_mem_zipIdx_iff_getElem?, ← ids_activities linked, List.getElem?_map, here]
    rfl
  have place : p.places.get? a.id = some i := by
    rw [eq_of_link linked, Table.get?_ofList]
    exact Table.last?_of_mem distinct noted
  rw [activity, place, Option.bind_some, here]

/-- No other id leads to an activity. -/
theorem activity_of_unknown {id : String} (linked : link d = .ok p) (unknown : id ∉ d.activityIds) :
    p.activity id = .error (.activityNotFound id) := by
  have place : p.places.get? id = none := by
    rw [eq_of_link linked, Table.get?_ofList, Table.last?_eq_none_iff, List.zipIdx_map_fst]
    exact unknown
  rw [activity, place]
  rfl

theorem ids_entries (fs : List Flow) : (fs.map fun f => (f.id, f)).map (·.1) = fs.map (·.id) := by
  rw [List.map_map]
  rfl

/-- Every flow is found under its id. -/
theorem flow?_of_mem {f : Flow} (linked : link d = .ok p) (member : f ∈ d.flows) :
    p.flow? f.id = some f := by
  rw [flow?, eq_of_link linked, Table.get?_ofList]
  refine Table.last?_of_mem ?_ (List.mem_map_of_mem member)
  rw [ids_entries]
  exact (wellFormed_of_link linked).flows.distinct

/-- No other id leads to a flow. -/
theorem flow?_of_unknown {id : String} (linked : link d = .ok p)
    (unknown : id ∉ d.flows.map (·.id)) : p.flow? id = none := by
  rw [flow?, eq_of_link linked, Table.get?_ofList, Table.last?_eq_none_iff, ids_entries]
  exact unknown

/-! ### The places of a flow -/

/-- Of different flows each stands once among those that are kept, or not at all. -/
theorem count_filter_of_distinct {fs : List Flow} (distinct : (fs.map (·.id)).Nodup) {f : Flow}
    (member : f ∈ fs) (keep : Flow → Bool) :
    (fs.filter keep).count f = if keep f then 1 else 0 := by
  have once : fs.count f = 1 := by
    have differ : fs.Nodup := (List.pairwise_map.mp distinct).imp fun other same =>
      other (congrArg (·.id) same)
    exact Nat.le_antisymm (List.nodup_iff_count.mp differ f) (List.count_pos_iff.mpr member)
  cases kept : keep f with
  | true => rw [List.count_filter kept, once, if_pos rfl]
  | false =>
      refine List.count_eq_zero.mpr fun stands => ?_
      rw [(List.mem_filter.mp stands).2] at kept
      cases kept

/-- A process that could be linked is made of the parts of its definition: it finds each of them
under its id and nothing else, every flow stands once at its source and once at its target, and
the graph agrees with the activities. -/
theorem linked_exactly (linked : link d = .ok p) : MadeOf d p where
  activities := by
    rw [eq_of_link linked, List.map_map]
    exact List.map_id' d.activities
  activity _ member := activity_of_mem linked member
  noActivity _ unknown := activity_of_unknown linked unknown
  flow _ member := flow?_of_mem linked member
  noFlow _ unknown := flow?_of_unknown linked unknown
  ends f member := by
    rw [ids_activities linked]
    exact (wellFormed_of_link linked).flows.joined f member
  outbound a member f listed := by
    have distinct := (wellFormed_of_link linked).flows.distinct
    rw [(flows_of_mem linked member).2, Graph.leaving, count_filter_of_distinct distinct listed]
    simp
  inbound a member f listed := by
    have distinct := (wellFormed_of_link linked).flows.distinct
    rw [(flows_of_mem linked member).1, Graph.reaching, count_filter_of_distinct distinct listed]
    simp
  order a member := by
    obtain ⟨inbound, outbound⟩ := flows_of_mem linked member
    rw [inbound, outbound]
    exact ⟨List.filter_sublist, List.filter_sublist⟩
  following a member := by
    rw [(flows_of_mem linked member).2, eq_of_link linked, Graph.following_ofFlows]
  preceding a member := by
    rw [(flows_of_mem linked member).1, eq_of_link linked, Graph.preceding_ofFlows]
  fork a member := by
    rw [Activity.isFork, (flows_of_mem linked member).2, eq_of_link linked, Graph.isFork_ofFlows]
  join a member := by
    rw [Activity.isJoin, (flows_of_mem linked member).1, eq_of_link linked, Graph.isJoin_ofFlows]
  entries := by
    have unreached : p.activities.filter (·.inbound.isEmpty) =
        p.activities.filter fun a => (Graph.reaching d.flows a.id).isEmpty :=
      List.filter_congr fun a member => by rw [(flows_of_mem linked member).1]
    calc p.graph.entries
        = d.activityIds.filter fun id => (Graph.reaching d.flows id).isEmpty := by
          rw [eq_of_link linked, Graph.entries_ofFlows]
      _ = (p.activities.filter fun a => (Graph.reaching d.flows a.id).isEmpty).map (·.id) := by
          rw [← ids_activities linked, List.filter_map]
          rfl
      _ = (p.activities.filter (·.inbound.isEmpty)).map (·.id) := by rw [unreached]

/-- A process with a flow from an activity to itself, two flows side by side, and an activity that
no flow touches. -/
def knot : Definition.Process where
  id := "knot"
  name := "knot"
  activities := [.ofType "again" "task", .ofType "next" "task", .ofType "alone" "task"]
  flows :=
    [.between "back" "again" "again", .between "first" "again" "next",
      (Flow.between "second" "again" "next").asDefault]

/-- The flow that leads back stands at both sides of its activity, and the graph is entered where
no flow leads. -/
theorem knot_linked_exactly :
    ∃ p, link knot = .ok p ∧ MadeOf knot p ∧
      p.activities.map (fun a => (a.inbound.map (·.id), a.outbound.map (·.id))) =
        [(["back"], ["back", "first", "second"]), (["first", "second"], []), ([], [])] ∧
      p.graph.entries = ["alone"] :=
  ⟨_, rfl, linked_exactly rfl, rfl, rfl⟩

end LinkedProcess

end ProcessStep
