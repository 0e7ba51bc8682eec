import ProcessStep.Process.Basic

/-!
What linking guarantees. The flows of a linked process have different ids, and so have the flows
at each side of its activities: a flow of an activity is found under its id.
-/

namespace ProcessStep

open Definition (Flow)

namespace LinkedProcess

/-- What is wrong with a flow after flows of the ids `seen`. -/
def flowFault? (ids seen : List String) (f : Flow) : Option ProcessError :=
  if f.id ∈ seen then some (.duplicateFlow f.id)
  else if f.source ∈ ids ∧ f.target ∈ ids then none
  else some (.unknownEnd f.id f.source f.target)

/-- A flow is without fault if its id is new and it joins two of the activities. -/
theorem flowFault?_eq_none_iff {ids seen : List String} {f : Flow} :
    flowFault? ids seen f = none ↔ f.id ∉ seen ∧ f.source ∈ ids ∧ f.target ∈ ids := by
  unfold flowFault?
  split
  · simp [*]
  · split <;> simp [*]

/-- The first fault is that of the first flow, or one behind it. -/
theorem faultyFlow?_cons (ids seen : List String) (f : Flow) (flows : List Flow) :
    faultyFlow? ids seen (f :: flows) =
      (flowFault? ids seen f).or (faultyFlow? ids (f.id :: seen) flows) := by
  rw [faultyFlow?, flowFault?]
  by_cases used : f.id ∈ seen
  · simp [used]
  · by_cases source : f.source ∈ ids <;> by_cases target : f.target ∈ ids <;>
      simp [used, source, target]

theorem faultyFlow?_eq_none_iff {ids seen : List String} {flows : List Flow} :
    faultyFlow? ids seen flows = none ↔
      (flows.map (·.id)).Nodup ∧ ∀ f ∈ flows, flowFault? ids seen f = none := by
  induction flows generalizing seen with
  | nil => simp [faultyFlow?]
  | cons f flows ih =>
      rw [faultyFlow?_cons, Option.or_eq_none_iff, ih, List.map_cons, List.nodup_cons,
        List.forall_mem_cons]
      simp only [flowFault?_eq_none_iff, List.mem_cons, List.mem_map, not_or]
      grind

/-- What a process that could be linked consists of. -/
theorem of_link {d : Definition.Process} {p : LinkedProcess} (linked : link d = .ok p) :
    p.activities = d.activities.map (Activity.link d.flows) ∧ (d.flows.map (·.id)).Nodup := by
  unfold link at linked
  dsimp only at linked
  split at linked
  · cases linked
  · split at linked
    · cases linked
    · next faultless =>
        split at linked
        · cases linked
        · cases linked
          exact ⟨rfl, (faultyFlow?_eq_none_iff.mp faultless).1⟩

variable {d : Definition.Process} {p : LinkedProcess} {a : Activity}

/-- The flows at either side of an activity have different ids. -/
theorem distinct_flows (linked : link d = .ok p) (member : a ∈ p.activities) :
    (a.inbound.map (·.id)).Nodup ∧ (a.outbound.map (·.id)).Nodup := by
  obtain ⟨activities, distinct⟩ := of_link linked
  rw [activities] at member
  obtain ⟨activity, _, rfl⟩ := List.mem_map.mp member
  constructor
  · exact distinct.sublist (List.filter_sublist.map _)
  · exact distinct.sublist (List.filter_sublist.map _)

end LinkedProcess

/-- Among flows with different ids each is found under its own. -/
theorem Definition.Flow.find?_id {fs : List Flow} (distinct : (fs.map (·.id)).Nodup) {f : Flow}
    (member : f ∈ fs) : fs.find? (·.id = f.id) = some f := by
  induction fs with
  | nil => cases member
  | cons g fs ih =>
      rw [List.map_cons, List.nodup_cons] at distinct
      rcases List.mem_cons.mp member with rfl | later
      · simp
      · have differs : g.id ≠ f.id := fun same =>
          distinct.1 (same ▸ List.mem_map_of_mem later)
        rw [List.find?_cons_of_neg (by simpa using differs)]
        exact ih distinct.2 later

end ProcessStep
