import ProcessStep.Proofs.Linking
import ProcessStep.Proofs.Operation

/-!
Taking up a snapshot. `inboundIn` and `outboundIn` say which pending flows a snapshot lists for
an execution, and `applyState_eq` says all that `applyState` does with them.
-/

namespace ProcessStep

open Definition (Flow)

namespace Execution

/-- The flows that a list of ids in a snapshot stands for, if there is such a list. -/
def flowsIn (e : Execution) (d : Direction) (live : List Flow) :
    Except SnapshotProblem (Option (List String)) → Except ExecutionError (Option (List Flow))
  | .error p => .error (.invalidState p)
  | .ok none => .ok none
  | .ok (some ids) => (e.restoreFlows d live ids).map some

def inboundIn (e : Execution) (s : Snapshot) : Except ExecutionError (Option (List Flow)) :=
  e.flowsIn .inbound e.activity.inbound s.pendingInbound

def outboundIn (e : Execution) (s : Snapshot) : Except ExecutionError (Option (List Flow)) :=
  e.flowsIn .outbound e.activity.outbound s.pendingOutbound

/-- Restoring flows looks at the id and the policy of the execution only. -/
theorem restoreFlows_congr {e e' : Execution} (id : e'.id = e.id) (config : e'.config = e.config)
    (d : Direction) (live : List Flow) (ids : List String) :
    e'.restoreFlows d live ids = e.restoreFlows d live ids := by
  induction ids with
  | nil => rfl
  | cons i ids ih => simp only [restoreFlows, ih, id, config]

/-- Flows of the activity are restored from their ids as they are, whatever the policy. -/
theorem restoreFlows_ids (e : Execution) (d : Direction) {live fs : List Flow}
    (distinct : (live.map (·.id)).Nodup) (known : ∀ f ∈ fs, f ∈ live) :
    e.restoreFlows d live (fs.map (·.id)) = .ok fs := by
  induction fs with
  | nil => rfl
  | cons f fs ih =>
      obtain ⟨first, rest⟩ := List.forall_mem_cons.mp known
      rw [List.map_cons, restoreFlows, Flow.find?_id distinct first]
      simp only [ih rest]
      rfl

/-- Only flows of the activity are restored. -/
theorem mem_live_of_restoreFlows {e : Execution} {d : Direction} {live : List Flow}
    {ids : List String} {fs : List Flow} (restored : e.restoreFlows d live ids = .ok fs) :
    ∀ f ∈ fs, f ∈ live := by
  induction ids generalizing fs with
  | nil =>
      cases restored
      exact fun _ member => nomatch member
  | cons id ids ih =>
      unfold restoreFlows at restored
      split at restored
      · next f found =>
          cases later : e.restoreFlows d live ids with
          | error x =>
              rw [later] at restored
              cases restored
          | ok fs' =>
              rw [later] at restored
              cases restored
              exact List.forall_mem_cons.mpr ⟨List.mem_of_find?_eq_some found, ih later⟩
      · exact ih restored
      · cases restored

/-- What ids stand for depends on the execution by its id and its policy, which errors quote and
which decides about unknown ids. -/
theorem flowsIn_congr {e e' : Execution} (id : e'.id = e.id) (config : e'.config = e.config)
    (d : Direction) (live : List Flow)
    (ids : Except SnapshotProblem (Option (List String))) :
    e'.flowsIn d live ids = e.flowsIn d live ids := by
  rcases ids with p | _ | ids
  · rfl
  · rfl
  · simp only [flowsIn, restoreFlows_congr id config]

/-- The flows that a snapshot lists are flows of the activity. -/
theorem mem_live_of_flowsIn {e : Execution} {d : Direction} {live fs : List Flow}
    {ids : Except SnapshotProblem (Option (List String))}
    (restored : e.flowsIn d live ids = .ok (some fs)) : ∀ f ∈ fs, f ∈ live := by
  rcases ids with p | _ | ids
  · cases restored
  · cases restored
  · cases listed : e.restoreFlows d live ids with
    | error x =>
        simp only [flowsIn, listed] at restored
        cases restored
    | ok fs' =>
        simp only [flowsIn, listed] at restored
        cases restored
        exact mem_live_of_restoreFlows listed

/-- Inbound flows that a snapshot does not list stay as they are known. -/
theorem applyInbound_eq (e : Execution) (s : Snapshot) :
    e.applyInbound s =
      (e.inboundIn s).map fun fs => { e with knownInbound := fs.or e.knownInbound } := by
  unfold applyInbound inboundIn
  rcases s.pendingInbound with p | _ | ids
  · rfl
  · rfl
  · show (e.restoreFlows .inbound e.activity.inbound ids >>= fun fs => _) = _
    simp only [flowsIn]
    cases e.restoreFlows .inbound e.activity.inbound ids <;> rfl

/-- Outbound flows that a snapshot does not list stay as they are known. -/
theorem applyOutbound_eq (e : Execution) (s : Snapshot) :
    e.applyOutbound s =
      (e.outboundIn s).map fun fs => { e with knownOutbound := fs.or e.knownOutbound } := by
  unfold applyOutbound outboundIn
  rcases s.pendingOutbound with p | _ | ids
  · rfl
  · rfl
  · show (e.restoreFlows .outbound e.activity.outbound ids >>= fun fs => _) = _
    simp only [flowsIn]
    cases e.restoreFlows .outbound e.activity.outbound ids <;> rfl

/-- All that taking up a snapshot does: a list of inbound flows that cannot be restored stops it
before anything is changed, one of outbound flows when the inbound flows are already replaced. -/
theorem applyState_eq (e : Execution) (s : Snapshot) :
    e.applyState s =
      match e.inboundIn s, e.outboundIn s with
      | .error x, _ => (.error x, e)
      | .ok inbound, .error x =>
          (.error x, { e with knownInbound := inbound.or e.knownInbound })
      | .ok inbound, .ok outbound =>
          (.ok (), { e with
            knownInbound := inbound.or e.knownInbound
            knownOutbound := outbound.or e.knownOutbound
            restoredForm := s.form?.or e.restoredForm }) := by
  unfold applyState
  rw [applyInbound_eq]
  cases e.inboundIn s with
  | error x => rfl
  | ok inbound =>
      have unmoved : outboundIn { e with knownInbound := inbound.or e.knownInbound } s =
          e.outboundIn s := by
        apply flowsIn_congr <;> rfl
      dsimp only [Except.map]
      rw [applyOutbound_eq, unmoved]
      cases e.outboundIn s with
      | error x => rfl
      | ok outbound =>
          dsimp only [Except.map, applyForm]
          cases s.form? <;> rfl

/-- The three ways in which taking up a snapshot can end. -/
theorem applyState_cases (e : Execution) (s : Snapshot) :
    (∃ x, e.inboundIn s = .error x ∧ e.applyState s = (.error x, e)) ∨
      (∃ inbound x, e.inboundIn s = .ok inbound ∧ e.outboundIn s = .error x ∧
        e.applyState s = (.error x, { e with knownInbound := inbound.or e.knownInbound })) ∨
      ∃ inbound outbound, e.inboundIn s = .ok inbound ∧ e.outboundIn s = .ok outbound ∧
        e.applyState s = (.ok (), { e with
          knownInbound := inbound.or e.knownInbound
          knownOutbound := outbound.or e.knownOutbound
          restoredForm := s.form?.or e.restoredForm }) := by
  rw [applyState_eq]
  rcases e.inboundIn s with x | inbound
  · exact .inl ⟨x, rfl, rfl⟩
  · rcases e.outboundIn s with x | outbound
    · exact .inr (.inl ⟨inbound, x, rfl, rfl, rfl⟩)
    · exact .inr (.inr ⟨inbound, outbound, rfl, rfl, rfl⟩)

/-- Taking up a snapshot changes pending flows and the form to be restored only. -/
theorem applyState_frame (e : Execution) (s : Snapshot) :
    (e.applyState s).2 = { e with
      knownInbound := (e.applyState s).2.knownInbound
      knownOutbound := (e.applyState s).2.knownOutbound
      restoredForm := (e.applyState s).2.restoredForm } := by
  rcases e.applyState_cases s with ⟨x, _, same⟩ | ⟨inbound, x, _, _, same⟩ |
    ⟨inbound, outbound, _, _, same⟩ <;> rw [same]

/-! ### A sample step -/

/-- A process whose first activity shows a form with two fields of one id; two flows reach the
activity and two leave it. -/
def triage : Definition.Process where
  id := "triage"
  name := "triage"
  activities :=
    [(Definition.Activity.ofType "sort" "userTask").withForm
      ⟨none, [.ofId "note", .ofId "note"]⟩,
      .ofType "mail" "startEvent", .ofType "phone" "startEvent", .ofType "fix" "task",
      .ofType "close" "task"]
  flows :=
    [.between "byMail" "mail" "sort", .between "byPhone" "phone" "sort",
      .between "toFix" "sort" "fix", (Flow.between "toClose" "sort" "close").asDefault]

def triageStep : Activity :=
  .link triage.flows ((Definition.Activity.ofType "sort" "userTask").withForm
    ⟨none, [.ofId "note", .ofId "note"]⟩)

def triageStart (c : ExecutionConfig) : Execution :=
  (Execution.start ⟨triageStep, none⟩ .empty (.ofVariables []) "").withConfig c

end Execution

end ProcessStep
