import ProcessStep.Proofs.Forms
import ProcessStep.Proofs.Restoring

/-!
What a snapshot of an execution holds. An execution that nothing was saved in writes its form, if
one is bound, and at a fork the order of its outbound flows, over the state of its activity. It
never writes the inbound flows.
-/

namespace ProcessStep

open Definition (Flow)

namespace Snapshot

theorem allTexts?_texts (ids : List String) : allTexts? (.texts ids) = some ids := by
  show (ids.map Json.str).mapM Json.text? = some ids
  induction ids with
  | nil => rfl
  | cons id ids ih => simp [List.mapM_cons, ih, Json.text?]

/-- A list of texts under a key is read as ids. -/
theorem flowIds_of_texts {s : Snapshot} {key : String} {ids : List String}
    (listed : Table.get? s key = some (.texts ids)) : s.flowIds key = .ok (some ids) := by
  simp [flowIds, listed, allTexts?_texts]

end Snapshot

/-- The state of an activity that goes into every snapshot. -/
def Behaviour.state (b : Behaviour) : Snapshot := b.ownState.getD []

/-- An activity keeps its state under keys of its own: it lists no pending flows. -/
structure Behaviour.LeavesFlows (b : Behaviour) : Prop where
  inbound : Table.get? b.state Snapshot.inboundKey = none
  outbound : Table.get? b.state Snapshot.outboundKey = none

/-- An activity that has no state of its own lists no flows in it. -/
theorem Behaviour.leavesFlows_of_stateless {b : Behaviour} (stateless : b.ownState = none) :
    b.LeavesFlows := by
  constructor <;> rw [state, stateless] <;> rfl

namespace Execution

variable {e : Execution}

/-- Only at a fork are the pending outbound flows written. -/
theorem outboundIds_fst (e : Execution) :
    e.outboundIds.1 =
      if e.activity.isFork then some (.texts (e.pendingOutbound.1.map (·.id))) else none := by
  unfold outboundIds
  split <;> rfl

theorem outboundIds_snd (e : Execution) : e.outboundIds.2.savedState = e.savedState := by
  unfold outboundIds
  split
  · dsimp only
    rw [pendingOutbound_snd]
  · rfl

/-- The snapshot of an execution that nothing was saved in. -/
theorem state_of_unsaved (unsaved : e.savedState = none) :
    (e.state none).1 =
      Table.insertSome
        (Table.insertSome e.behaviour.state Snapshot.formKey (e.form?.map Form.state))
        Snapshot.outboundKey e.outboundIds.1 := by
  show Snapshot.merge _ (e.outboundIds.2.savedState.getD []) = _
  rw [outboundIds_snd, unsaved]
  rfl

/-- A snapshot has the form that is shown, or else what the activity says itself. -/
theorem form?_state (unsaved : e.savedState = none) :
    (e.state none).1.form? = (e.form?.map Form.state).or e.behaviour.state.form? := by
  rw [state_of_unsaved unsaved]
  simp [Snapshot.form?, Table.get?_insertSome, Snapshot.formKey, Snapshot.outboundKey]

/-- A snapshot never has inbound flows of the execution, but what the activity says itself. -/
theorem pendingInbound_state (unsaved : e.savedState = none) :
    (e.state none).1.pendingInbound = e.behaviour.state.pendingInbound := by
  rw [state_of_unsaved unsaved]
  simp [Snapshot.pendingInbound, Snapshot.flowIds, Table.get?_insertSome, Snapshot.formKey,
    Snapshot.outboundKey, Snapshot.inboundKey]

/-- At a fork the ids of the pending flows come back in their order. -/
theorem pendingOutbound_state_of_fork (unsaved : e.savedState = none)
    (fork : e.activity.isFork = true) :
    (e.state none).1.pendingOutbound = .ok (some (e.pendingOutbound.1.map (·.id))) := by
  refine Snapshot.flowIds_of_texts ?_
  rw [state_of_unsaved unsaved, outboundIds_fst, if_pos fork]
  simp [Table.get?_insertSome]

theorem pendingOutbound_state_of_not_fork (unsaved : e.savedState = none)
    (single : e.activity.isFork = false) :
    (e.state none).1.pendingOutbound = e.behaviour.state.pendingOutbound := by
  rw [state_of_unsaved unsaved, outboundIds_fst, single]
  simp [Snapshot.pendingOutbound, Snapshot.flowIds, Table.get?_insertSome, Snapshot.formKey,
    Snapshot.outboundKey]

end Execution

end ProcessStep
