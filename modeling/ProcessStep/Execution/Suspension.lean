import ProcessStep.Execution.Pending

/-!
Suspending an execution and taking it up again. `postpone` makes a step wait for its completion,
with the form of the activity if it has one; `state` writes a snapshot, in which what was saved
goes over what the caller gives, that over what the execution knows, and that over the state of
the activity; `applyState` takes the pending flows and the form out of a snapshot.
-/

namespace ProcessStep

open Definition (Flow)

namespace Execution

/-! ### Waiting for completion -/

/-- The form of the activity, filled with defaults and with what was restored. -/
def bindForm (e : Execution) : Except ResolutionError (Option Form) × Execution :=
  match e.activity.form with
  | none => (.ok none, e)
  | some d =>
      match e.input with
      | (.error x, e) => (.error x, e)
      | (.ok v, e) =>
          match (Form.ofDefinition d).init v e.environment with
          | (.error x, _) => (.error x, e)
          | (.ok (), form) =>
              match e.restoredForm with
              | some snapshot => (.ok (some (form.restore snapshot).2), e)
              | none => (.ok (some form), e)

/-- Makes the step wait; its completion will go to the given receiver. An earlier receiver is
no longer known afterwards. -/
def postpone (e : Execution) (receiver : Nat) : Except ResolutionError Unit × Execution :=
  match e.bindForm with
  | (.error x, e) => (.error x, e)
  | (.ok form, e) => (.ok (), { e with postponement := some ⟨form, some receiver⟩ })

/-- Ends the wait of the step; gives the receiver that its completion goes to. -/
def complete (e : Execution) : Except ExecutionError Nat × Execution :=
  match e.postponement with
  | none => (.error (.notPostponed e.id), e)
  | some ⟨_, none⟩ => (.error (.alreadyCompleted e.id), e)
  | some ⟨form, some receiver⟩ => (.ok receiver, { e with postponement := some ⟨form, none⟩ })

/-- The form that the step shows; it stays after the completion. -/
def form? (e : Execution) : Option Form :=
  e.postponement.bind (·.form)

/-- The receiver of a step that waits. -/
def receiver? (e : Execution) : Option Nat :=
  e.postponement.bind (·.receiver)

def setForm (e : Execution) (f : Form) : Execution :=
  { e with postponement := e.postponement.map ({ · with form := some f }) }

/-! ### Snapshots -/

/-- The ids of the pending outbound flows, for an activity that several flows leave. -/
def outboundIds (e : Execution) : Option Json × Execution :=
  if e.activity.isFork then
    let (fs, e) := e.pendingOutbound
    (some (.texts (fs.map (·.id))), e)
  else (none, e)

def state (e : Execution) (override : Option Snapshot) : Snapshot × Execution :=
  let own := e.behaviour.ownState.getD []
  let withForm := Table.insertSome own Snapshot.formKey (e.form?.map Form.state)
  let (ids, e) := e.outboundIds
  let known := Table.insertSome withForm Snapshot.outboundKey ids
  (Snapshot.merge (Snapshot.merge known (override.getD [])) (e.savedState.getD []), e)

/-- Flows by their ids, in the order of the ids. One that the activity does not have is left out
or is an error, as the policy says. -/
def restoreFlows (e : Execution) (d : Direction) (live : List Flow) :
    List String → Except ExecutionError (List Flow)
  | [] => .ok []
  | id :: ids =>
      match live.find? (·.id = id), e.config.restorePolicy with
      | some f, _ => do
          let fs ← restoreFlows e d live ids
          .ok (f :: fs)
      | none, .lenient => restoreFlows e d live ids
      | none, .strict => .error (.unknownFlow e.id d id)

def applyInbound (e : Execution) (s : Snapshot) : Except ExecutionError Execution := do
  match ← s.pendingInbound.mapError .invalidState with
  | none => .ok e
  | some ids =>
      let fs ← e.restoreFlows .inbound e.activity.inbound ids
      .ok { e with knownInbound := some fs }

def applyOutbound (e : Execution) (s : Snapshot) : Except ExecutionError Execution := do
  match ← s.pendingOutbound.mapError .invalidState with
  | none => .ok e
  | some ids =>
      let fs ← e.restoreFlows .outbound e.activity.outbound ids
      .ok { e with knownOutbound := some fs }

/-- Keeps the form of a snapshot for the next time the step waits. -/
def applyForm (e : Execution) (s : Snapshot) : Execution :=
  match s.form? with
  | some form => { e with restoredForm := some form }
  | none => e

/-- Takes what it can out of a snapshot: inbound flows, then outbound flows, then the form. What
was taken before an error stays. -/
def applyState (e : Execution) (s : Snapshot) : Except ExecutionError Unit × Execution :=
  match e.applyInbound s with
  | .error x => (.error x, e)
  | .ok e =>
      match e.applyOutbound s with
      | .error x => (.error x, e)
      | .ok e => (.ok (), e.applyForm s)

theorem complete_of_not_postponed {e : Execution} (h : e.postponement = none) :
    e.complete = (.error (.notPostponed e.id), e) := by
  simp [complete, h]

theorem isPostponed_eq_isSome_receiver (e : Execution) :
    e.isPostponed = e.receiver?.isSome := rfl

end Execution

end ProcessStep
