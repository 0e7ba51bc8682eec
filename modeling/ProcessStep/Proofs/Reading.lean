import ProcessStep.Proofs.Resuming
import ProcessStep.Proofs.Settling

/-!
Reading leaves no trace. What an execution computes when it is first needed is kept, so a read
changes the execution; but no answer ever shows whether it took place. `Place` lays two runs side
by side that differ in reads only. Both leave executions that settle to the same, and so each of
their common operations has the same answer in both.
-/

namespace ProcessStep

open Definition (Flow)

/-- A place in two runs side by side: an operation of both, or a read that one of them lacks. -/
inductive Place where
  | both (op : Operation)
  | onlyFirst (op : Operation) (reads : op.reads = true)
  | onlySecond (op : Operation) (reads : op.reads = true)

namespace Place

def first? : Place → Option Operation
  | both op | onlyFirst op _ => some op
  | onlySecond _ _ => none

def second? : Place → Option Operation
  | both op | onlySecond op _ => some op
  | onlyFirst _ _ => none

/-- The first of two runs that are laid side by side. -/
def firstRun (places : List Place) : List Operation := places.filterMap first?

/-- The second of two runs that are laid side by side. -/
def secondRun (places : List Place) : List Operation := places.filterMap second?

end Place

namespace Execution

variable {e e' : Execution}

/-- The execution with all known that can be, and with its receiver. -/
abbrev ready (e : Execution) : Execution := e.settled fun r => r

/-- An operation does the same whether its caches are filled or not. -/
theorem effect_ready (op : Operation) (e : Execution) :
    op.effect e.ready = (op.effect e).ready := by
  have same := op.effect_settled (fun r => r) e
  rwa [Operation.renumbered_self] at same

/-- Filled caches change no answer. -/
theorem answer_ready (op : Operation) (e : Execution) : op.answer e.ready = op.answer e := by
  have same := op.answer_settled (fun r => r) e
  rwa [Operation.renumbered_self, Operation.Answer.renumbered_self] at same

/-- Executions that settle to the same answer the same. -/
theorem answer_eq_of_ready_eq (same : e'.ready = e.ready) (op : Operation) :
    op.answer e' = op.answer e := by
  rw [← answer_ready, same, answer_ready]

/-- Executions that settle to the same do so after any operation. -/
theorem ready_effect (same : e'.ready = e.ready) (op : Operation) :
    (op.effect e').ready = (op.effect e).ready := by
  rw [← effect_ready, same, effect_ready]

/-- An operation that only asks fills caches and does nothing else. -/
theorem ready_of_reads {op : Operation} (reads : op.reads = true) (e : Execution) :
    (op.effect e).ready = e.ready :=
  settled_recalls (Operation.recalls_of_reads reads e) _

/-- Runs that differ in reads only leave executions that settle to the same. -/
theorem ready_after (places : List Place) (same : e'.ready = e.ready) :
    (e'.after (Place.secondRun places)).ready = (e.after (Place.firstRun places)).ready := by
  -- a read that one run lacks does not change what the other settles to
  induction places generalizing e e' with
  | nil => exact same
  | cons place places ih =>
      cases place with
      | both op => exact ih (ready_effect same op)
      | onlyFirst op reads => exact ih (same.trans (ready_of_reads reads e).symm)
      | onlySecond op reads => exact ih ((ready_of_reads reads e').trans same)

/-- A failure to resolve the input leaves no trace. -/
theorem input_snd_of_error {x : ResolutionError} (fails : e.input.1 = .error x) :
    e.input.2 = e := by
  rcases e.input_snd with same | ⟨v, unknown, resolved, _⟩
  · exact same
  · unfold input at fails
    rw [unknown, resolved] at fails
    cases fails

/-- Inbound flows that were known do not matter to a snapshot that lists others. -/
theorem applyState_of_inbound {s : Snapshot} {fs : List Flow}
    (listed : e.inboundIn s = .ok (some fs)) :
    e.pendingInbound.2.applyState s = e.applyState s := by
  have inbound : e.pendingInbound.2.inboundIn s = e.inboundIn s := by
    rw [pendingInbound_snd]
    apply flowsIn_congr <;> rfl
  have outbound : e.pendingInbound.2.outboundIn s = e.outboundIn s := by
    rw [pendingInbound_snd]
    apply flowsIn_congr <;> rfl
  rw [applyState_eq, applyState_eq, inbound, outbound, listed, pendingInbound_snd]
  cases e.outboundIn s <;> rfl

/-- Outbound flows that were known do not matter to a snapshot that lists others and is taken
up. -/
theorem applyState_of_outbound {s : Snapshot} {fs : List Flow} {e₁ : Execution}
    (listed : e.outboundIn s = .ok (some fs)) (applied : e.applyState s = (.ok (), e₁)) :
    e.pendingOutbound.2.applyState s = (.ok (), e₁) := by
  have inbound : e.pendingOutbound.2.inboundIn s = e.inboundIn s := by
    rw [pendingOutbound_snd]
    apply flowsIn_congr <;> rfl
  have outbound : e.pendingOutbound.2.outboundIn s = e.outboundIn s := by
    rw [pendingOutbound_snd]
    apply flowsIn_congr <;> rfl
  rw [← applied, applyState_eq, applyState_eq, inbound, outbound, listed, pendingOutbound_snd]
  rw [applyState_eq, listed] at applied
  cases restored : e.inboundIn s with
  | error x =>
      rw [restored] at applied
      cases applied
  | ok inbound => rfl

/-- Reading leaves no trace: after two runs that differ in reads only, a fresh execution answers
every operation in the same way, and makes the same execution for a round of a loop. The input is
always the one that the activity gets for the message it was started with; a failure to resolve it
is not kept. A snapshot that lists pending flows does the same whether or not others were known. -/
theorem reads_leave_no_trace {b : Behaviour} {m : Message} {env : Environment}
    (fresh : Fresh b m env e) :
    (∀ places op, Operation.answer op (e.after (Place.secondRun places)) =
        op.answer (e.after (Place.firstRun places))) ∧
      (∀ places i token, (e.after (Place.secondRun places)).iteration i token =
        (e.after (Place.firstRun places)).iteration i token) ∧
      (∀ ops, (e.after ops).input.1 = inputOf b m env) ∧
      (∀ ops x, (e.after ops).input.1 = .error x → (e.after ops).input.2 = e.after ops) ∧
      (∀ ops s fs, (e.after ops).inboundIn s = .ok (some fs) →
        (e.after ops).pendingInbound.2.applyState s = (e.after ops).applyState s) ∧
      ∀ ops s fs e₁, (e.after ops).outboundIn s = .ok (some fs) →
        (e.after ops).applyState s = (.ok (), e₁) →
        (e.after ops).pendingOutbound.2.applyState s = (.ok (), e₁) := by
  refine ⟨fun places op => ?_, fun places i token => ?_, fun ops => ?_, fun ops x fails => ?_,
    fun ops s fs listed => ?_, fun ops s fs e₁ listed applied => ?_⟩
  · exact answer_eq_of_ready_eq (ready_after places rfl) op
  · have same := congrArg (·.iteration i token) (ready_after places (rfl : e.ready = e.ready))
    exact same
  · rw [(SameSetup.after e ops).input]
    exact (Intact.of_fresh fresh).input_fst
  · exact input_snd_of_error fails
  · exact applyState_of_inbound listed
  · exact applyState_of_outbound listed applied

/-- The flows that are taken up from a snapshot are pending, whatever was read before and after
that, and the flow to be taken is then found in the restored order. -/
theorem triage_reads_leave_no_trace :
    let order : Snapshot := [("pendingOutbound", .texts ["toClose", "toFix"])]
    let e := triageStart .lenient
    Operation.answer .eligibleOutbound
        (e.after [.eligibleOutbound, .state none, .applyState order, .input]) =
      Operation.answer .eligibleOutbound (e.after [.applyState order]) ∧
    (e.after [.applyState order]).input.1 =
      inputOf ⟨triageStep, none⟩ .empty (.ofVariables []) ∧
    e.pendingOutbound.2.applyState order = e.applyState order := by
  intro order e
  have fresh : Fresh ⟨triageStep, none⟩ .empty (.ofVariables []) e := .withConfig _ (.start _)
  obtain ⟨answers, _, input, _, _, outbound⟩ := reads_leave_no_trace fresh
  refine ⟨?_, input _, ?_⟩
  · exact answers [.onlySecond .eligibleOutbound rfl, .onlySecond (.state none) rfl,
      .both (.applyState order), .onlySecond .input rfl] .eligibleOutbound
  · exact outbound [] order _ _ rfl rfl

end Execution

end ProcessStep
