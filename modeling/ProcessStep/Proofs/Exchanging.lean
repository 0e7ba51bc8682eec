import ProcessStep.Proofs.Operation

/-!
What no operation looks at. The restore policy of an execution matters when it takes up a snapshot
and the inbound flows that are known when it is asked for them; `exchanged` puts others in the place
of both. Every other operation gives the same answer then and leaves the same execution, up to the
exchange (`perform_exchanged`).
-/

namespace ProcessStep

open Definition (Flow)

namespace Execution

/-- The execution under a policy and with inbound flows known, or none. -/
def exchanged (e : Execution) (c : ExecutionConfig) (fs : Option (List Flow)) : Execution :=
  { e with config := c, knownInbound := fs }

section Exchanged

variable (e : Execution) (c : ExecutionConfig) (fs : Option (List Flow))

theorem input_exchanged :
    (e.exchanged c fs).input = (e.input.1, e.input.2.exchanged c fs) := by
  unfold input
  cases known : e.knownInput with
  | some v => simp [exchanged, known]
  | none =>
      have same : (e.exchanged c fs).resolveInput = e.resolveInput := rfl
      rw [same]
      cases e.resolveInput <;> simp [exchanged, known]

/-- The output reads the input, the result and the environment, none of which is exchanged. -/
theorem output_exchanged :
    (e.exchanged c fs).output = (e.output.1, e.output.2.exchanged c fs) := by
  unfold output
  have same : (e.exchanged c fs).activity.outputParameters = e.activity.outputParameters := rfl
  rw [same]
  cases e.activity.outputParameters with
  | nil => rfl
  | cons p ps =>
      dsimp only
      rw [input_exchanged]
      rcases e.input with ⟨x | v, e'⟩ <;> rfl

theorem contextInput_exchanged :
    (e.exchanged c fs).contextInput = (e.contextInput.1, e.contextInput.2.exchanged c fs) := by
  unfold contextInput
  rw [input_exchanged]
  rcases e.input with ⟨x | v, e'⟩ <;> rfl

theorem contextOutput_exchanged :
    (e.exchanged c fs).contextOutput = (e.contextOutput.1, e.contextOutput.2.exchanged c fs) := by
  unfold contextOutput
  rw [output_exchanged]
  rcases e.output with ⟨x | v, e'⟩
  · rfl
  · dsimp only
    rw [contextInput_exchanged]
    rcases e'.contextInput with ⟨x | s, e''⟩ <;> rfl

/-- The outbound flows are those of the activity, and not looked up among the inbound ones. -/
theorem pendingOutbound_exchanged :
    (e.exchanged c fs).pendingOutbound =
      (e.pendingOutbound.1, e.pendingOutbound.2.exchanged c fs) := by
  unfold pendingOutbound
  cases known : e.knownOutbound with
  | some fs' => simp [exchanged, known]
  | none => simp [exchanged, known, considered]

theorem eligibleOutbound_exchanged :
    (e.exchanged c fs).eligibleOutbound =
      (e.eligibleOutbound.1, e.eligibleOutbound.2.exchanged c fs) := by
  unfold eligibleOutbound
  rw [pendingOutbound_exchanged]
  rcases e.pendingOutbound with ⟨_ | ⟨f, rest⟩, e'⟩
  · rfl
  · dsimp only
    rw [contextOutput_exchanged]
    rcases e'.contextOutput with ⟨x | s, e''⟩ <;> rfl

theorem outboundIds_exchanged :
    (e.exchanged c fs).outboundIds = (e.outboundIds.1, e.outboundIds.2.exchanged c fs) := by
  unfold outboundIds
  rw [pendingOutbound_exchanged]
  show (if e.activity.isFork = true then _ else _) = _
  split <;> rfl

/-- A snapshot lists outbound flows only, so the inbound ones do not show. -/
theorem state_exchanged (override : Option Snapshot) :
    (e.exchanged c fs).state override =
      ((e.state override).1, (e.state override).2.exchanged c fs) := by
  unfold state
  rw [outboundIds_exchanged]
  rfl

theorem bindForm_exchanged :
    (e.exchanged c fs).bindForm = (e.bindForm.1, e.bindForm.2.exchanged c fs) := by
  unfold bindForm
  have same : (e.exchanged c fs).activity.form = e.activity.form := rfl
  rw [same]
  cases e.activity.form with
  | none => rfl
  | some d =>
      dsimp only
      rw [input_exchanged]
      rcases e.input with ⟨x | v, e'⟩
      · rfl
      · have environment : (e'.exchanged c fs).environment = e'.environment := rfl
        have restored : (e'.exchanged c fs).restoredForm = e'.restoredForm := rfl
        dsimp only
        rw [environment, restored]
        rcases (Form.ofDefinition d).init v e'.environment with ⟨x | ⟨⟩, form⟩
        · rfl
        · cases e'.restoredForm <;> rfl

/-- Suspending binds the form, which the flows have no part in. -/
theorem postpone_exchanged (r : Nat) :
    (e.exchanged c fs).postpone r = ((e.postpone r).1, (e.postpone r).2.exchanged c fs) := by
  unfold postpone
  rw [bindForm_exchanged]
  rcases e.bindForm with ⟨x | f, e'⟩ <;> rfl

/-- Completing asks for nothing but the receiver. -/
theorem complete_exchanged :
    (e.exchanged c fs).complete = (e.complete.1, e.complete.2.exchanged c fs) := by
  unfold complete
  have same : (e.exchanged c fs).postponement = e.postponement := rfl
  rw [same]
  rcases e.postponement with _ | ⟨form, _ | receiver⟩ <;> rfl

theorem editForm_exchanged {α : Type} (edit : Form → α × Form) :
    (e.exchanged c fs).editForm edit =
      ((e.editForm edit).1, (e.editForm edit).2.exchanged c fs) := by
  unfold editForm
  have same : (e.exchanged c fs).form? = e.form? := rfl
  rw [same]
  cases e.form? <;> rfl

end Exchanged

end Execution

namespace Operation

open Execution

/-- Only asking for inbound flows and taking up a snapshot see an exchange. -/
theorem perform_exchanged {op : Operation} (other : op ≠ .pendingInbound)
    (takesNothing : ∀ s, op ≠ .applyState s) (e : Execution) (c : ExecutionConfig)
    (fs : Option (List Flow)) :
    op.perform (e.exchanged c fs) = ((op.perform e).1, (op.perform e).2.exchanged c fs) := by
  cases op with
  | pendingInbound => exact absurd rfl other
  | applyState s => exact absurd rfl (takesNothing s)
  | input => simp only [perform, input_exchanged]
  | output => simp only [perform, output_exchanged]
  | contextInput => simp only [perform, contextInput_exchanged]
  | contextOutput => simp only [perform, contextOutput_exchanged]
  | pendingOutbound => simp only [perform, pendingOutbound_exchanged]
  | eligibleOutbound => simp only [perform, eligibleOutbound_exchanged]
  | state override => simp only [perform, state_exchanged]
  | enterValue | restoreForm | replaceForm => simp only [perform, editForm_exchanged]
  | postpone r => simp only [perform, postpone_exchanged]
  | complete => simp only [perform, complete_exchanged]
  | resolve | result | form | isPostponed | isStopped | setResult | setState | stop => rfl

/-- Other operations change neither the policy nor the inbound flows that are known. -/
theorem kept_of_perform {op : Operation} (other : op ≠ .pendingInbound)
    (takesNothing : ∀ s, op ≠ .applyState s) (e : Execution) :
    (op.perform e).2.config = e.config ∧ (op.perform e).2.knownInbound = e.knownInbound := by
  -- What is there already can be exchanged for itself.
  have same : op.perform e = ((op.perform e).1,
      (op.perform e).2.exchanged e.config e.knownInbound) :=
    perform_exchanged other takesNothing e e.config e.knownInbound
  constructor
  · exact congrArg (·.2.config) same
  · exact congrArg (·.2.knownInbound) same

end Operation

end ProcessStep
