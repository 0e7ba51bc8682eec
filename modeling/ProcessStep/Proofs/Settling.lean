import ProcessStep.Proofs.Snapshots

/-!
Executions up to what they remember. `settled` computes all that an execution computes when it is
first needed, and gives its receiver another number. Reading a settled execution leaves it as it
is, and every operation does to a settled execution what it does to the execution itself
(`perform_settled`). So an execution and another one that settles to the same cannot be told
apart, whatever each of them has computed already and whatever numbers its receivers have.
-/

namespace ProcessStep

open Definition (Flow)

namespace Execution

/-- The execution with its input and its pending flows known, as far as they can be, and with
another number for its receiver. -/
def settled (number : Nat → Nat) (e : Execution) : Execution :=
  { e with
    knownInput := e.knownInput.or e.resolveInput.toOption
    knownInbound := some (e.knownInbound.getD e.awaited)
    knownOutbound := some (e.knownOutbound.getD e.considered)
    postponement := e.postponement.map fun p => { p with receiver := p.receiver.map number } }

theorem pendingInbound_fst (e : Execution) :
    e.pendingInbound.1 = e.knownInbound.getD e.awaited := by
  unfold pendingInbound
  cases e.knownInbound <;> rfl

theorem pendingOutbound_fst (e : Execution) :
    e.pendingOutbound.1 = e.knownOutbound.getD e.considered := by
  unfold pendingOutbound
  cases e.knownOutbound <;> rfl

/-- Computing what is needed for the first time does not change what an execution settles to. -/
theorem settled_recalls {e e' : Execution} (recalls : Recalls e e') (number : Nat → Nat) :
    e'.settled number = e.settled number := by
  induction recalls with
  | refl => rfl
  | @input e' _ ih =>
      rw [← ih]
      rcases e'.input_snd with same | ⟨v, unknown, resolved, same⟩
      · rw [same]
      · rw [same, settled, settled, unknown, resolved]
        rfl
  | @pendingInbound e' _ ih =>
      rw [← ih, pendingInbound_snd, pendingInbound_fst]
      rfl
  | @pendingOutbound e' _ ih =>
      rw [← ih, pendingOutbound_snd, pendingOutbound_fst]
      rfl

/-! ### Reading a settled execution -/

section Reading

variable (number : Nat → Nat) (e : Execution)

@[simp] theorem input_settled : (e.settled number).input = (e.input.1, e.settled number) := by
  unfold input
  have same : (e.settled number).resolveInput = e.resolveInput := rfl
  have known : (e.settled number).knownInput = e.knownInput.or e.resolveInput.toOption := rfl
  rw [known, same]
  cases e.knownInput with
  | some v => rfl
  | none => cases e.resolveInput <;> rfl

@[simp] theorem pendingInbound_settled :
    (e.settled number).pendingInbound = (e.pendingInbound.1, e.settled number) := by
  rw [pendingInbound_fst]
  exact pendingInbound_of_known rfl

@[simp] theorem pendingOutbound_settled :
    (e.settled number).pendingOutbound = (e.pendingOutbound.1, e.settled number) := by
  rw [pendingOutbound_fst]
  exact pendingOutbound_of_known rfl

theorem environment_input : e.input.2.environment = e.environment := by
  rw [(Recalls.refl (e := e)).input.frame]

@[simp] theorem output_settled : (e.settled number).output = (e.output.1, e.settled number) := by
  unfold output
  have same : (e.settled number).activity.outputParameters = e.activity.outputParameters := rfl
  rw [same]
  cases e.activity.outputParameters with
  | nil => rfl
  | cons p ps =>
      dsimp only
      rw [input_settled]
      rcases resolved : e.input with ⟨x | v, e'⟩
      · rfl
      · have environment := e.environment_input
        rw [resolved] at environment
        have scope : (e.settled number).outputScope v = e'.outputScope v := by
          rw [outputScope, outputScope, environment]
          rfl
        dsimp only
        rw [scope]
        rfl

@[simp] theorem contextInput_settled :
    (e.settled number).contextInput = (e.contextInput.1, e.settled number) := by
  unfold contextInput
  rw [input_settled]
  rcases resolved : e.input with ⟨x | v, e'⟩
  · rfl
  · have environment := e.environment_input
    rw [resolved] at environment
    dsimp only at environment ⊢
    rw [environment]
    rfl

/-- What was computed before does not change the scope with the input. -/
theorem contextInput_recalls {e e' : Execution} (recalls : Recalls e e') :
    e'.contextInput.1 = e.contextInput.1 := by
  have same := contextInput_settled (fun r => r) e'
  rw [settled_recalls recalls, contextInput_settled] at same
  exact (congrArg Prod.fst same).symm

@[simp] theorem contextOutput_settled :
    (e.settled number).contextOutput = (e.contextOutput.1, e.settled number) := by
  unfold contextOutput
  have same := contextInput_recalls (Recalls.refl (e := e)).output
  rw [output_settled]
  rcases produced : e.output with ⟨x | v, e'⟩
  · rfl
  · rw [produced] at same
    dsimp only at same ⊢
    rw [contextInput_settled, ← same]
    rcases e'.contextInput with ⟨x | s, e''⟩ <;> rfl

/-- What was computed before does not change the scope with the output. -/
theorem contextOutput_recalls {e e' : Execution} (recalls : Recalls e e') :
    e'.contextOutput.1 = e.contextOutput.1 := by
  have same := contextOutput_settled (fun r => r) e'
  rw [settled_recalls recalls, contextOutput_settled] at same
  exact (congrArg Prod.fst same).symm

/-- Once all is resolved, asking for the flows to be taken changes nothing any more. -/
@[simp] theorem eligibleOutbound_settled :
    (e.settled number).eligibleOutbound = (e.eligibleOutbound.1, e.settled number) := by
  unfold eligibleOutbound
  have same := contextOutput_recalls (Recalls.refl (e := e)).pendingOutbound
  rw [pendingOutbound_settled]
  rcases pending : e.pendingOutbound with ⟨_ | ⟨f, fs⟩, e'⟩
  · rfl
  · rw [pending] at same
    dsimp only at same ⊢
    rw [contextOutput_settled, ← same]
    rcases e'.contextOutput with ⟨x | s, e''⟩ <;> rfl

theorem outboundIds_settled :
    (e.settled number).outboundIds = (e.outboundIds.1, e.settled number) := by
  unfold outboundIds
  have same : (e.settled number).activity.isFork = e.activity.isFork := rfl
  rw [pendingOutbound_settled, same]
  split <;> rfl

@[simp] theorem form?_settled : (e.settled number).form? = e.form? := by
  cases postponed : e.postponement <;> simp [form?, settled, postponed]

@[simp] theorem state_settled (override : Option Snapshot) :
    (e.settled number).state override = ((e.state override).1, e.settled number) := by
  unfold state
  rw [outboundIds_settled, form?_settled]
  dsimp only
  rw [e.outboundIds_snd]
  rfl

@[simp] theorem isPostponed_settled : (e.settled number).isPostponed = e.isPostponed := by
  rcases postponed : e.postponement with _ | ⟨form, _ | r⟩ <;>
    simp [isPostponed, settled, postponed]

end Reading

/-! ### Changing a settled execution -/

section Changing

variable (number : Nat → Nat) (e : Execution)

theorem bindForm_settled : (e.settled number).bindForm = (e.bindForm.1, e.settled number) := by
  unfold bindForm
  have same : (e.settled number).activity.form = e.activity.form := rfl
  rw [same]
  cases e.activity.form with
  | none => rfl
  | some d =>
      dsimp only
      have kept := (Recalls.refl (e := e)).input.frame
      rw [input_settled]
      rcases resolved : e.input with ⟨x | v, e'⟩
      · rfl
      · rw [resolved] at kept
        dsimp only at kept
        have environment : e'.environment = (e.settled number).environment := by
          rw [kept]
          rfl
        have restored : e'.restoredForm = (e.settled number).restoredForm := by
          rw [kept]
          rfl
        dsimp only
        rw [environment, restored]
        rcases (Form.ofDefinition d).init v (e.settled number).environment with ⟨x | ⟨⟩, form⟩
        · rfl
        · cases (e.settled number).restoredForm <;> rfl

/-- A step can be suspended before or after all is resolved. -/
theorem postpone_settled (r : Nat) :
    (e.settled number).postpone (number r) =
      ((e.postpone r).1, (e.postpone r).2.settled number) := by
  have same := settled_recalls e.recalls_bindForm number
  unfold postpone
  rw [bindForm_settled]
  rcases bound : e.bindForm with ⟨x | form, e'⟩
  · rw [bound] at same
    exact congrArg _ same.symm
  · rw [bound] at same
    dsimp only at same ⊢
    rw [← same]
    rfl

@[simp] theorem complete_settled :
    (e.settled number).complete =
      (e.complete.1.map number, e.complete.2.settled number) := by
  unfold complete
  have same : (e.settled number).postponement =
      e.postponement.map fun p => { p with receiver := p.receiver.map number } := rfl
  rw [same]
  rcases e.postponement with _ | ⟨form, _ | r⟩ <;> rfl

theorem setForm_settled (f : Form) :
    (e.settled number).setForm f = (e.setForm f).settled number := by
  unfold setForm settled
  dsimp only
  cases e.postponement <;> rfl

@[simp] theorem editForm_settled {α : Type} (edit : Form → α × Form) :
    (e.settled number).editForm edit =
      ((e.editForm edit).1, (e.editForm edit).2.settled number) := by
  unfold editForm
  rw [form?_settled]
  cases e.form? with
  | none => rfl
  | some f => simp only [setForm_settled]

/-- A snapshot can be taken up before or after all is resolved. -/
@[simp] theorem applyState_settled (s : Snapshot) :
    (e.settled number).applyState s =
      ((e.applyState s).1, (e.applyState s).2.settled number) := by
  have inbound : (e.settled number).inboundIn s = e.inboundIn s := by
    apply flowsIn_congr <;> rfl
  have outbound : (e.settled number).outboundIn s = e.outboundIn s := by
    apply flowsIn_congr <;> rfl
  rw [applyState_eq, applyState_eq, inbound, outbound]
  rcases e.inboundIn s with x | _ | fs
  · rfl
  · rcases e.outboundIn s with x | _ | fs <;> rfl
  · rcases e.outboundIn s with x | _ | fs' <;> rfl

end Changing

end Execution

namespace Operation

def renumbered (number : Nat → Nat) : Operation → Operation
  | .postpone receiver => .postpone (number receiver)
  | op => op

def Answer.renumbered (number : Nat → Nat) : Answer → Answer
  | .completed outcome => .completed (outcome.map number)
  | answer => answer

/-- An operation does to a settled execution what it does to the execution itself. -/
theorem perform_settled (op : Operation) (number : Nat → Nat) (e : Execution) :
    (op.renumbered number).perform (e.settled number) =
      ((op.perform e).1.renumbered number, (op.perform e).2.settled number) := by
  by_cases reads : op.reads = true
  · have same : (op.perform e).2.settled number = e.settled number :=
      Execution.settled_recalls (recalls_of_reads reads e) number
    rw [same]
    cases op with
    | input | output | contextInput | contextOutput | pendingInbound | pendingOutbound
    | eligibleOutbound | state | form | isPostponed =>
        simp [renumbered, perform, Answer.renumbered]
    | resolve | result | isStopped => rfl
    | _ => cases reads
  · cases op with
    | setResult | setState | stop => rfl
    | applyState | enterValue | restoreForm | replaceForm | complete =>
        simp [renumbered, perform, Answer.renumbered]
    | postpone r =>
        simp only [renumbered, perform, Execution.postpone_settled, Answer.renumbered]
    | _ => exact absurd rfl reads

/-- An answer does not depend on what is resolved already, and names a receiver by its number. -/
theorem answer_settled (op : Operation) (number : Nat → Nat) (e : Execution) :
    (op.renumbered number).answer (e.settled number) = (op.answer e).renumbered number :=
  congrArg Prod.fst (op.perform_settled number e)

/-- Resolving all after an operation comes to the same as resolving all before it. -/
theorem effect_settled (op : Operation) (number : Nat → Nat) (e : Execution) :
    (op.renumbered number).effect (e.settled number) = (op.effect e).settled number :=
  congrArg Prod.snd (op.perform_settled number e)

theorem renumbered_self (op : Operation) : op.renumbered (fun r => r) = op := by
  cases op <;> rfl

theorem Answer.renumbered_self (a : Answer) : a.renumbered (fun r => r) = a := by
  cases a with
  | completed outcome => cases outcome <;> rfl
  | _ => rfl

end Operation

/-! ### What no operation changes -/

/-- The input is what is cached, or else what it resolves to. -/
theorem Execution.input_congr {e e' : Execution} (known : e'.knownInput = e.knownInput)
    (resolved : e'.resolveInput = e.resolveInput) : e'.input.1 = e.input.1 := by
  unfold input
  rw [known, resolved]
  cases e.knownInput with
  | some v => rfl
  | none => cases e.resolveInput <;> rfl

/-- The second execution was set up as the first one and gets the same input. -/
structure SameSetup (e e' : Execution) : Prop where
  id : e'.id = e.id
  behaviour : e'.behaviour = e.behaviour
  message : e'.message = e.message
  environment : e'.environment = e.environment
  config : e'.config = e.config
  trigger : e'.trigger = e.trigger
  rootFlow : e'.rootFlow = e.rootFlow
  input : e'.input.1 = e.input.1

namespace SameSetup

open Execution

variable {e e' e'' : Execution}

theorem refl (e : Execution) : SameSetup e e := ⟨rfl, rfl, rfl, rfl, rfl, rfl, rfl, rfl⟩

theorem trans (h : SameSetup e e') (h' : SameSetup e' e'') : SameSetup e e'' where
  id := h'.id.trans h.id
  behaviour := h'.behaviour.trans h.behaviour
  message := h'.message.trans h.message
  environment := h'.environment.trans h.environment
  config := h'.config.trans h.config
  trigger := h'.trigger.trans h.trigger
  rootFlow := h'.rootFlow.trans h.rootFlow
  input := h'.input.trans h.input

/-- What is neither the setup nor the input can be exchanged. -/
theorem of_eq (kept : e' = { e with
    result := e'.result, knownInbound := e'.knownInbound, knownOutbound := e'.knownOutbound,
    savedState := e'.savedState, restoredForm := e'.restoredForm, postponement := e'.postponement,
    isStopped := e'.isStopped }) : SameSetup e e' := by
  have input : e'.input.1 = e.input.1 := by
    have same : e'.resolveInput = e.resolveInput := by
      rw [kept]
      rfl
    exact input_congr (by rw [kept]) same
  constructor <;> first | exact input | rw [kept]

/-- Asking changes nothing that an execution was set up with. -/
theorem of_recalls (recalls : Recalls e e') : SameSetup e e' := by
  have input : e'.input.1 = e.input.1 := by
    have same := input_settled (fun r => r) e'
    rw [settled_recalls recalls, input_settled] at same
    exact (congrArg Prod.fst same).symm
  constructor <;> first | exact input | rw [recalls.frame]

theorem editForm {α : Type} (e : Execution) (edit : Form → α × Form) :
    SameSetup e (e.editForm edit).2 :=
  .of_eq (by rw [e.editForm_frame])

theorem applyState (e : Execution) (s : Snapshot) : SameSetup e (e.applyState s).2 :=
  .of_eq (by rw [e.applyState_frame])

theorem postpone (e : Execution) (r : Nat) : SameSetup e (e.postpone r).2 := by
  have bound := of_recalls e.recalls_bindForm
  rcases e.postpone_eq r with ⟨x, _, fails⟩ | ⟨f, _, succeeds⟩
  · rw [fails]
    exact bound
  · rw [succeeds]
    exact bound.trans (.of_eq rfl)

theorem complete (e : Execution) : SameSetup e e.complete.2 :=
  .of_eq (by rw [e.complete_frame])

/-- No operation changes how an execution was set up, nor the input it gets. -/
theorem effect (op : Operation) (e : Execution) : SameSetup e (op.effect e) := by
  by_cases reads : op.reads = true
  · exact of_recalls (Operation.recalls_of_reads reads e)
  · cases op with
    | setResult | setState | stop => exact .of_eq rfl
    | applyState s => exact applyState e s
    | enterValue | restoreForm | replaceForm => exact editForm e _
    | postpone r => exact postpone e r
    | complete => exact complete e
    | _ => exact absurd rfl reads

/-- No run of operations changes what an execution was set up with. -/
theorem after (e : Execution) (ops : List Operation) : SameSetup e (e.after ops) := by
  induction ops generalizing e with
  | nil => exact .refl e
  | cons op ops ih => exact (effect op e).trans (ih (op.effect e))

end SameSetup

end ProcessStep
