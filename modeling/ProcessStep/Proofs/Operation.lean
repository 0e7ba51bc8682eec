import ProcessStep.Execution.Suspension

/-!
Everything that can be done to an execution. `Operation` lists the operations, `perform` carries
one out and gives its answer, and `Reached` holds of the executions that operations lead to from
a fresh one.

What reading leaves behind is said once: `Recalls` closes an execution under the three
computations that are done when they are first needed, and `recalls_of_reads` says that no read
does more. Whatever these three computations keep is thereby kept by every read.
`effect_frame` says what all other operations leave alone, but for taking up a snapshot.
-/

namespace ProcessStep

open Definition (Flow)

/-- What can be done to an execution once it is set up. -/
inductive Operation where
  | input
  | output
  | contextInput
  | contextOutput
  | pendingInbound
  | pendingOutbound
  | eligibleOutbound
  | state (override : Option Snapshot)
  | resolve (expression : String) (scope : Option Scope)
  | result
  | form
  | isPostponed
  | isStopped
  | setResult (v : Json)
  | setState (s : Snapshot)
  | applyState (s : Snapshot)
  /-- Enters a value into the form that is shown. -/
  | enterValue (id : String) (v : Json)
  /-- Enters the values of a snapshot of a form into the form that is shown. -/
  | restoreForm (snapshot : Json)
  /-- Puts any other form in the place of the one that is shown. -/
  | replaceForm (f : Form)
  | postpone (receiver : Nat)
  | complete
  | stop

namespace Operation

inductive Answer where
  | done
  | value (outcome : Except ResolutionError Json)
  | scope (outcome : Except ResolutionError Scope)
  | flows (fs : List Flow)
  | taken (outcome : Except ResolutionError (List Flow))
  | snapshot (s : Snapshot)
  | result (v : Option Json)
  | form (f : Option Form)
  | truth (b : Bool)
  | applied (outcome : Except ExecutionError Unit)
  /-- Whether there was a field for the value, unless no form is shown. -/
  | entered (taken : Option Bool)
  /-- How many values there was a field for, unless no form is shown. -/
  | restored (count : Option Nat)
  | postponed (outcome : Except ResolutionError Unit)
  | completed (outcome : Except ExecutionError Nat)

end Operation

namespace Execution

/-- Changes the form that is shown, if there is one. -/
def editForm {α : Type} (e : Execution) (edit : Form → α × Form) : Option α × Execution :=
  match e.form? with
  | none => (none, e)
  | some f => (some (edit f).1, e.setForm (edit f).2)

end Execution

namespace Operation

/-- The answer of an operation and the execution after it. -/
def perform (op : Operation) (e : Execution) : Answer × Execution :=
  match op with
  | .input => (.value e.input.1, e.input.2)
  | .output => (.value e.output.1, e.output.2)
  | .contextInput => (.scope e.contextInput.1, e.contextInput.2)
  | .contextOutput => (.scope e.contextOutput.1, e.contextOutput.2)
  | .pendingInbound => (.flows e.pendingInbound.1, e.pendingInbound.2)
  | .pendingOutbound => (.flows e.pendingOutbound.1, e.pendingOutbound.2)
  | .eligibleOutbound => (.taken e.eligibleOutbound.1, e.eligibleOutbound.2)
  | .state override => (.snapshot (e.state override).1, (e.state override).2)
  | .resolve expression scope => (.value (e.resolve expression scope), e)
  | .result => (.result e.result, e)
  | .form => (.form e.form?, e)
  | .isPostponed => (.truth e.isPostponed, e)
  | .isStopped => (.truth e.isStopped, e)
  | .setResult v => (.done, e.setResult v)
  | .setState s => (.done, e.setState s)
  | .applyState s => (.applied (e.applyState s).1, (e.applyState s).2)
  | .enterValue id v =>
      let edited := e.editForm (·.setValue id v)
      (.entered edited.1, edited.2)
  | .restoreForm snapshot =>
      let edited := e.editForm (·.restore snapshot)
      (.restored edited.1, edited.2)
  | .replaceForm f => (.done, (e.editForm fun _ => ((), f)).2)
  | .postpone receiver => (.postponed (e.postpone receiver).1, (e.postpone receiver).2)
  | .complete => (.completed e.complete.1, e.complete.2)
  | .stop => (.done, e.stop)

def answer (op : Operation) (e : Execution) : Answer := (op.perform e).1

def effect (op : Operation) (e : Execution) : Execution := (op.perform e).2

/-- The operation only asks. -/
def reads : Operation → Bool
  | .input | .output | .contextInput | .contextOutput | .pendingInbound | .pendingOutbound
  | .eligibleOutbound | .state _ | .resolve _ _ | .result | .form | .isPostponed
  | .isStopped => true
  | _ => false

end Operation

namespace Execution

def after (e : Execution) (ops : List Operation) : Execution :=
  ops.foldl (fun e op => op.effect e) e

@[simp] theorem after_cons (e : Execution) (op : Operation) (ops : List Operation) :
    e.after (op :: ops) = (op.effect e).after ops := rfl

end Execution

/-- The executions of an activity for a message that can be reached from a fresh one by setting
it up and by allowed operations. -/
inductive Reached (allowed : Operation → Prop) (b : Behaviour) (m : Message)
    (env : Environment) : Execution → Prop where
  | start (token : String) : Reached allowed b m env (.start b m env token)
  | withConfig {e : Execution} (c : ExecutionConfig) :
      Reached allowed b m env e → Reached allowed b m env (e.withConfig c)
  | triggeredBy {e : Execution} (f : Flow) :
      Reached allowed b m env e → Reached allowed b m env (e.triggeredBy f)
  | withRootFlow {e : Execution} (root : String) :
      Reached allowed b m env e → Reached allowed b m env (e.withRootFlow root)
  | perform {e : Execution} {op : Operation} :
      Reached allowed b m env e → allowed op → Reached allowed b m env (op.effect e)

/-- What is reached by some operations is reached by more. -/
theorem Reached.mono {allowed allowed' : Operation → Prop} {b : Behaviour} {m : Message}
    {env : Environment} {e : Execution} (wider : ∀ op, allowed op → allowed' op)
    (reached : Reached allowed b m env e) : Reached allowed' b m env e := by
  induction reached with
  | start token => exact .start token
  | withConfig c _ ih => exact .withConfig c ih
  | triggeredBy f _ ih => exact .triggeredBy f ih
  | withRootFlow root _ ih => exact .withRootFlow root ih
  | perform _ isAllowed ih => exact .perform ih (wider _ isAllowed)

/-- An execution that was set up, and nothing else was done to it. -/
abbrev Fresh : Behaviour → Message → Environment → Execution → Prop := Reached fun _ => False

namespace Fresh

variable {b : Behaviour} {m : Message} {env : Environment} {e : Execution}

/-- A fresh execution has an id, a policy and flows that started it, and nothing else yet. -/
theorem shape (fresh : Fresh b m env e) :
    ∃ token, e = { Execution.start b m env token with
      config := e.config, trigger := e.trigger, rootFlow := e.rootFlow } := by
  induction fresh with
  | start token => exact ⟨token, rfl⟩
  | withConfig c _ ih | triggeredBy f _ ih | withRootFlow root _ ih =>
      obtain ⟨token, shape⟩ := ih
      refine ⟨token, ?_⟩
      rw [shape]
      rfl
  | perform _ none => exact none.elim

theorem knownInbound (fresh : Fresh b m env e) : e.knownInbound = none := by
  obtain ⟨token, shape⟩ := fresh.shape
  rw [shape]
  rfl

theorem knownOutbound (fresh : Fresh b m env e) : e.knownOutbound = none := by
  obtain ⟨token, shape⟩ := fresh.shape
  rw [shape]
  rfl

theorem restoredForm (fresh : Fresh b m env e) : e.restoredForm = none := by
  obtain ⟨token, shape⟩ := fresh.shape
  rw [shape]
  rfl

theorem postponement (fresh : Fresh b m env e) : e.postponement = none := by
  obtain ⟨token, shape⟩ := fresh.shape
  rw [shape]
  rfl

/-- The flows that a fresh execution waits for are the inbound ones without its trigger. -/
theorem pendingInbound (fresh : Fresh b m env e) : e.pendingInbound.1 = e.awaited := by
  rw [Execution.pendingInbound, fresh.knownInbound]

end Fresh

/-! ### What reading leaves behind -/

/-- The second execution is the first one after some of the computations that are done when they
are first needed. -/
inductive Recalls (e : Execution) : Execution → Prop where
  | refl : Recalls e e
  | input {e' : Execution} : Recalls e e' → Recalls e e'.input.2
  | pendingInbound {e' : Execution} : Recalls e e' → Recalls e e'.pendingInbound.2
  | pendingOutbound {e' : Execution} : Recalls e e' → Recalls e e'.pendingOutbound.2

namespace Execution

/-- Resolving the input changes nothing but what is known of it. -/
theorem input_snd (e : Execution) :
    e.input.2 = e ∨
      ∃ v, e.knownInput = none ∧ e.resolveInput = .ok v ∧
        e.input.2 = { e with knownInput := some v } := by
  unfold input
  cases known : e.knownInput with
  | some v => exact .inl rfl
  | none =>
      cases resolved : e.resolveInput with
      | ok v => exact .inr ⟨v, rfl, rfl, rfl⟩
      | error x => exact .inl rfl

/-- Asking for the inbound flows keeps the answer, and nothing else changes. -/
theorem pendingInbound_snd (e : Execution) :
    e.pendingInbound.2 = { e with knownInbound := some e.pendingInbound.1 } := by
  unfold pendingInbound
  cases known : e.knownInbound with
  | some fs => cases e; cases known; rfl
  | none => rfl

/-- Asking for the outbound flows keeps the answer, and nothing else changes. -/
theorem pendingOutbound_snd (e : Execution) :
    e.pendingOutbound.2 = { e with knownOutbound := some e.pendingOutbound.1 } := by
  unfold pendingOutbound
  cases known : e.knownOutbound with
  | some fs => cases e; cases known; rfl
  | none => rfl

/-- The output keeps nothing of its own; at most the input is resolved for it. -/
theorem output_snd (e : Execution) : e.output.2 = e ∨ e.output.2 = e.input.2 := by
  unfold output
  cases e.activity.outputParameters with
  | nil => exact .inl rfl
  | cons p ps =>
      right
      rcases e.input with ⟨_ | v, e'⟩ <;> rfl

theorem contextInput_snd (e : Execution) : e.contextInput.2 = e.input.2 := by
  unfold contextInput
  rcases e.input with ⟨_ | v, e'⟩ <;> rfl

theorem contextOutput_snd (e : Execution) :
    e.contextOutput.2 = e.output.2 ∨ e.contextOutput.2 = e.output.2.input.2 := by
  unfold contextOutput
  rcases e.output with ⟨_ | v, e'⟩
  · exact .inl rfl
  · right
    rw [← contextInput_snd]
    dsimp only
    rcases e'.contextInput with ⟨_ | s, e''⟩ <;> rfl

/-- Without pending flows nothing but these is kept. -/
theorem eligibleOutbound_snd (e : Execution) :
    e.eligibleOutbound.2 = e.pendingOutbound.2 ∨
      e.eligibleOutbound.2 = e.pendingOutbound.2.contextOutput.2 := by
  unfold eligibleOutbound
  rcases e.pendingOutbound with ⟨_ | ⟨f, fs⟩, e'⟩
  · exact .inl rfl
  · right
    dsimp only
    rcases e'.contextOutput with ⟨_ | s, e''⟩ <;> rfl

/-- Only at a fork is the order of the flows looked up for a snapshot. -/
theorem state_snd (e : Execution) (override : Option Snapshot) :
    (e.state override).2 = if e.activity.isFork then e.pendingOutbound.2 else e := by
  show e.outboundIds.2 = _
  unfold outboundIds
  split <;> rfl

end Execution

namespace Recalls

open Execution

theorem output {e e' : Execution} (h : Recalls e e') : Recalls e e'.output.2 := by
  rcases e'.output_snd with same | same
  · rw [same]; exact h
  · rw [same]; exact h.input

theorem contextOutput {e e' : Execution} (h : Recalls e e') :
    Recalls e e'.contextOutput.2 := by
  rcases e'.contextOutput_snd with same | same
  · rw [same]; exact h.output
  · rw [same]; exact h.output.input

theorem eligibleOutbound {e e' : Execution} (h : Recalls e e') :
    Recalls e e'.eligibleOutbound.2 := by
  rcases e'.eligibleOutbound_snd with same | same
  · rw [same]; exact h.pendingOutbound
  · rw [same]; exact h.pendingOutbound.contextOutput

/-- All that was not computed stays as it is. -/
theorem frame {e e' : Execution} (h : Recalls e e') :
    e' = { e with
      knownInput := e'.knownInput
      knownInbound := e'.knownInbound
      knownOutbound := e'.knownOutbound } := by
  induction h with
  | refl => rfl
  | @input e' _ ih =>
      rcases e'.input_snd with same | ⟨v, _, _, same⟩
      · rw [same]; exact ih
      · rw [same, ih]
  | @pendingInbound e' _ ih => rw [pendingInbound_snd, ih]
  | @pendingOutbound e' _ ih => rw [pendingOutbound_snd, ih]

end Recalls

namespace Operation

/-- No read does more than the computations that are done when they are first needed. -/
theorem recalls_of_reads {op : Operation} (h : op.reads = true) (e : Execution) :
    Recalls e (op.effect e) := by
  cases op with
  | input => exact Recalls.refl.input
  | output => exact Recalls.refl.output
  | contextInput =>
      show Recalls e e.contextInput.2
      rw [Execution.contextInput_snd]
      exact Recalls.refl.input
  | contextOutput => exact Recalls.refl.contextOutput
  | pendingInbound => exact Recalls.refl.pendingInbound
  | pendingOutbound => exact Recalls.refl.pendingOutbound
  | eligibleOutbound => exact Recalls.refl.eligibleOutbound
  | state override =>
      show Recalls e (e.state override).2
      rw [Execution.state_snd]
      split
      · exact Recalls.refl.pendingOutbound
      · exact Recalls.refl
  | resolve | result | form | isPostponed | isStopped => exact Recalls.refl
  | _ => cases h

end Operation

/-! ### What suspending leaves behind -/

namespace Execution

theorem bindForm_snd (e : Execution) : e.bindForm.2 = e ∨ e.bindForm.2 = e.input.2 := by
  unfold bindForm
  cases e.activity.form with
  | none => exact .inl rfl
  | some d =>
      right
      rcases e.input with ⟨_ | v, e'⟩
      · rfl
      · dsimp only
        rcases (Form.ofDefinition d).init v e'.environment with ⟨_ | _, form⟩
        · rfl
        · cases e'.restoredForm <;> rfl

/-- Binding a form resolves the input at most. -/
theorem recalls_bindForm (e : Execution) : Recalls e e.bindForm.2 := by
  rcases e.bindForm_snd with same | same
  · rw [same]; exact .refl
  · rw [same]; exact .input .refl

/-- A postponement makes the execution wait for its receiver if the form can be bound, and
otherwise changes nothing but what is known of the input. -/
theorem postpone_eq (e : Execution) (r : Nat) :
    (∃ x, e.bindForm.1 = .error x ∧ e.postpone r = (.error x, e.bindForm.2)) ∨
      ∃ f, e.bindForm.1 = .ok f ∧
        e.postpone r = (.ok (), { e.bindForm.2 with postponement := some ⟨f, some r⟩ }) := by
  unfold postpone
  rcases e.bindForm with ⟨x | f, e'⟩
  · exact .inl ⟨x, rfl, rfl⟩
  · exact .inr ⟨f, rfl, rfl⟩

theorem bindForm_frame (e : Execution) :
    e.bindForm.2 = { e with knownInput := e.bindForm.2.knownInput } := by
  rcases e.bindForm_snd with same | same
  · rw [same]
  · rw [same]
    rcases e.input_snd with same | ⟨v, _, _, same⟩ <;> rw [same]

/-- Suspending a step changes at most what is known of the input, and whether it waits. -/
theorem postpone_frame (e : Execution) (r : Nat) :
    (e.postpone r).2 = { e with
      knownInput := (e.postpone r).2.knownInput
      postponement := (e.postpone r).2.postponement } := by
  rcases e.postpone_eq r with ⟨x, _, fails⟩ | ⟨f, _, succeeds⟩
  · rw [fails, bindForm_frame]
  · rw [succeeds, bindForm_frame]

/-- Completing a step changes its postponement only. -/
theorem complete_frame (e : Execution) :
    e.complete.2 = { e with postponement := e.complete.2.postponement } := by
  unfold complete
  split <;> rfl

/-- Editing the form that is shown changes nothing else. -/
theorem editForm_frame {α : Type} (e : Execution) (edit : Form → α × Form) :
    (e.editForm edit).2 = { e with postponement := (e.editForm edit).2.postponement } := by
  unfold editForm
  split <;> rfl

end Execution

namespace Operation

/-- The state that an operation saves, if it saves any. -/
def saved? : Operation → Option Snapshot
  | .setState s => some s
  | _ => none

/-- An operation that neither asks nor takes up a snapshot does not touch the setup, nor what was
restored. -/
theorem effect_frame {op : Operation} (changes : op.reads = false)
    (takesNothing : ∀ s, op ≠ .applyState s) (e : Execution) :
    op.effect e = { e with
      knownInput := (op.effect e).knownInput
      result := (op.effect e).result
      savedState := op.saved?.or e.savedState
      postponement := (op.effect e).postponement
      isStopped := (op.effect e).isStopped } := by
  cases op with
  | setResult | setState | stop => rfl
  | applyState s => exact absurd rfl (takesNothing s)
  | enterValue id v =>
      rw [show (enterValue id v).effect e = _ from e.editForm_frame _]
      rfl
  | restoreForm snapshot =>
      rw [show (restoreForm snapshot).effect e = _ from e.editForm_frame _]
      rfl
  | replaceForm f =>
      rw [show (replaceForm f).effect e = _ from e.editForm_frame _]
      rfl
  | postpone r =>
      rw [show (postpone r).effect e = _ from e.postpone_frame r]
      rfl
  | complete =>
      rw [show complete.effect e = _ from e.complete_frame]
      rfl
  | _ => cases changes

end Operation

end ProcessStep
