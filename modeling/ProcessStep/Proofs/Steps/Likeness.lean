import ProcessStep.Proofs.Choosing
import ProcessStep.Proofs.Naming
import ProcessStep.Step.Report

/-!
Executions that a step cannot tell apart. `Alike` compares what a step asks an execution for: its
input, the flows that are considered, the form that it would bind. What was restored to get there
does not matter, nor which inbound flows are pending. `carryOut_congr` says that alike executions
come to the same report, or fail alike.
-/

namespace ProcessStep

open Definition (Parameter)

namespace Execution

variable {e e' e'' : Execution}

/-! ### Answers as functions of what is asked for -/

theorem input_recalls (recalls : Recalls e e') : e'.input.1 = e.input.1 :=
  (SameSetup.of_recalls recalls).input

theorem bindForm_recalls (recalls : Recalls e e') : e'.bindForm.1 = e.bindForm.1 := by
  have same := bindForm_settled (fun r => r) e'
  rw [settled_recalls recalls, bindForm_settled] at same
  exact (congrArg Prod.fst same).symm

theorem contextInput_fst (e : Execution) :
    e.contextInput.1 = e.input.1.map ((e.environment.scope []).put "input" ·) := by
  have environment := environment_input (e := e)
  unfold contextInput
  rcases known : e.input with ⟨_ | v, e'⟩
  · rfl
  · rw [known] at environment
    dsimp only at environment ⊢
    rw [environment]
    rfl

/-- The scope with the output needs the input, too, and fails with the output first. -/
theorem contextOutput_fst (e : Execution) :
    e.contextOutput.1 =
      e.output.1 >>= fun v => e.contextInput.1.map (·.put "output" v) := by
  have same := contextInput_recalls (Recalls.refl (e := e)).output
  unfold contextOutput
  rcases known : e.output with ⟨_ | v, e'⟩
  · rfl
  · rw [known] at same
    rw [← same]
    dsimp only
    rcases e'.contextInput with ⟨_ | s, e''⟩ <;> rfl

/-- What form is bound depends on the activity, the environment, the input and what was restored. -/
theorem bindForm_congr (behaviour : e'.behaviour = e.behaviour)
    (environment : e'.environment = e.environment) (input : e'.input.1 = e.input.1)
    (restored : e'.restoredForm = e.restoredForm) : e'.bindForm.1 = e.bindForm.1 := by
  have refill : e'.refill = e.refill := by
    funext g
    rw [Execution.refill, restored]
    rfl
  rw [bindForm_fst, bindForm_fst, activity, activity, behaviour, environment, input, refill]

theorem postpone_of_formless (formless : e.activity.form = none) (r : Nat) :
    e.postpone r = (.ok (), { e with postponement := some ⟨none, some r⟩ }) := by
  rw [postpone, bindForm, formless]

/-! ### Alike executions -/

/-- Both executions have the same input, consider the same flows and would bind the same form. -/
structure Poised (e e' : Execution) : Prop where
  id : e'.id = e.id
  behaviour : e'.behaviour = e.behaviour
  environment : e'.environment = e.environment
  savedState : e'.savedState = e.savedState
  input : e'.input.1 = e.input.1
  pending : e'.pendingOutbound.1 = e.pendingOutbound.1
  form : e'.bindForm.1 = e.bindForm.1

namespace Poised

theorem symm (poised : Poised e e') : Poised e' e where
  id := poised.id.symm
  behaviour := poised.behaviour.symm
  environment := poised.environment.symm
  savedState := poised.savedState.symm
  input := poised.input.symm
  pending := poised.pending.symm
  form := poised.form.symm

theorem trans (poised : Poised e e') (poised' : Poised e' e'') : Poised e e'' where
  id := poised'.id.trans poised.id
  behaviour := poised'.behaviour.trans poised.behaviour
  environment := poised'.environment.trans poised.environment
  savedState := poised'.savedState.trans poised.savedState
  input := poised'.input.trans poised.input
  pending := poised'.pending.trans poised.pending
  form := poised'.form.trans poised.form

theorem of_recalls (recalls : Recalls e e') : Poised e e' := by
  have input := input_recalls recalls
  have pending := pendingOutbound_recalls recalls
  have form := bindForm_recalls recalls
  constructor <;> first | assumption | rw [recalls.frame]

/-- The result and the postponement are neither input nor flows nor the form to be bound. -/
theorem replace (e : Execution) (result : Option Json) (postponement : Option Postponement) :
    Poised e { e with result, postponement } := by
  have input : ({ e with result, postponement } : Execution).input.1 = e.input.1 :=
    input_congr rfl rfl
  exact ⟨rfl, rfl, rfl, rfl, input, pendingOutbound_congr rfl rfl, bindForm_congr rfl rfl input rfl⟩

theorem activity (poised : Poised e e') : e'.activity = e.activity := by
  rw [Execution.activity, poised.behaviour]

theorem output (poised : Poised e e') (result : e'.result = e.result) :
    e'.output.1 = e.output.1 := by
  by_cases declared : e.activity.outputParameters = []
  · have declared' : e'.activity.outputParameters = [] := by rw [poised.activity, declared]
    rw [Execution.output, Execution.output, declared, declared', result]
  · have declared' : e'.activity.outputParameters ≠ [] := by rwa [poised.activity]
    have scope (v : Json) : e'.outputScope v = e.outputScope v := by
      rw [outputScope, outputScope, poised.environment]
    simp only [output_of_declared declared, output_of_declared declared', poised.input,
      poised.activity, result, scope]

theorem eligibleOutbound (poised : Poised e e') (result : e'.result = e.result) :
    e'.eligibleOutbound.1 = e.eligibleOutbound.1 := by
  simp only [eligibleOutbound_fst, contextOutput_fst, contextInput_fst, poised.output result,
    poised.pending, poised.input, poised.environment]

/-- Snapshots of both differ by the forms that are shown only. -/
theorem state (poised : Poised e e') (form : e'.form? = e.form?) (override : Option Snapshot) :
    (e'.state override).1 = (e.state override).1 := by
  have ids : e'.outboundIds.1 = e.outboundIds.1 := by
    rw [outboundIds_fst, outboundIds_fst, poised.activity, poised.pending]
  unfold Execution.state
  dsimp only
  rw [outboundIds_snd, outboundIds_snd, poised.savedState, ids, form, poised.behaviour]

end Poised

/-- A step gets the same answers from both executions. -/
structure Alike (e e' : Execution) : Prop extends Poised e e' where
  result : e'.result = e.result
  postponement : e'.postponement = e.postponement

namespace Alike

/-- Alike executions stay so when each of them is changed within what it is poised to do. -/
theorem move {u u' : Execution} (alike : Alike e e') (poised : Poised e u) (poised' : Poised e' u')
    (result : u'.result = u.result) (postponement : u'.postponement = u.postponement) :
    Alike u u' :=
  { (poised.symm.trans alike.toPoised).trans poised' with result, postponement }

theorem refl (e : Execution) : Alike e e := ⟨⟨rfl, rfl, rfl, rfl, rfl, rfl, rfl⟩, rfl, rfl⟩

theorem recalled {r r' : Execution} (alike : Alike e e') (recalls : Recalls e r)
    (recalls' : Recalls e' r') : Alike r r' := by
  refine alike.move (.of_recalls recalls) (.of_recalls recalls') ?_ ?_
  · rw [recalls.frame, recalls'.frame]
    exact alike.result
  · rw [recalls.frame, recalls'.frame]
    exact alike.postponement

theorem setResult (alike : Alike e e') (v : Json) : Alike (e.setResult v) (e'.setResult v) :=
  alike.move (.replace e _ _) (.replace e' _ _) rfl alike.postponement

/-! ### Answers -/

theorem eligibleOutbound (alike : Alike e e') :
    e'.eligibleOutbound.1 = e.eligibleOutbound.1 :=
  alike.toPoised.eligibleOutbound alike.result

theorem form? (alike : Alike e e') : e'.form? = e.form? := by
  rw [Execution.form?, Execution.form?, alike.postponement]

theorem state (alike : Alike e e') (override : Option Snapshot) :
    (e'.state override).1 = (e.state override).1 :=
  alike.toPoised.state alike.form? override

/-! ### Suspending and completing -/

theorem postpone (alike : Alike e e') (r : Nat) :
    (e'.postpone r).1 = (e.postpone r).1 ∧ Alike (e.postpone r).2 (e'.postpone r).2 := by
  have bound := alike.recalled e.recalls_bindForm e'.recalls_bindForm
  have form := alike.form
  rcases e.postpone_eq r with ⟨x, fails, same⟩ | ⟨f, binds, same⟩
  · -- Suspending fails exactly if binding the form does, and that is the same for both.
    rcases e'.postpone_eq r with ⟨x', fails', same'⟩ | ⟨f', binds', same'⟩
    · rw [fails, fails'] at form
      cases form
      rw [same, same']
      exact ⟨rfl, bound⟩
    · rw [fails, binds'] at form
      cases form
  · rcases e'.postpone_eq r with ⟨x', fails', same'⟩ | ⟨f', binds', same'⟩
    · rw [binds, fails'] at form
      cases form
    · rw [binds, binds'] at form
      cases form
      rw [same, same']
      exact ⟨rfl, bound.move (.replace _ _ _) (.replace _ _ _) bound.result rfl⟩

theorem complete (alike : Alike e e') :
    e'.complete.1 = e.complete.1 ∧ Alike e.complete.2 e'.complete.2 := by
  unfold Execution.complete
  rw [alike.postponement]
  rcases e.postponement with _ | ⟨form, _ | r⟩
  · exact ⟨by rw [alike.id], alike⟩
  · exact ⟨by rw [alike.id], alike⟩
  · exact ⟨rfl, alike.move (.replace e _ _) (.replace e' _ _) alike.result rfl⟩

end Alike

end Execution

namespace Step

open Execution (Alike)

variable {e e' : Execution}

theorem claim_eq_ok_iff {ε α : Type} {problem : ε → Problem} {x : Except ε α × Execution}
    {y : α × Execution} : claim problem x = .ok y ↔ x = (.ok y.1, y.2) := by
  obtain ⟨_ | v, e⟩ := x <;> obtain ⟨v', e'⟩ := y <;> simp [claim]

/-- Two parts of a step fail alike, or give the same answer and leave alike executions. -/
inductive Agree {α : Type} :
    Except Problem (α × Execution) → Except Problem (α × Execution) → Prop where
  | failed (x : Problem) : Agree (.error x) (.error x)
  | answered (v : α) {e e' : Execution} (alike : Alike e e') : Agree (.ok (v, e)) (.ok (v, e'))

namespace Agree

variable {α β ε : Type} {x x' : Except Problem (α × Execution)}

theorem claim {problem : ε → Problem} {outcome outcome' : Except ε α × Execution}
    (answer : outcome'.1 = outcome.1) (alike : Alike outcome.2 outcome'.2) :
    Agree (claim problem outcome) (claim problem outcome') := by
  obtain ⟨_ | v, e⟩ := outcome
  · obtain ⟨_, e'⟩ := outcome'
    cases answer
    exact .failed _
  · obtain ⟨_, e'⟩ := outcome'
    cases answer
    exact .answered v alike

theorem bind {rest rest' : α × Execution → Except Problem (β × Execution)} (agree : Agree x x')
    (goesOn : ∀ v {e e'}, Alike e e' → Agree (rest (v, e)) (rest' (v, e'))) :
    Agree (x >>= rest) (x' >>= rest') := by
  cases agree with
  | failed x => exact .failed x
  | answered v alike => exact goesOn v alike

theorem bind_eq {rest rest' : α × Execution → Except Problem β} (agree : Agree x x')
    (goesOn : ∀ v {e e'}, Alike e e' → rest' (v, e') = rest (v, e)) :
    x' >>= rest' = x >>= rest := by
  cases agree with
  | failed x => rfl
  | answered v alike => exact goesOn v alike

end Agree

/-- Handing a value over ends alike. -/
theorem agree_exchange (alike : Alike e e') (v : Json) :
    Agree (exchange e v) (exchange e' v) := by
  have id := alike.id
  obtain ⟨answer, alike⟩ := alike.postpone 0
  refine (Agree.claim answer alike).bind fun _ _ _ alike => ?_
  obtain ⟨answer, alike⟩ := alike.complete
  refine (Agree.claim answer alike).bind fun receiver e e' alike => ?_
  dsimp only
  rw [id, alike.id]
  split
  · exact .answered _ alike
  · exact .failed _
  · exact .failed _

/-- The report of a step that is done, from nothing but the answers of its execution. -/
theorem finished_eq (e : Execution) (input : Json) :
    finished e input =
      match e.output.1, e.eligibleOutbound.1 with
      | .error x, _ => .error (.outputUnresolved x)
      | .ok _, .error x => .error (.outboundUnresolved x)
      | .ok output, .ok flows => .ok (.object [
          ("executionId", .str e.id),
          ("input", input),
          ("output", output),
          ("eligibleOutbound", .texts (flows.map (·.id))),
          ("state", .obj (e.state none).1)]) := by
  have alike : Alike e e.output.2 := (Alike.refl e).recalled .refl Recalls.refl.output
  unfold finished
  rcases produced : e.output with ⟨x | output, e₁⟩
  · rfl
  · -- What was computed for the output changes no answer that is asked for afterwards.
    rw [produced] at alike
    have answer := alike.eligibleOutbound
    have alike := alike.recalled .refl Recalls.refl.eligibleOutbound
    rw [← answer]
    dsimp only [claim, bind, Except.bind]
    rcases chosen : e₁.eligibleOutbound with ⟨x | flows, e₂⟩
    · rfl
    · rw [chosen] at alike
      dsimp only
      rw [alike.id, alike.state]

theorem finished_congr (alike : Alike e e') (input : Json) :
    finished e' input = finished e input := by
  rw [finished_eq, finished_eq, alike.toPoised.output alike.result, alike.eligibleOutbound,
    alike.id, alike.state]

theorem suspended_congr (alike : Alike e e') (input : Json) :
    suspended e' input = suspended e input := by
  obtain ⟨answer, alike⟩ := alike.postpone 0
  refine (Agree.claim answer alike).bind_eq fun _ e e' alike => ?_
  dsimp only
  rw [alike.id, alike.state, alike.form?]

/-- Alike executions come to the same report, or to the same problem. -/
theorem carryOut_congr (alike : Alike e e') (signal : Option String) :
    carryOut e' signal = carryOut e signal := by
  have inputs := alike.recalled Recalls.refl.input Recalls.refl.input
  refine (Agree.claim alike.input inputs).bind_eq fun input e e' alike => ?_
  dsimp only
  cases parseSignal signal with
  | error x => rfl
  | ok v =>
      cases v with
      | some v =>
          refine (agree_exchange alike v).bind_eq fun result _ _ alike => ?_
          exact finished_congr (alike.setResult result) input
      | none =>
          dsimp only [bind, Except.bind]
          rw [alike.activity, suspended_congr alike, finished_congr (alike.setResult input)]

end Step

end ProcessStep
