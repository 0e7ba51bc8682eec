import Mathlib
import ProcessStep.Proofs.Flows
import ProcessStep.Proofs.Steps.Likeness
import ProcessStep.Proofs.Steps.Preparing

/-!
Steps that hand their input on. A step without a form and without a signal has its input as its
result. It comes to the same when it is suspended instead and its input is the signal that
completes it (`signalled_input_passes`): all that is left of the suspension is that the step is
no longer waiting (`exchange_of_formless`), and neither the output nor the flows that are taken
nor the snapshot show that.
-/

namespace ProcessStep.Step

open Execution (Alike Poised)

variable {w : Surroundings} {r : Request} {e : Execution} {input rep : Json} {text : String}

def Formless (w : Surroundings) (r : Request) : Prop :=
  ∀ p a, loadProcess w r.definition = .ok p → p.activity r.activity = .ok a → a.form = none

/-- The request gets as far as an execution with this input. -/
def Resolves (w : Surroundings) (r : Request) (input : Json) : Prop :=
  ∃ e, prepare w r = .ok e ∧ e.input.1 = .ok input

/-! ### Preparation -/

/-- Neither taking up a snapshot nor anything before it changes the activity. -/
theorem activity_of_prepared (prepared : prepare w r = .ok e) :
    ∃ p, loadProcess w r.definition = .ok p ∧ p.activity r.activity = .ok e.activity := by
  rw [prepare_eq] at prepared
  obtain ⟨e₀, begins, resumed⟩ := exists_of_bind_eq_ok prepared
  obtain ⟨_, p, a, _, _, _, loaded, found, fresh⟩ := fresh_of_begun begins
  have begun : e₀.activity = a := by rw [Execution.activity, Execution.behaviour_of_reached fresh]
  refine ⟨p, loaded, ?_⟩
  rcases resume_cases resumed with ⟨_, rfl⟩ | ⟨_, s, _, _, applied⟩
  · rw [begun, found]
  · have setup := SameSetup.applyState e₀ s
    rw [applied] at setup
    rw [Execution.activity, setup.behaviour, ← Execution.activity, begun, found]

theorem idle_of_prepared (prepared : prepare w r = .ok e) : e.postponement = none := by
  rw [prepare_eq] at prepared
  obtain ⟨e₀, begins, resumed⟩ := exists_of_bind_eq_ok prepared
  obtain ⟨_, _, _, _, _, _, _, _, fresh⟩ := fresh_of_begun begins
  exact (resume_frame resumed).2.trans fresh.postponement

/-! ### The exchange -/

/-- A step without a form can be suspended and completed, its receiver yields the value, and then
nothing has changed but that it is no longer waiting. -/
theorem exchange_of_formless (formless : e.activity.form = none) (v : Json) :
    exchange e v = .ok (v, { e with postponement := some ⟨none, none⟩ }) := by
  unfold exchange
  rw [Execution.postpone_of_formless formless]
  rfl

structure SameEnd (e e' : Execution) : Prop where
  output : e'.output.1 = e.output.1
  eligibleOutbound : e'.eligibleOutbound.1 = e.eligibleOutbound.1
  state : (e'.state none).1 = (e.state none).1

/-- Executions with one result end in the same way whether they were suspended without a form or
not at all. -/
theorem sameEnd_exchanged (idle : e.postponement = none) (v : Json) :
    SameEnd (e.setResult v) ({ e with postponement := some ⟨none, none⟩ }.setResult v) where
  output := (Poised.replace (e.setResult v) _ _).output rfl
  eligibleOutbound := (Poised.replace (e.setResult v) _ _).eligibleOutbound rfl
  state := by
    refine (Poised.replace (e.setResult v) (some v) (some ⟨none, none⟩)).state ?_ none
    show none = e.postponement.bind _
    rw [idle]
    rfl

/-- The report of a step that is done says nothing but how the step ended. -/
theorem finished_of_sameEnd {e' : Execution} (same : SameEnd e e') (id : e'.id = e.id)
    (input : Json) : finished e' input = finished e input := by
  rw [finished_eq, finished_eq, same.output, same.eligibleOutbound, same.state, id]

/-! ### The step -/

theorem alike_of_input {e₁ : Execution} {outcome : Except ResolutionError Json}
    (resolved : e.input = (outcome, e₁)) : Alike e e₁ := by
  have alike : Alike e e.input.2 := (Alike.refl e).recalled .refl Recalls.refl.input
  rwa [resolved] at alike

/-- What a step without a form comes to if its signal denotes its input: the same as without a
signal. -/
theorem carryOut_signalled (formless : e.activity.form = none) (idle : e.postponement = none)
    (denotes : ∀ input, e.input.1 = .ok input → Json.parse text = .ok input) :
    carryOut e (some text) = carryOut e none := by
  unfold carryOut
  rcases resolved : e.input with ⟨x | input, e₁⟩
  · rfl
  · have alike := alike_of_input resolved
    rw [resolved] at denotes
    have formless : e₁.activity.form = none := by rw [alike.activity, formless]
    have idle : e₁.postponement = none := alike.postponement.trans idle
    have signal : parseSignal (some text) = .ok (some input) := by
      rw [parseSignal, denotes input rfl]
    have waits : ¬ e₁.activity.form.isSome = true := by simp [formless]
    simp only [claim, signal, bind, Except.bind]
    rw [exchange_of_formless formless, if_neg waits]
    exact finished_of_sameEnd (sameEnd_exchanged idle input) rfl input

/-- The report of a step that is done says the input. -/
theorem input_of_finished (done : finished e input = .ok rep) :
    rep.field? "input" = some input := by
  rw [finished_eq] at done
  split at done
  · cases done
  · cases done
  · cases done
    rw [Json.field?_object]
    simp [Table.last?]

/-- The report of a step without a form and without a signal shows the input of its execution. -/
theorem input_of_carryOut (formless : e.activity.form = none) (reports : carryOut e none = .ok rep) :
    ∃ input, e.input.1 = .ok input ∧ rep.field? "input" = some input := by
  obtain ⟨⟨input, e₁⟩, claimed, reports⟩ := exists_of_bind_eq_ok reports
  have resolved : e.input = (.ok input, e₁) := claim_eq_ok_iff.mp claimed
  have formless : e₁.activity.form = none := by
    rw [(alike_of_input resolved).activity, formless]
  have waits : ¬ e₁.activity.form.isSome = true := by simp [formless]
  simp only [parseSignal, bind, Except.bind, if_neg waits] at reports
  exact ⟨input, by rw [resolved], input_of_finished reports⟩

/-- A step without a form comes to the same report, or to the same problem, whether its input is
handed on or comes back as the signal that completes it. The exchange of the signal succeeds
then, and the execution ends as if there had been none. -/
theorem signalled_input_passes (formless : Formless w r)
    (denotes : ∀ input, Resolves w r input → Json.parse text = .ok input) :
    report w { r with signal := some text } = report w { r with signal := none } ∧
      (∀ rep, report w { r with signal := some text } = .ok rep →
        ∃ input, Resolves w r input ∧ rep.field? "input" = some input) ∧
      ∀ e input, prepare w r = .ok e → e.input.1 = .ok input →
        ∃ e', exchange e input = .ok (input, e') ∧
          SameEnd (e.setResult input) (e'.setResult input) := by
  have formless' {e : Execution} (prepared : prepare w r = .ok e) : e.activity.form = none := by
    obtain ⟨p, loaded, found⟩ := activity_of_prepared prepared
    exact formless p _ loaded found
  have same : report w { r with signal := some text } = report w { r with signal := none } := by
    show (prepare w r >>= fun e => carryOut e (some text)) =
      (prepare w r >>= fun e => carryOut e none)
    cases prepared : prepare w r with
    | error x => rfl
    | ok e =>
        exact carryOut_signalled (formless' prepared) (idle_of_prepared prepared)
          fun input resolved => denotes input ⟨e, prepared, resolved⟩
  refine ⟨same, fun rep reports => ?_, fun e input prepared _ => ?_⟩
  · rw [same] at reports
    obtain ⟨e, prepared, reports⟩ := exists_of_bind_eq_ok reports
    obtain ⟨input, resolved, shown⟩ := input_of_carryOut (formless' prepared) reports
    exact ⟨input, ⟨e, prepared, resolved⟩, shown⟩
  · exact ⟨_, exchange_of_formless (formless' prepared) input,
      sameEnd_exchanged (idle_of_prepared prepared) input⟩

/-- The definition of an activity that counts and has one flow to take. -/
def tally : Surroundings where
  file
    | "tally" => some ("[\"p\",\"\",[[\"a\",\"task\",null,[[[\"n\",null,null,1]],[[\"m\",\"n\"]]]]," ++
        "[\"b\",\"task\"]],[[\"f\",\"a\",\"b\",false,\"output.m\"]]]")
    | _ => none
  input := some ""

/-- The count of `tally` as a signal and handed on. -/
theorem tally_signalled_input_passes :
    let r : Request := ⟨"tally", "a", none, none, none, false⟩
    let count := Json.obj [("n", .int 1)]
    Json.parse "\x7b\"n\":1\x7d" = .ok count ∧ Resolves tally r count ∧
      report tally { r with signal := some "\x7b\"n\":1\x7d" } =
        report tally { r with signal := none } := by
  intro r count
  have parses : Json.parse "\x7b\"n\":1\x7d" = .ok count := by cbv
  have plain : ((loadProcess tally "tally").map fun p => (p.activity "a").map (·.form)) =
      .ok (.ok none) := by cbv
  have resolves : (prepare tally r).map (·.input.1) = .ok (.ok count) := by cbv
  have formless : Formless tally r := fun p a loaded found => by
    rw [show loadProcess tally "tally" = .ok p from loaded] at plain
    have plain : (p.activity "a").map (·.form) = .ok none := Except.ok.inj plain
    rw [show p.activity "a" = .ok a from found] at plain
    exact Except.ok.inj plain
  cases prepared : prepare tally r with
  | error x =>
      rw [prepared] at resolves
      cases resolves
  | ok e =>
      rw [prepared] at resolves
      have resolved : e.input.1 = .ok count := Except.ok.inj resolves
      refine ⟨parses, ⟨e, prepared, resolved⟩, (signalled_input_passes formless ?_).1⟩
      rintro input ⟨e', prepared', resolved'⟩
      rw [prepared] at prepared'
      cases prepared'
      rw [resolved] at resolved'
      cases resolved'
      exact parses

end ProcessStep.Step
