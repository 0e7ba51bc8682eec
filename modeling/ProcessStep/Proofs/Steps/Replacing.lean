import Mathlib
import ProcessStep.Proofs.Relaying
import ProcessStep.Proofs.Steps.Likeness
import ProcessStep.Proofs.Steps.Preparing

/-!
Replacing the snapshot of a step by the one that it reports. A report holds the snapshot that the
step writes once it is suspended (`state_of_carryOut`), whatever its signal was. An execution that
takes up that snapshot is like the one that wrote it, unless a list of outbound flows is lost on
the way, which only happens where few flows leave the activity. So the reported snapshot can
replace the one that was given.
-/

namespace ProcessStep.Step

open Definition (Parameter)
open Execution (Alike Poised)

variable {w w' : Surroundings} {r : Request} {e e' p : Execution} {s : Snapshot} {rep : Json}

/-! ### Reported snapshots -/

/-- Neither the output nor the flows that are taken change the snapshot. -/
theorem state_of_finished {input : Json} (done : finished e input = .ok rep) :
    rep.field? "state" = some (.obj (e.state none).1) := by
  rw [finished_eq] at done
  split at done
  · cases done
  · cases done
  · cases done
    rw [Json.field?_object]
    simp [Table.last?]

/-- What a waiting step reports is the snapshot that was taken when it was suspended. -/
theorem state_of_suspended {input : Json} (waits : suspended e input = .ok rep) :
    (e.postpone 0).1 = .ok () ∧
      rep.field? "state" = some (.obj ((e.postpone 0).2.state none).1) := by
  obtain ⟨⟨_, p⟩, claimed, waits⟩ := exists_of_bind_eq_ok waits
  rw [claim_eq_ok_iff.mp claimed]
  rcases written : p.state none with ⟨s, _⟩
  dsimp only at waits
  rw [written] at waits
  cases waits
  rw [Json.field?_object]
  exact ⟨rfl, by simp [Table.last?]⟩

/-- The result of a step is no part of its snapshot. -/
theorem state_setResult (e : Execution) (v : Json) :
    ((e.setResult v).state none).1 = (e.state none).1 :=
  (Poised.replace e (some v) e.postponement).state rfl none

/-- Completing a step leaves the form in its snapshot. -/
theorem state_complete (e : Execution) : (e.complete.2.state none).1 = (e.state none).1 := by
  rcases postponed : e.postponement with _ | ⟨form, _ | r⟩
  · rw [Execution.complete, postponed]
  · rw [Execution.complete, postponed]
  · rw [Execution.complete, postponed]
    refine (Poised.replace e e.result (some ⟨form, none⟩)).state ?_ none
    rw [Execution.form?, Execution.form?, postponed]
    rfl

/-- Completing a step changes nothing that its snapshot says. -/
theorem state_of_exchange {v result : Json} (done : exchange e v = .ok (result, e')) :
    (e.postpone 0).1 = .ok () ∧ (e'.state none).1 = ((e.postpone 0).2.state none).1 := by
  obtain ⟨⟨_, p⟩, claimed, done⟩ := exists_of_bind_eq_ok done
  obtain ⟨⟨receiver, e₁⟩, claimed', done⟩ := exists_of_bind_eq_ok done
  have completed := state_complete p
  rw [claim_eq_ok_iff.mp claimed'] at completed
  rw [claim_eq_ok_iff.mp claimed]
  refine ⟨rfl, ?_⟩
  dsimp only at done
  split at done
  · cases done
    exact completed
  · cases done
  · cases done

/-- The snapshot in a report is that of the suspended execution, whether the step was done or
left waiting. -/
theorem state_of_carryOut {signal : Option String} (fresh : e.postponement = none)
    (reports : carryOut e signal = .ok rep) :
    (e.postpone 0).1 = .ok () ∧
      rep.field? "state" = some (.obj ((e.postpone 0).2.state none).1) := by
  obtain ⟨⟨input, e₁⟩, claimed, reports⟩ := exists_of_bind_eq_ok reports
  obtain ⟨v, _, reports⟩ := exists_of_bind_eq_ok reports
  have inputs : Recalls e e.input.2 := Recalls.refl.input
  rw [claim_eq_ok_iff.mp claimed] at inputs
  have alike : Alike e e₁ := (Alike.refl e).recalled .refl inputs
  obtain ⟨answer, suspended⟩ := alike.postpone 0
  rw [← answer, ← suspended.state]
  cases v with
  | some v =>
      obtain ⟨⟨result, e₂⟩, exchanged, done⟩ := exists_of_bind_eq_ok reports
      obtain ⟨postponed, same⟩ := state_of_exchange exchanged
      refine ⟨postponed, (state_of_finished done).trans ?_⟩
      rw [state_setResult, same]
  | none =>
      dsimp only at reports
      split at reports
      · exact state_of_suspended reports
      · -- Without a form nothing is suspended, and suspending would leave the snapshot as it is.
        next formless =>
          have formless : e₁.activity.form = none := by simpa using formless
          have shown : e₁.form? = none := by
            rw [alike.form?, Execution.form?, fresh]
            rfl
          have poised := Poised.replace e₁ e₁.result (some ⟨none, some 0⟩)
          rw [Execution.postpone_of_formless formless, poised.state shown.symm, ← state_setResult e₁ input]
          exact ⟨rfl, state_of_finished reports⟩

/-! ### Taking up a reported snapshot -/

/-- No form is bound exactly if the activity declares none. -/
theorem bindForm_eq_none_iff : e.bindForm.1 = .ok none ↔ e.activity.form = none := by
  rw [Execution.bindForm_fst]
  cases e.activity.form with
  | none => simp
  | some d =>
      simp only [reduceCtorEq, iff_false]
      split
      · nofun
      · split <;> nofun

/-- An execution that takes up the snapshot that another one of the same setup reports is like
that one, if the other has its flows from a snapshot at a fork only. -/
theorem alike_of_reported {b : Behaviour} {m : Message} {env : Environment} {e₀ : Execution}
    (own : b.LeavesFlows) (distinct : (b.activity.outbound.map (·.id)).Nodup)
    (fresh : Fresh b m env e) (intact : Execution.Intact b m env e₀) (setup : SameSetup e e₀)
    (result : e₀.result = e.result) (postponement : e₀.postponement = e.postponement)
    (order : b.activity.isFork = false → e₀.knownOutbound = none)
    (postponed : e₀.postpone 0 = (.ok (), p)) :
    ∃ e₁, e.applyState (p.state none).1 = (.ok (), e₁) ∧ Alike e₀ e₁ := by
  have suspended := intact.after_postpone 0
  rw [postponed] at suspended
  have applied := suspended.applyState_state own distinct fresh
  have setup₁ := SameSetup.applyState e (p.state none).1
  have intact₁ := (Execution.Intact.of_fresh fresh).after_applyState (p.state none).1
  rw [applied] at setup₁ intact₁
  have pending : p.pendingOutbound.1 = e₀.pendingOutbound.1 := by
    have same := Execution.pendingOutbound_congr (Execution.knownOutbound_postpone e₀ 0)
      (SameSetup.postpone e₀ 0).behaviour
    rwa [postponed] at same
  have form : e₀.bindForm.1 = .ok p.form? := Execution.form?_postpone postponed
  refine ⟨_, applied, {
    id := setup₁.id.trans setup.id.symm
    behaviour := setup₁.behaviour.trans setup.behaviour.symm
    environment := setup₁.environment.trans setup.environment.symm
    savedState := intact₁.unsaved.trans intact.unsaved.symm
    input := setup₁.input.trans setup.input.symm
    result := result.symm
    postponement := postponement.symm
    pending := ?_
    form := ?_ }⟩
  · -- At a fork the snapshot lists the flows; elsewhere both executions compute them.
    by_cases fork : b.activity.isFork = true
    · rw [← pending, Execution.pendingOutbound_of_known]
      rw [if_pos fork]
    · refine Execution.pendingOutbound_congr ?_ (setup₁.behaviour.trans setup.behaviour.symm)
      rw [if_neg fork, order (by simpa using fork)]
  · -- What would be bound is what is shown once the execution is suspended.
    rw [form]
    cases shown : p.form? with
    | none =>
        rw [shown] at form
        have formless := bindForm_eq_none_iff.mp form
        rw [bindForm_eq_none_iff, Execution.activity, intact₁.behaviour, ← intact.behaviour]
        exact formless
    | some f =>
        obtain ⟨e₂, resumed, filled⟩ :=
          suspended.postpone_resumed own distinct fresh applied shown 0
        rw [Execution.form?_postpone resumed, filled]

/-! ### The reported snapshot in the place of the given one -/

/-- Several flows leave the activity, or no list of outbound flows is given. -/
def Replaceable (w : Surroundings) (r : Request) : Prop :=
  (∀ p a, loadProcess w r.definition = .ok p → p.activity r.activity = .ok a →
    1 < a.outbound.length) ∨
  ∀ path s, r.state = some path → loadSnapshot w path = .ok s →
    Table.get? s Snapshot.outboundKey = none

/-- The second surroundings have the same definition and variables for a request, and a snapshot
in a file. -/
structure Stores (w : Surroundings) (r : Request) (s : Snapshot) (w' : Surroundings)
    (path : String) : Prop where
  definition : w'.file r.definition = w.file r.definition
  input : w'.input = w.input
  stored : loadSnapshot w' path = .ok s

/-- Taking up a snapshot without outbound flows leaves them to be computed. -/
theorem knownOutbound_applied {b : Behaviour} {m : Message} {env : Environment} {e₀ : Execution}
    (fresh : Fresh b m env e) (absent : Table.get? s Snapshot.outboundKey = none)
    (applied : e.applyState s = (.ok (), e₀)) : e₀.knownOutbound = none := by
  have listed : e.outboundIn s = .ok none := by
    rw [Execution.outboundIn, Snapshot.pendingOutbound, Snapshot.flowIds_of_absent absent]
    rfl
  rw [Execution.applyState_eq, listed] at applied
  cases inbound : e.inboundIn s with
  | error x =>
      rw [inbound] at applied
      cases applied
  | ok fs =>
      rw [inbound] at applied
      cases applied
      exact fresh.knownOutbound

/-- An execution that was prepared for a request is like any that takes up the snapshot that it
reports. -/
theorem alike_of_resumed {b : Behaviour} {env : Environment} {e₀ : Execution}
    (distinct : (b.activity.outbound.map (·.id)).Nodup) (stateless : b.ownState = none)
    (fresh : Fresh b .empty env e) (resumed : resume w e r.state = .ok e₀)
    (order : b.activity.isFork = false → ∀ path s, r.state = some path →
      loadSnapshot w path = .ok s → Table.get? s Snapshot.outboundKey = none)
    (postponed : e₀.postpone 0 = (.ok (), p)) :
    ∃ e₁, e.applyState (p.state none).1 = (.ok (), e₁) ∧ Alike e₀ e₁ := by
  have own := Behaviour.leavesFlows_of_stateless stateless
  rcases resume_cases resumed with ⟨_, rfl⟩ | ⟨path, s, given, loaded, applied⟩
  · exact alike_of_reported own distinct fresh (.of_fresh fresh) (.refl e₀) rfl rfl
      (fun _ => fresh.knownOutbound) postponed
  · have intact := (Execution.Intact.of_fresh fresh).after_applyState s
    have setup := SameSetup.applyState e s
    obtain ⟨result, postponement⟩ := resume_frame resumed
    rw [applied] at intact setup
    exact alike_of_reported own distinct fresh intact setup result postponement
      (fun single => knownOutbound_applied fresh (order single path s given loaded) applied)
      postponed

/-- The snapshot that a step reports can replace the one that it was given: whatever the signal
is then, it comes to what the step with the given one comes to with that signal, and reports the
same snapshot again. -/
theorem reported_state_replaces (reports : report w r = .ok rep)
    (replaceable : Replaceable w r) :
    ∃ s, rep.field? "state" = some (.obj s) ∧
      ∀ w' path, Stores w r s w' path → ∀ signal,
        report w' { r with state := some path, signal } = report w { r with signal } ∧
        ∀ rep', report w' { r with state := some path, signal } = .ok rep' →
          rep'.field? "state" = some (.obj s) := by
  obtain ⟨e₀, prepared, carried⟩ := exists_of_bind_eq_ok reports
  rw [prepare_eq] at prepared
  obtain ⟨e, begins, resumed⟩ := exists_of_bind_eq_ok prepared
  obtain ⟨d, p, a, env, linked, member, loaded, found, fresh⟩ := fresh_of_begun begins
  obtain ⟨_, distinct⟩ := LinkedProcess.distinct_flows linked member
  have idle : e₀.postponement = none := (resume_frame resumed).2.trans fresh.postponement
  obtain ⟨answer, printed⟩ := state_of_carryOut idle carried
  refine ⟨_, printed, fun w' path stores signal => ?_⟩
  have postponed : e₀.postpone 0 = (.ok (), (e₀.postpone 0).2) := by rw [← answer]
  have order : a.isFork = false → ∀ path s, r.state = some path → loadSnapshot w path = .ok s →
      Table.get? s Snapshot.outboundKey = none := fun single => by
    refine replaceable.resolve_left fun forks => ?_
    have fork : a.isFork = true := by simpa [Activity.isFork] using forks p a loaded found
    rw [single] at fork
    cases fork
  obtain ⟨e₁, applied, alike⟩ := alike_of_resumed distinct rfl fresh resumed order postponed
  have first : report w { r with signal } = carryOut e₀ signal := by
    have begins : begun w { r with signal } = .ok e := (begun_congr rfl rfl rfl).trans begins
    rw [report, prepare_eq, begins]
    dsimp only [bind, Except.bind]
    rw [resumed]
  have second : report w' { r with state := some path, signal } = carryOut e₁ signal := by
    have begins : begun w' { r with state := some path, signal } = .ok e :=
      (begun_congr stores.definition stores.input rfl).trans begins
    rw [report, prepare_eq, begins]
    dsimp only [bind, Except.bind]
    rw [resume_some stores.stored applied]
  have same := carryOut_congr alike signal
  refine ⟨by rw [first, second, same], fun rep' reports' => ?_⟩
  rw [second, same] at reports'
  exact (state_of_carryOut idle reports').2

/-- The definition of an activity with a form, a snapshot with a value for a field of it, and the
snapshot that is reported then. -/
def desk : Surroundings where
  file
    | "desk" => some "[\"p\",\"\",[[\"a\",\"task\",null,null,[null,[[\"f\"]]]]]]"
    | "given" => some "\x7b\"form\":\x7b\"fields\":[\x7b\"id\":\"f\",\"value\":1\x7d]\x7d\x7d"
    | "reported" => some ("\x7b\"form\":\x7b\"fields\":" ++
        "[\x7b\"id\":\"f\",\"type\":\"string\",\"value\":1\x7d]\x7d\x7d")
    | _ => none
  input := some ""

/-- What the activity of `desk` reports when it takes up the given snapshot. -/
def deskSnapshot : Snapshot :=
  let field := Json.obj [("id", .str "f"), ("type", .str "string"), ("value", .int 1)]
  [("form", .obj [("fields", .arr [field])])]

/-- A step that was left waiting with its form is completed from what it reported. -/
theorem desk_reported_state_replaces :
    let r : Request := ⟨"desk", "a", none, some "given", none, true⟩
    (report desk r).map (·.field? "state") = .ok (some (.obj deskSnapshot)) ∧
      report desk { r with state := some "reported", signal := some "[]" } =
        report desk { r with signal := some "[]" } := by
  intro r
  have printed : (report desk r).map (·.field? "state") = .ok (some (.obj deskSnapshot)) := by cbv
  have stored : loadSnapshot desk "reported" = .ok deskSnapshot := by cbv
  have given : (loadSnapshot desk "given").map (Table.get? · "pendingOutbound") = .ok none := by cbv
  have replaceable : Replaceable desk r := .inr fun path s state loaded => by
    cases state
    rw [loaded] at given
    exact Except.ok.inj given
  refine ⟨printed, ?_⟩
  cases reports : report desk r with
  | error x =>
      rw [reports] at printed
      cases printed
  | ok rep =>
      obtain ⟨s, field, replaces⟩ := reported_state_replaces reports replaceable
      have same : deskSnapshot = s := by
        rw [reports, Except.map, field] at printed
        cases printed
        rfl
      exact (replaces desk "reported" ⟨rfl, rfl, same ▸ stored⟩ (some "[]")).1

end ProcessStep.Step
