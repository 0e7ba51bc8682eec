import ProcessStep.Proofs.Refusing
import ProcessStep.Proofs.Resuming

/-!
What is left of a snapshot in the next one. An execution that took up a snapshot hands on the
order of flows at a fork, and its form once the step is suspended. It does not hand on the
pending inbound flows, nor what is to be entered in a form that is not bound yet.
-/

namespace ProcessStep

open Definition (Flow)

namespace Execution

variable {b : Behaviour} {m : Message} {env : Environment} {e e₁ e₂ e₃ : Execution}
  {s : Snapshot}

def formEntries (s : Snapshot) : List (String × Json) := (s.form?.map Form.entries).getD []

/-- What an execution that took up its first snapshot is to restore later. -/
theorem restoredForm_applied (fresh : Fresh b m env e)
    (applied : e.applyState s = (.ok (), e₁)) : e₁.restoredForm = s.form? := by
  rcases e.applyState_cases s with ⟨x, _, same⟩ | ⟨inbound, x, _, _, same⟩ |
    ⟨inbound, outbound, _, _, same⟩
  · rw [same] at applied
    cases applied
  · rw [same] at applied
    cases applied
  · rw [same] at applied
    cases applied
    show s.form?.or e.restoredForm = s.form?
    rw [fresh.restoredForm, Option.or_none]

/-- The inbound flows that are pending then: those that the snapshot lists, if it lists any. -/
theorem pendingInbound_applied (fresh : Fresh b m env e)
    (applied : e.applyState s = (.ok (), e₁)) :
    e₁.pendingInbound.1 = e.awaited ↔
      ∀ fs, e.inboundIn s = .ok (some fs) → fs = e.awaited := by
  have listed := pendingInbound_applyState e s
  rw [applied, fresh.pendingInbound] at listed
  dsimp only at listed
  rw [listed]
  rcases e.inboundIn s with x | _ | fs <;> simp

/-- Taking up a snapshot binds no form. -/
theorem form?_applied (fresh : Fresh b m env e) (applied : e.applyState s = (.ok (), e₁)) :
    e₁.form? = none := by
  have kept := e.applyState_frame s
  rw [applied] at kept
  rw [show e₁ = _ from kept, form?]
  dsimp only
  rw [fresh.postponement]
  rfl

/-- Suspending shows the form that is bound for it. -/
theorem form?_postpone {p : Execution} {r : Nat} (postponed : e.postpone r = (.ok (), p)) :
    e.bindForm.1 = .ok p.form? := by
  rcases e.postpone_eq r with ⟨x, _, fails⟩ | ⟨f, binds, succeeds⟩
  · rw [fails] at postponed
    cases postponed
  · rw [succeeds] at postponed
    cases postponed
    exact binds

/-- Suspended executions of an activity for a message show the same form, up to what each of them
restores. -/
theorem Intact.form?_postponed (b : Behaviour) (m : Message) (env : Environment) :
    (∀ {e p : Execution} {r : Nat}, Intact b m env e → e.postpone r = (.ok (), p) →
        p.form? = none) ∨
      ∃ g, IsBlankForm b m env g ∧ ∀ {e p : Execution} {r : Nat}, Intact b m env e →
        e.postpone r = (.ok (), p) → p.form? = some (e.refill g) := by
  by_cases possible : ∃ g, IsBlankForm b m env g
  · obtain ⟨g, blank⟩ := possible
    refine .inr ⟨g, blank, fun i postponed => ?_⟩
    have binds := form?_postpone postponed
    rw [i.bindForm_of_blank blank] at binds
    exact (Except.ok.inj binds).symm
  · refine .inl fun {e p r} i postponed => ?_
    have binds := form?_postpone postponed
    cases shown : p.form? with
    | none => rfl
    | some f =>
        rw [shown] at binds
        obtain ⟨g, blank, _⟩ := i.of_bindForm binds
        exact absurd ⟨g, blank⟩ possible

/-- The values of a snapshot that was taken up are entered when a form is bound. -/
theorem refill_of_restoredForm (restored : e.restoredForm = s.form?) (g : Form) :
    e.refill g = (g.setValues (formEntries s)).2 := by
  unfold refill formEntries
  rw [restored]
  cases s.form? <;> rfl

/-- Asking for a snapshot leaves what is to be restored as it is. -/
theorem restoredForm_state (e : Execution) : (e.state none).2.restoredForm = e.restoredForm := by
  have reads : (Operation.state none).reads = true := rfl
  show ((Operation.state none).effect e).restoredForm = _
  rw [(Operation.recalls_of_reads reads e).frame]

/-- The form that is handed on before it was bound arrives without the values that were to be
entered in it. -/
theorem form?_relayed (i₁ : Intact b m env e₁) (i₃ : Intact b m env e₃)
    (restored₁ : e₁.restoredForm = s.form?) (restored₃ : e₃.restoredForm = none)
    {p₁ p₃ : Execution} {r₁ r₃ : Nat} (postponed₁ : (e₁.state none).2.postpone r₁ = (.ok (), p₁))
    (postponed₃ : e₃.postpone r₃ = (.ok (), p₃)) :
    p₁.form? = p₃.form?.map (fun f => (f.setValues (formEntries s)).2) ∧
      ∀ f₁ f₃, p₁.form? = some f₁ → p₃.form? = some f₃ →
        (f₃.fields.map (·.entered) = f₁.fields.map (·.entered) ↔
          ∀ x ∈ formEntries s, x.1 ∉ f₃.fields.map (·.id)) := by
  have fillsIn : (Operation.state none).fillsIn = true := rfl
  have i₁' : Intact b m env (e₁.state none).2 := i₁.effect fillsIn
  have restored₁' : (e₁.state none).2.restoredForm = s.form? := by
    rw [restoredForm_state, restored₁]
  rcases Intact.form?_postponed b m env with formless | ⟨g, blank, shown⟩
  · have none₁ := formless i₁' postponed₁
    rw [none₁, formless i₃ postponed₃]
    exact ⟨rfl, fun _ _ some => nomatch some⟩
  · have shown₁ := shown i₁' postponed₁
    have shown₃ := shown i₃ postponed₃
    rw [refill_of_restoredForm restored₁'] at shown₁
    rw [refill, restored₃] at shown₃
    rw [shown₁, shown₃]
    refine ⟨rfl, fun f₁ f₃ same₁ same₃ => ?_⟩
    cases same₁
    cases same₃
    rw [Form.setValues_snd, eq_comm]
    exact Form.entered_enterAll_iff blank.isBlank _

/-- What a snapshot is good for after one more hop. It is handed on by an execution that took it
up and writes its own snapshot at once: the order at a fork arrives, the inbound flows do not, and
the form arrives without the values. Once the step was suspended, its form arrives as it is. -/
theorem relayed {d : Definition.Process} {p : LinkedProcess} (linked : LinkedProcess.link d = .ok p)
    (member : b.activity ∈ p.activities) (own : b.LeavesFlows) (unformed : b.state.form? = none)
    (fresh : Fresh b m env e) (fresh₂ : Fresh b m env e₂) (trigger : e₂.trigger = e.trigger)
    (applied : e.applyState s = (.ok (), e₁)) :
    (∃ e₃, e₂.applyState (e₁.state none).1 = (.ok (), e₃) ∧
      e₃.pendingInbound.1 = e₂.awaited ∧
      (e₃.pendingInbound.1 = e₁.pendingInbound.1 ↔
        ∀ fs, e.inboundIn s = .ok (some fs) → fs = e.awaited) ∧
      (b.activity.isFork = true → e₃.pendingOutbound.1 = e₁.pendingOutbound.1) ∧
      ∀ r₁ r₃ p₁ p₃, (e₁.state none).2.postpone r₁ = (.ok (), p₁) →
        e₃.postpone r₃ = (.ok (), p₃) →
        p₁.form? = p₃.form?.map (fun f => (f.setValues (formEntries s)).2) ∧
        ∀ f₁ f₃, p₁.form? = some f₁ → p₃.form? = some f₃ →
          (f₃.fields.map (·.entered) = f₁.fields.map (·.entered) ↔
            ∀ x ∈ formEntries s, x.1 ∉ f₃.fields.map (·.id))) ∧
      ∀ r p₁ f, e₁.postpone r = (.ok (), p₁) → p₁.form? = some f →
        ∃ e₃, e₂.applyState (p₁.state none).1 = (.ok (), e₃) ∧
          ∀ r', ∃ p₃, e₃.postpone r' = (.ok (), p₃) ∧ p₃.form? = some f := by
  obtain ⟨_, distinct⟩ := LinkedProcess.distinct_flows linked member
  have i₁ : Intact b m env e₁ := by
    have after := (Intact.of_fresh fresh).after_applyState s
    rwa [applied] at after
  have applied₃ := i₁.applyState_state own distinct fresh₂
  have unrestored : (e₁.state none).1.form? = none := by
    rw [form?_state i₁.unsaved, form?_applied fresh applied, i₁.behaviour, unformed]
    rfl
  have i₃ := (Intact.of_fresh fresh₂).after_applyState (e₁.state none).1
  rw [applied₃] at i₃
  -- The snapshot lists no inbound flows, so those are pending that were before.
  have awaits : (e₂.applyState (e₁.state none).1).2.pendingInbound.1 = e₂.awaited := by
    rw [applied₃, ← fresh₂.pendingInbound]
    exact pendingInbound_congr rfl rfl rfl
  rw [applied₃] at awaits
  refine ⟨⟨_, applied₃, awaits, ?_, fun fork => ?_, fun r₁ r₃ p₁ p₃ postponed₁ postponed₃ => ?_⟩,
    fun r p₁ f postponed shown => ?_⟩
  · have same : e₂.awaited = e.awaited := by
      unfold awaited activity
      rw [trigger, (Intact.of_fresh fresh₂).behaviour, (Intact.of_fresh fresh).behaviour]
    rw [← pendingInbound_applied fresh applied, awaits, same, eq_comm]
  · rw [pendingOutbound_of_known]
    rw [fork]
    rfl
  · exact form?_relayed i₁ i₃ (restoredForm_applied fresh applied) unrestored postponed₁ postponed₃
  · have i₂ : Intact b m env p₁ := by
      have after := i₁.after_postpone r
      rwa [postponed] at after
    have applied₂ := i₂.applyState_state own distinct fresh₂
    exact ⟨_, applied₂, fun r' => i₂.postpone_resumed own distinct fresh₂ applied₂ shown r'⟩

/-- A snapshot that lists one of two inbound flows and has a value for a form. -/
def phoned : Snapshot :=
  [("form", .object [("fields",
      .arr [.object [("id", .str "note"), ("value", .str "call back")]])]),
    ("pendingInbound", .texts ["byPhone"])]

/-- Neither the inbound flows nor the value of `phoned` are in the snapshot of the execution that
took it up: the second execution waits for both flows, and its form is empty. -/
theorem phoned_not_relayed :
    let e := ((triageStart .lenient).applyState phoned).2
    let e₂ := ((triageStart .lenient).applyState (e.state none).1).2
    ((triageStart .lenient).applyState phoned).1 = .ok () ∧
      ((triageStart .lenient).applyState (e.state none).1).1 = .ok () ∧
      e.pendingInbound.1.map (·.id) = ["byPhone"] ∧
      e₂.pendingInbound.1.map (·.id) = ["byMail", "byPhone"] ∧
      ((e.state none).2.postpone 0).1 = .ok () ∧ (e₂.postpone 1).1 = .ok () ∧
      (((e.state none).2.postpone 0).2.form?.map fun f => f.fields.map (·.entered)) =
        some [some (.str "call back"), none] ∧
      ((e₂.postpone 1).2.form?.map fun f => f.fields.map (·.entered)) = some [none, none] :=
  ⟨rfl, rfl, rfl, rfl, rfl, rfl, rfl, rfl⟩

/-- What `phoned` is good for after one more hop. -/
theorem phoned_relayed :
    let e₁ := ((triageStart .lenient).applyState phoned).2
    ∃ e₃, (triageStart .lenient).applyState (e₁.state none).1 = (.ok (), e₃) ∧
      e₃.pendingInbound.1.map (·.id) = ["byMail", "byPhone"] ∧
      e₃.pendingInbound.1 ≠ e₁.pendingInbound.1 ∧ e₃.pendingOutbound.1 = e₁.pendingOutbound.1 := by
  intro e₁
  have fresh : Fresh ⟨triageStep, none⟩ .empty (.ofVariables []) (triageStart .lenient) :=
    .withConfig _ (.start _)
  have applied : (triageStart .lenient).applyState phoned = (.ok (), e₁) := rfl
  obtain ⟨⟨e₃, applied₃, awaits, inbound, order, _⟩, _⟩ :=
    relayed (d := triage) rfl (.head _) (Behaviour.leavesFlows_of_stateless rfl) rfl fresh fresh rfl
      applied
  refine ⟨e₃, applied₃, ?_, fun same => ?_, order rfl⟩
  · rw [awaits]
    rfl
  · have kept := inbound.mp same [.between "byPhone" "phone" "sort"] rfl
    exact absurd kept (by decide)

end Execution

end ProcessStep
