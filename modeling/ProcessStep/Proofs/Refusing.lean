import ProcessStep.Proofs.Exchanging
import ProcessStep.Proofs.Settling

/-!
Snapshots that are refused. When the outbound flows of a snapshot cannot be restored, its inbound
flows already are. `withInbound` exchanges the inbound flows of an execution; no operation but
asking for them sees the exchange. So after a refusal everything is as it was if and only if the
inbound flows of the snapshot are those that were pending before.
-/

namespace ProcessStep

open Definition (Flow)

namespace Execution

/-- The execution with other inbound flows known, or none. -/
def withInbound (e : Execution) (fs : Option (List Flow)) : Execution :=
  { e with knownInbound := fs }

/-! ### Operations on an execution with other inbound flows -/

theorem applyState_withInbound (e : Execution) (fs : Option (List Flow)) (s : Snapshot) :
    ∃ fs', (e.withInbound fs).applyState s =
      ((e.applyState s).1, (e.applyState s).2.withInbound fs') := by
  have inbound : (e.withInbound fs).inboundIn s = e.inboundIn s := by
    apply flowsIn_congr <;> rfl
  have outbound : (e.withInbound fs).outboundIn s = e.outboundIn s := by
    apply flowsIn_congr <;> rfl
  rw [applyState_eq, applyState_eq, inbound, outbound]
  rcases e.inboundIn s with x | inbound
  · exact ⟨fs, rfl⟩
  · rcases e.outboundIn s with x | outbound
    · exact ⟨_, rfl⟩
    · exact ⟨_, rfl⟩

end Execution

namespace Operation

open Execution

/-- No operation but asking for the inbound flows sees that others are known. -/
theorem perform_withInbound {op : Operation} (other : op ≠ .pendingInbound) (e : Execution)
    (fs : Option (List Flow)) :
    ∃ fs', op.perform (e.withInbound fs) =
      ((op.perform e).1, (op.perform e).2.withInbound fs') := by
  by_cases takes : ∃ s, op = .applyState s
  · obtain ⟨s, rfl⟩ := takes
    obtain ⟨fs', same⟩ := applyState_withInbound e fs s
    exact ⟨fs', by simp only [perform, same]⟩
  · -- Any other operation keeps the policy, so nothing but the inbound flows is exchanged.
    have takesNothing : ∀ s, op ≠ .applyState s := fun s isThis => takes ⟨s, isThis⟩
    obtain ⟨policy, _⟩ := kept_of_perform other takesNothing e
    refine ⟨fs, (perform_exchanged other takesNothing e e.config fs).trans ?_⟩
    rw [← policy]
    rfl

/-- Only the question for the inbound flows is answered by them. -/
theorem answer_withInbound {op : Operation} (other : op ≠ .pendingInbound) (e : Execution)
    (fs : Option (List Flow)) : op.answer (e.withInbound fs) = op.answer e := by
  obtain ⟨fs', same⟩ := perform_withInbound other e fs
  rw [answer, same, answer]

/-- No operation makes anything but inbound flows of them. -/
theorem effect_withInbound (op : Operation) (e : Execution) (fs : Option (List Flow)) :
    ∃ fs', op.effect (e.withInbound fs) = (op.effect e).withInbound fs' := by
  by_cases asks : op = .pendingInbound
  · subst asks
    refine ⟨some (e.withInbound fs).pendingInbound.1, ?_⟩
    show (e.withInbound fs).pendingInbound.2 = e.pendingInbound.2.withInbound _
    rw [pendingInbound_snd, pendingInbound_snd]
    rfl
  · obtain ⟨fs', same⟩ := perform_withInbound asks e fs
    exact ⟨fs', congrArg Prod.snd same⟩

end Operation

/-! ### Pending inbound flows -/

namespace Execution

theorem pendingInbound_congr {e e' : Execution} (known : e'.knownInbound = e.knownInbound)
    (trigger : e'.trigger = e.trigger) (behaviour : e'.behaviour = e.behaviour) :
    e'.pendingInbound.1 = e.pendingInbound.1 := by
  unfold pendingInbound awaited activity
  rw [known, trigger, behaviour]
  cases e.knownInbound <;> rfl

/-- What was computed before does not change the inbound flows that are awaited. -/
theorem pendingInbound_recalls {e e' : Execution} (recalls : Recalls e e') :
    e'.pendingInbound.1 = e.pendingInbound.1 := by
  have same := pendingInbound_settled (fun r => r) e'
  rw [settled_recalls recalls, pendingInbound_settled] at same
  exact (congrArg Prod.fst same).symm

/-- Flows that can be read are stored, even if the snapshot is refused for the outbound ones. -/
theorem pendingInbound_applyState (e : Execution) (s : Snapshot) :
    (e.applyState s).2.pendingInbound.1 =
      match e.inboundIn s with
      | .ok (some fs) => fs
      | _ => e.pendingInbound.1 := by
  rcases e.applyState_cases s with ⟨x, inbound, same⟩ | ⟨fs, x, inbound, _, same⟩ |
    ⟨fs, outbound, inbound, _, same⟩
  · rw [same, inbound]
  · rw [same, inbound]
    cases fs with
    | none => exact pendingInbound_congr rfl rfl rfl
    | some fs => exact congrArg Prod.fst (pendingInbound_of_known rfl)
  · rw [same, inbound]
    cases fs with
    | none => exact pendingInbound_congr rfl rfl rfl
    | some fs => exact congrArg Prod.fst (pendingInbound_of_known rfl)

/-- The inbound flows that are pending after an operation: only a snapshot that lists others
changes them. -/
theorem pendingInbound_effect (op : Operation) (e : Execution) :
    (op.effect e).pendingInbound.1 =
      match op with
      | .applyState s =>
          match e.inboundIn s with
          | .ok (some fs) => fs
          | _ => e.pendingInbound.1
      | _ => e.pendingInbound.1 := by
  by_cases takes : ∃ s, op = .applyState s
  · obtain ⟨s, rfl⟩ := takes
    exact pendingInbound_applyState e s
  · have takesNothing : ∀ s, op ≠ .applyState s := not_exists.mp takes
    have kept : (op.effect e).pendingInbound.1 = e.pendingInbound.1 := by
      cases reads : op.reads with
      | true => exact pendingInbound_recalls (Operation.recalls_of_reads reads e)
      | false =>
          rw [Operation.effect_frame reads takesNothing]
          exact pendingInbound_congr rfl rfl rfl
    rw [kept]
    cases op with
    | applyState s => exact absurd rfl (takesNothing s)
    | _ => rfl

/-! ### After a refusal -/

/-- A refused snapshot has exchanged at most the inbound flows. -/
theorem withInbound_of_refused {e e' : Execution} {s : Snapshot} {x : ExecutionError}
    (refused : e.applyState s = (.error x, e')) : ∃ fs, e' = e.withInbound fs := by
  rcases e.applyState_cases s with ⟨y, _, same⟩ | ⟨inbound, y, _, _, same⟩ |
    ⟨inbound, outbound, _, _, same⟩
  · rw [same] at refused
    cases refused
    exact ⟨e.knownInbound, rfl⟩
  · rw [same] at refused
    cases refused
    exact ⟨_, rfl⟩
  · rw [same] at refused
    cases refused

/-- Other inbound flows make a difference to nothing but inbound flows, however long the run. -/
theorem after_withInbound (e : Execution) (fs : Option (List Flow)) (ops : List Operation) :
    ∃ fs', (e.withInbound fs).after ops = (e.after ops).withInbound fs' := by
  induction ops generalizing e fs with
  | nil => exact ⟨fs, rfl⟩
  | cons op ops ih =>
      obtain ⟨fs', same⟩ := Operation.effect_withInbound op e fs
      rw [after_cons, after_cons, same]
      exact ih (op.effect e) fs'

/-- Executions that differ in nothing to be seen keep to that. -/
theorem pendingInbound_after {e : Execution} {fs : Option (List Flow)}
    (same : (e.withInbound fs).pendingInbound.1 = e.pendingInbound.1) (ops : List Operation) :
    ((e.withInbound fs).after ops).pendingInbound.1 = (e.after ops).pendingInbound.1 := by
  induction ops generalizing e fs with
  | nil => exact same
  | cons op ops ih =>
      have step : (op.effect (e.withInbound fs)).pendingInbound.1 =
          (op.effect e).pendingInbound.1 := by
        rw [pendingInbound_effect, pendingInbound_effect, same]
        cases op with
        | applyState s =>
            have listed : (e.withInbound fs).inboundIn s = e.inboundIn s := by
              apply flowsIn_congr <;> rfl
            dsimp only
            rw [listed]
        | _ => rfl
      obtain ⟨fs', effect⟩ := Operation.effect_withInbound op e fs
      rw [effect] at step
      rw [after_cons, after_cons, effect]
      exact ih step

/-- After a snapshot was refused, everything but the inbound flows is answered as if it had not
been taken up, whatever is done later. The inbound flows are, too, exactly when those that the
snapshot lists are the ones that were pending. -/
theorem answers_after_refusal {e e' : Execution} {s : Snapshot} {x : ExecutionError}
    (refused : e.applyState s = (.error x, e')) :
    (∀ ops op, op ≠ Operation.pendingInbound →
        op.answer (e'.after ops) = op.answer (e.after ops)) ∧
      ((∀ ops op, Operation.answer op (e'.after ops) = op.answer (e.after ops)) ↔
        ∀ fs, e.inboundIn s = .ok (some fs) → fs = e.pendingInbound.1) := by
  have listed := pendingInbound_applyState e s
  rw [refused] at listed
  obtain ⟨known, rfl⟩ := withInbound_of_refused refused
  have others : ∀ ops op, op ≠ Operation.pendingInbound →
      op.answer ((e.withInbound known).after ops) = op.answer (e.after ops) := by
    intro ops op other
    obtain ⟨known', same⟩ := after_withInbound e known ops
    rw [same]
    exact Operation.answer_withInbound other _ known'
  refine ⟨others, fun all fs restored => ?_, fun kept ops op => ?_⟩
  · have asked := all [] .pendingInbound
    rw [restored] at listed
    exact listed.symm.trans (Operation.Answer.flows.inj asked)
  · by_cases asks : op = .pendingInbound
    · subst asks
      have same : (e.withInbound known).pendingInbound.1 = e.pendingInbound.1 := by
        refine listed.trans ?_
        split
        · next fs restored => exact kept fs restored
        · rfl
      exact congrArg Operation.Answer.flows (pendingInbound_after same ops)
    · exact others ops op asks

/-- The inbound flows of this snapshot can be restored, its outbound flows cannot. -/
def lopsided : Snapshot :=
  [("pendingInbound", .texts ["byPhone"]), ("pendingOutbound", .str "toFix")]

/-- A refused snapshot can change what is pending: the flow `byMail` is lost. -/
theorem refusal_loses_inbound :
    ((triageStart .lenient).applyState lopsided).1 =
        .error (.invalidState (.notFlowIds "pendingOutbound" (.str "toFix"))) ∧
      (triageStart .lenient).pendingInbound.1.map (·.id) = ["byMail", "byPhone"] ∧
      ((triageStart .lenient).applyState lopsided).2.pendingInbound.1.map (·.id) = ["byPhone"] :=
  ⟨rfl, rfl, rfl⟩

/-- That `lopsided` was refused is seen in the inbound flows and nowhere else. -/
theorem triage_answers_after_refusal :
    (∀ ops op, op ≠ Operation.pendingInbound →
        op.answer (((triageStart .lenient).applyState lopsided).2.after ops) =
          op.answer ((triageStart .lenient).after ops)) ∧
      ¬∀ ops op,
        Operation.answer op (((triageStart .lenient).applyState lopsided).2.after ops) =
          op.answer ((triageStart .lenient).after ops) := by
  obtain ⟨others, all⟩ := answers_after_refusal (e := triageStart .lenient) (s := lopsided)
    (x := .invalidState (.notFlowIds "pendingOutbound" (.str "toFix"))) rfl
  refine ⟨others, fun same => ?_⟩
  have kept := all.mp same [.between "byPhone" "phone" "sort"] rfl
  exact absurd kept (by decide)

end Execution

end ProcessStep
