import ProcessStep.Proofs.Listing
import ProcessStep.Proofs.Refusing
import ProcessStep.Proofs.Resuming
import ProcessStep.Proofs.Settling

/-!
The pending flows at a side of an execution. They are the ones that are known there, or else those
that the definition gives (`pending_eq`). Of all operations only taking up a snapshot changes them,
and what it restores is said by `restoredBy` (`pending_effect`). So what holds of the flows that the
definition gives, and of all that are restored, holds of the flows that are ever pending
(`pending_of_reached`).
-/

namespace ProcessStep

open Definition (Flow)

namespace Execution

variable {e e' : Execution} {s : Snapshot} {d : Direction} {fs : List Flow}

def pending (e : Execution) : Direction → List Flow
  | .inbound => e.pendingInbound.1
  | .outbound => e.pendingOutbound.1

/-- The flows at a side as far as they are known. -/
def known (e : Execution) : Direction → Option (List Flow)
  | .inbound => e.knownInbound
  | .outbound => e.knownOutbound

/-- The flows that are pending at a side as long as none were restored. -/
def unrestored (e : Execution) : Direction → List Flow
  | .inbound => e.awaited
  | .outbound => e.considered

/-- Pending are the flows that are known, and those of the activity as long as none are. -/
theorem pending_eq (e : Execution) (d : Direction) :
    e.pending d = (e.known d).getD (e.unrestored d) := by
  cases d with
  | inbound => exact e.pendingInbound_fst
  | outbound => exact e.pendingOutbound_fst

theorem pending_of_known (known : e.known d = some fs) : e.pending d = fs := by
  rw [pending_eq, known, Option.getD_some]

/-- The triggering flow is left out, and the others keep their order. -/
theorem awaited_sublist (e : Execution) : e.awaited.Sublist e.activity.inbound := by
  unfold awaited
  split
  · exact List.filter_sublist
  · exact .refl _

theorem considered_perm (e : Execution) : e.considered.Perm e.activity.outbound :=
  List.perm_append_comm.trans (List.filter_append_perm _ _)

/-- As long as none were restored, all flows that are pending are those of the activity. -/
theorem mem_side_of_unrestored {f : Flow} (member : f ∈ e.unrestored d) :
    f ∈ e.activity.side d := by
  cases d with
  | inbound => exact e.awaited_sublist.subset member
  | outbound => exact e.considered_perm.subset member

/-- The definition does not give a flow twice. -/
theorem nodup_unrestored (nodup : (e.activity.side d).Nodup) : (e.unrestored d).Nodup := by
  cases d with
  | inbound => exact nodup.sublist e.awaited_sublist
  | outbound => exact e.considered_perm.nodup_iff.mpr nodup

theorem unrestored_congr (setup : SameSetup e e') (d : Direction) :
    e'.unrestored d = e.unrestored d := by
  cases d with
  | inbound => simp only [unrestored, awaited, activity, setup.behaviour, setup.trigger]
  | outbound => simp only [unrestored, considered, activity, setup.behaviour]

/-- The pending flows at a side depend on what is known there and on the setup. -/
theorem pending_congr (setup : SameSetup e e') (same : e'.known d = e.known d) :
    e'.pending d = e.pending d := by
  rw [pending_eq, pending_eq, same, unrestored_congr setup]

/-! ### Outbound flows -/

/-- What was computed before does not change the flows that are considered. -/
theorem pendingOutbound_recalls (recalls : Recalls e e') :
    e'.pendingOutbound.1 = e.pendingOutbound.1 := by
  have same := pendingOutbound_settled (fun r => r) e'
  rw [settled_recalls recalls, pendingOutbound_settled] at same
  exact (congrArg Prod.fst same).symm

theorem pendingOutbound_congr (known : e'.knownOutbound = e.knownOutbound)
    (behaviour : e'.behaviour = e.behaviour) : e'.pendingOutbound.1 = e.pendingOutbound.1 := by
  rw [pendingOutbound_fst, pendingOutbound_fst, known, considered, considered, activity, activity,
    behaviour]

/-- No operation but taking up a snapshot changes the outbound flows that are pending. -/
theorem pendingOutbound_effect {op : Operation} (takesNothing : ∀ s, op ≠ .applyState s)
    (e : Execution) : (op.effect e).pendingOutbound.1 = e.pendingOutbound.1 := by
  cases reads : op.reads with
  | true => exact pendingOutbound_recalls (Operation.recalls_of_reads reads e)
  | false =>
      rw [Operation.effect_frame reads takesNothing]
      exact pendingOutbound_congr rfl rfl

/-! ### Both sides -/

/-- The flows at a side that a snapshot restores, if it restores any. -/
def restoredBy (e : Execution) (s : Snapshot) (d : Direction) : Option (List Flow) :=
  match e.flowsListed s .inbound, d with
  | .ok fs, .inbound => fs
  | .ok _, .outbound => (e.flowsListed s .outbound).toOption.join
  | .error _, _ => none

/-- Flows that are restored are those that the snapshot lists. -/
theorem listed_of_restoredBy (restored : e.restoredBy s d = some fs) :
    ∃ ids, s.Lists d ids ∧ Listed (e.activity.side d) ids fs := by
  refine listed_of_flowsListed ?_
  unfold restoredBy at restored
  split at restored
  · next listed =>
      rw [listed, restored]
  · cases listed : e.flowsListed s .outbound with
    | error x =>
        rw [listed] at restored
        cases restored
    | ok fs' =>
        rw [listed] at restored
        exact congrArg Except.ok restored
  · cases restored

/-- Taking up a snapshot makes the flows known that it restores, and keeps those that were known at
a side that it leaves alone. -/
theorem known_applyState (e : Execution) (s : Snapshot) (d : Direction) :
    (e.applyState s).2.known d = (e.restoredBy s d).or (e.known d) := by
  unfold restoredBy
  rcases e.applyState_cases s with ⟨x, inbound, same⟩ | ⟨fs, x, inbound, outbound, same⟩ |
    ⟨fs, fs', inbound, outbound, same⟩
  · rw [same, show e.flowsListed s .inbound = _ from inbound]
    rfl
  · rw [same, show e.flowsListed s .inbound = _ from inbound,
      show e.flowsListed s .outbound = _ from outbound]
    cases d <;> rfl
  · rw [same, show e.flowsListed s .inbound = _ from inbound,
      show e.flowsListed s .outbound = _ from outbound]
    cases d <;> rfl

/-- All that a snapshot changes when it is taken up. -/
theorem applyState_eq_ok (applied : e.applyState s = (.ok (), e')) :
    ∃ inbound outbound, e.flowsListed s .inbound = .ok inbound ∧
      e.flowsListed s .outbound = .ok outbound ∧
      e' = { e with
        knownInbound := inbound.or e.knownInbound
        knownOutbound := outbound.or e.knownOutbound
        restoredForm := s.form?.or e.restoredForm } := by
  rcases e.applyState_cases s with ⟨x, _, same⟩ | ⟨inbound, x, _, _, same⟩ |
    ⟨inbound, outbound, restored, restored', same⟩
  · cases applied.symm.trans same
  · cases applied.symm.trans same
  · cases applied.symm.trans same
    exact ⟨inbound, outbound, restored, restored', rfl⟩

/-- The flows that a snapshot lists are pending once it is taken up. -/
theorem listed_pending {ids : List String} (applied : (e.applyState s).1 = .ok ())
    (lists : s.Lists d ids) : Listed (e.activity.side d) ids ((e.applyState s).2.pending d) := by
  obtain ⟨inbound, outbound, listed, listed', _⟩ := applyState_eq_ok (Prod.ext applied rfl)
  obtain ⟨fs, restored⟩ : ∃ fs, e.restoredBy s d = some fs := by
    have found {fs : Option (List Flow)} (listed : e.flowsListed s d = .ok fs) :
        ∃ fs', fs = some fs' := by
      cases fs with
      | none => cases (absent_of_flowsListed listed).symm.trans lists
      | some fs' => exact ⟨fs', rfl⟩
    unfold restoredBy
    rw [listed]
    cases d with
    | inbound => exact found listed
    | outbound =>
        rw [listed']
        exact found listed'
  obtain ⟨ids', lists', listed⟩ := listed_of_restoredBy restored
  have pending : (e.applyState s).2.pending d = fs := by
    rw [pending_of_known]
    rw [known_applyState, restored, Option.some_or]
  rwa [pending, lists.unique lists']

end Execution

/-- The flows at a side that an operation restores, if it restores any. -/
def Operation.restores (op : Operation) (e : Execution) (d : Direction) : Option (List Flow) :=
  match op with
  | .applyState s => e.restoredBy s d
  | _ => none

namespace Execution

/-- An operation leaves the pending flows as they are unless it restores others. -/
theorem pending_effect (op : Operation) (e : Execution) (d : Direction) :
    (op.effect e).pending d = (op.restores e d).getD (e.pending d) := by
  by_cases takes : ∃ s, op = .applyState s
  · obtain ⟨s, rfl⟩ := takes
    rw [pending_eq, unrestored_congr (SameSetup.effect _ e), pending_eq]
    show ((e.applyState s).2.known d).getD _ = (e.restoredBy s d).getD _
    rw [known_applyState]
    cases e.restoredBy s d <;> rfl
  · have takesNothing : ∀ s, op ≠ .applyState s := fun s isThis => takes ⟨s, isThis⟩
    have nothing : op.restores e d = none := by
      cases op with
      | applyState s => exact absurd rfl (takesNothing s)
      | _ => rfl
    rw [nothing, Option.getD_none]
    cases d with
    | inbound =>
        refine (pendingInbound_effect op e).trans ?_
        cases op with
        | applyState s => exact absurd rfl (takesNothing s)
        | _ => rfl
    | outbound => exact pendingOutbound_effect takesNothing e

variable {allowed : Operation → Prop} {b : Behaviour} {m : Message} {env : Environment}

/-- No operation makes an execution one of another activity. -/
theorem behaviour_of_reached (reached : Reached allowed b m env e) : e.behaviour = b := by
  induction reached with
  | start token => rfl
  | withConfig _ _ ih | triggeredBy _ _ ih | withRootFlow _ _ ih => exact ih
  | @perform e op _ _ ih => exact (SameSetup.effect op e).behaviour.trans ih

/-- What holds of the flows that the definition gives and of all that operations restore, holds of
the flows that are pending at any time. -/
theorem pending_of_reached {P : List Flow → Prop}
    (unrestored : ∀ e' : Execution, e'.behaviour = b → P (e'.unrestored d))
    (restored : ∀ (e' : Execution) op fs, e'.behaviour = b → allowed op →
      op.restores e' d = some fs → P fs)
    (reached : Reached allowed b m env e) : P (e.pending d) := by
  have holds {e' : Execution} (behaviour : e'.behaviour = b)
      (known : ∀ fs, e'.known d = some fs → P fs) : P (e'.pending d) := by
    rw [pending_eq]
    cases found : e'.known d with
    | none => exact unrestored e' behaviour
    | some fs => exact known fs found
  -- As long as no flows are known the trigger matters, so the invariant speaks of known ones only.
  have invariant : ∀ fs, e.known d = some fs → P fs := by
    induction reached with
    | start token => cases d <;> exact fun _ known => nomatch known
    | withConfig _ _ ih | triggeredBy _ _ ih | withRootFlow _ _ ih => cases d <;> exact ih
    | @perform e op prior isAllowed ih =>
        intro fs known
        have behaviour := behaviour_of_reached prior
        rw [← pending_of_known known, pending_effect]
        cases found : op.restores e d with
        | none => exact holds behaviour ih
        | some fs' => exact restored e op fs' behaviour isAllowed found
  exact holds (behaviour_of_reached reached) invariant

/-- Pending flows are flows of the activity. -/
theorem mem_side_of_reached (reached : Reached allowed b m env e) :
    ∀ f ∈ e.pending d, f ∈ b.activity.side d := by
  refine pending_of_reached (P := fun fs => ∀ f ∈ fs, f ∈ b.activity.side d) ?_ ?_ reached
  · rintro e' rfl f member
    exact mem_side_of_unrestored member
  · rintro e' op fs rfl _ restored
    cases op with
    | applyState s =>
        obtain ⟨ids, _, listed⟩ := listed_of_restoredBy restored
        exact listed.live
    | _ => cases restored

end Execution

end ProcessStep
