import ProcessStep.Proofs.Flows
import ProcessStep.Proofs.Tables

/-!
Snapshots one after the other. What two snapshots list is listed by the one that they are merged to
(`flowsListed_merge`), so taking up both, one after the other, leaves the same execution as taking
up the merged one. A key that a snapshot does not have leaves what is known as it is.
-/

namespace ProcessStep

open Definition (Flow)

namespace Snapshot

variable {s s' : Snapshot} {key : String}

/-- The later snapshot counts where it has something. -/
theorem get?_merge (sorted : Table.Sorted s') (s : Snapshot) (key : String) :
    Table.get? (s.merge s') key = (Table.get? s' key).or (Table.get? s key) := by
  rw [merge, Table.get?_extend, Table.last?_of_sorted sorted]

/-- The ids that are read under a key depend on what is found there. -/
theorem flowIds_congr (same : Table.get? s key = Table.get? s' key) :
    s.flowIds key = s'.flowIds key := by
  rw [flowIds, flowIds, same]

end Snapshot

namespace Execution

variable {e e' : Execution} {s s' : Snapshot} {d : Direction} {fs fs' : Option (List Flow)}

/-! ### One snapshot -/

/-- A snapshot whose flows can be restored is taken up whole. -/
theorem applyState_of_listed (inbound : e.flowsListed s .inbound = .ok fs)
    (outbound : e.flowsListed s .outbound = .ok fs') :
    e.applyState s = (.ok (), { e with
      knownInbound := fs.or e.knownInbound
      knownOutbound := fs'.or e.knownOutbound
      restoredForm := s.form?.or e.restoredForm }) := by
  have inbound : e.inboundIn s = .ok fs := inbound
  have outbound : e.outboundIn s = .ok fs' := outbound
  rw [applyState_eq, inbound, outbound]

/-- What a snapshot lists does not depend on what was taken up before. -/
theorem flowsListed_after_applyState (e : Execution) (s s' : Snapshot) (d : Direction) :
    (e.applyState s).2.flowsListed s' d = e.flowsListed s' d := by
  have setup := SameSetup.applyState e s
  rw [flowsListed, flowsListed, activity, activity, setup.behaviour]
  exact flowsIn_congr setup.id setup.config _ _ _

theorem restoredBy_of_absent (absent : Table.get? s d.key = none) : e.restoredBy s d = none := by
  cases restored : e.restoredBy s d with
  | none => rfl
  | some fs =>
      obtain ⟨ids, lists, _⟩ := listed_of_restoredBy restored
      cases absent.symm.trans lists

/-- Flows that a snapshot says nothing about stay as they are. -/
theorem known_of_absent (absent : Table.get? s d.key = none) :
    (e.applyState s).2.known d = e.known d := by
  rw [known_applyState, restoredBy_of_absent absent, Option.none_or]

/-! ### Two snapshots -/

/-- The merged snapshot lists what the later one does, or else what the first one does. -/
theorem flowsListed_merge (sorted : Table.Sorted s') (listed : e.flowsListed s d = .ok fs)
    (listed' : e.flowsListed s' d = .ok fs') :
    e.flowsListed (s.merge s') d = .ok (fs'.or fs) := by
  have found := Snapshot.get?_merge sorted s d.key
  cases fs' with
  | none =>
      rw [absent_of_flowsListed listed', Option.none_or] at found
      rw [flowsListed, Snapshot.flowIds_congr found]
      exact listed
  | some fs' =>
      cases later : Table.get? s' d.key with
      | none => cases (flowsListed_of_absent later).symm.trans listed'
      | some v =>
          rw [later, Option.some_or, ← later] at found
          rw [flowsListed, Snapshot.flowIds_congr found]
          exact listed'

/-- Two snapshots that are taken up one after the other come to the same as the merged one. -/
theorem applyState_merge {e₁ e₂ : Execution} (sorted : Table.Sorted s')
    (first : e.applyState s = (.ok (), e₁)) (second : e₁.applyState s' = (.ok (), e₂)) :
    e.applyState (s.merge s') = (.ok (), e₂) := by
  have known (d : Direction) : e₁.flowsListed s' d = e.flowsListed s' d := by
    have same := flowsListed_after_applyState e s s' d
    rwa [first] at same
  obtain ⟨inbound, outbound, listed, listed', rfl⟩ := applyState_eq_ok first
  obtain ⟨inbound', outbound', later, later', rfl⟩ := applyState_eq_ok second
  rw [known] at later later'
  rw [applyState_of_listed (flowsListed_merge sorted listed later)
    (flowsListed_merge sorted listed' later')]
  have form : (s.merge s').form? = s'.form?.or s.form? := Snapshot.get?_merge sorted s _
  simp only [form, Option.or_assoc]

/-- A snapshot that was taken up is taken up again without any change. -/
theorem applyState_again (applied : e.applyState s = (.ok (), e')) :
    e'.applyState s = (.ok (), e') := by
  have known (d : Direction) : e'.flowsListed s d = e.flowsListed s d := by
    have same := flowsListed_after_applyState e s s d
    rwa [applied] at same
  obtain ⟨inbound, outbound, listed, listed', rfl⟩ := applyState_eq_ok applied
  rw [applyState_of_listed ((known _).trans listed) ((known _).trans listed')]
  simp only [← Option.or_assoc, Option.or_self]

/-- Two snapshots that are taken up one after the other leave exactly the execution that the merged
one leaves, so nothing that is done later tells them apart. Taking up the same snapshot again
changes nothing, and what a snapshot says nothing about stays as it was. -/
theorem restores_compose {e₁ e₂ : Execution} {s₁ s₂ : Snapshot} (sorted : Table.Sorted s₂)
    (first : e.applyState s₁ = (.ok (), e₁)) (second : e₁.applyState s₂ = (.ok (), e₂)) :
    e.applyState (s₁.merge s₂) = (.ok (), e₂) ∧
      e₁.applyState s₁ = (.ok (), e₁) ∧
      (∀ d, Table.get? s₂ d.key = none →
        e₂.known d = e₁.known d ∧ e₂.pending d = e₁.pending d) ∧
      (s₂.form? = none → e₂.restoredForm = e₁.restoredForm) := by
  refine ⟨applyState_merge sorted first second, applyState_again first, fun d absent => ?_,
    fun formless => ?_⟩
  · have known : e₂.known d = e₁.known d := by
      have same := known_of_absent (e := e₁) absent
      rwa [second] at same
    have setup := SameSetup.applyState e₁ s₂
    rw [second] at setup
    exact ⟨known, pending_congr setup known⟩
  · obtain ⟨_, _, _, _, rfl⟩ := applyState_eq_ok second
    dsimp only
    rw [formless, Option.none_or]

/-- The later snapshot brings its outbound flows, the first one keeps its inbound flows and its
form. -/
theorem triage_restores_compose :
    let s₁ : Snapshot := [("form", .obj [("note", .str "call")]),
      ("pendingInbound", .texts ["byPhone"]), ("pendingOutbound", .texts ["toFix"])]
    let s₂ : Snapshot := [("pendingOutbound", .texts ["toClose", "toFix"])]
    let e₁ := ((triageStart .strict).applyState s₁).2
    let e₂ := (e₁.applyState s₂).2
    (triageStart .strict).applyState (s₁.merge s₂) = (.ok (), e₂) ∧
      e₂.known .inbound = e₁.known .inbound ∧ e₂.restoredForm = e₁.restoredForm ∧
      (e₂.pending .outbound).map (·.id) = ["toClose", "toFix"] := by
  intro s₁ s₂ e₁ e₂
  have first : (triageStart .strict).applyState s₁ = (.ok (), e₁) := rfl
  have second : e₁.applyState s₂ = (.ok (), e₂) := rfl
  obtain ⟨merged, _, kept, form⟩ := restores_compose (by decide) first second
  exact ⟨merged, (kept .inbound rfl).1, form rfl, rfl⟩

end Execution

end ProcessStep
