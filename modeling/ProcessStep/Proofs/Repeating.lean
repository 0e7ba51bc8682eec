import ProcessStep.Proofs.Choosing

/-!
How often a flow is pending. The definition does not give a flow twice, but a snapshot may list one
more than once, and then it is pending as often. So no flow is pending twice exactly if the snapshot
that was restored last at that side lists none twice (`nodup_after`), and a flow is taken as often
as it is pending unless it is a default flow (`count_chosen`).
-/

namespace ProcessStep

open Definition (Flow)

/-- No flow at a side is listed twice. Ids that no flow has may be. -/
def Snapshot.ListsOnce (s : Snapshot) (d : Direction) (live : List Flow) : Prop :=
  ∀ ids, s.Lists d ids → (ids.filter (· ∈ live.map (·.id))).Nodup

section Lists

variable {live fs : List Flow} {ids : List String} {s : Snapshot} {d : Direction}

/-- Flows with different ids are different. -/
theorem Definition.Flow.nodup_of_ids (distinct : (fs.map (·.id)).Nodup) : fs.Nodup :=
  (List.pairwise_map.mp distinct).imp fun differ same => differ (congrArg _ same)

/-- Listed flows are different exactly if their ids are. -/
theorem Listed.nodup_iff (distinct : (live.map (·.id)).Nodup) (listed : Listed live ids fs) :
    fs.Nodup ↔ (ids.filter (· ∈ live.map (·.id))).Nodup := by
  rw [← listed.ids]
  constructor
  · intro nodup
    refine List.pairwise_map.mpr (nodup.imp_of_mem ?_)
    intro f g member member' differ same
    refine differ ?_
    have found := Flow.find?_id distinct (listed.live f member)
    rw [same, Flow.find?_id distinct (listed.live g member')] at found
    exact (Option.some.inj found).symm
  · exact Flow.nodup_of_ids

/-- Ids of no flow may come as often as they like. -/
theorem Snapshot.Lists.once_iff (lists : s.Lists d ids) :
    s.ListsOnce d live ↔ (ids.filter (· ∈ live.map (·.id))).Nodup := by
  constructor
  · intro once
    exact once ids lists
  · intro nodup ids' lists'
    rwa [← lists.unique lists']

end Lists

namespace Operation

/-- The snapshot that the operation restores flows at a side from, if it does. -/
def restoring? (op : Operation) (e : Execution) (d : Direction) : Option Snapshot :=
  match op with
  | .applyState s => if (e.restoredBy s d).isSome then some s else none
  | _ => none

end Operation

namespace Execution

variable {e : Execution} {s : Snapshot} {sc : Scope} {d : Direction} {f : Flow} {fs : List Flow}

/-- The snapshot that operations restored flows at a side from last, if any did. -/
def lastRestored (d : Direction) (e : Execution) : List Operation → Option Snapshot
  | [] => none
  | op :: ops => (lastRestored d (op.effect e) ops).or (op.restoring? e d)

/-! ### Pending flows -/

/-- A flow is pending twice exactly if its id is listed twice. -/
theorem nodup_restoredBy_iff (distinct : ((e.activity.side d).map (·.id)).Nodup)
    (restored : e.restoredBy s d = some fs) : fs.Nodup ↔ s.ListsOnce d (e.activity.side d) := by
  obtain ⟨ids, lists, listed⟩ := listed_of_restoredBy restored
  rw [listed.nodup_iff distinct, lists.once_iff]

/-- What an operation does to whether a flow is pending twice. -/
theorem nodup_effect (distinct : ((e.activity.side d).map (·.id)).Nodup) (op : Operation) :
    ((op.effect e).pending d).Nodup ↔
      match op.restoring? e d with
      | none => (e.pending d).Nodup
      | some s => s.ListsOnce d (e.activity.side d) := by
  rw [pending_effect]
  cases op with
  | applyState s =>
      simp only [Operation.restoring?, Operation.restores]
      cases restored : e.restoredBy s d with
      | none => rfl
      | some fs => exact nodup_restoredBy_iff distinct restored
  | _ => rfl

/-- After operations no flow is pending twice exactly if the snapshot that was restored last lists
none twice. -/
theorem nodup_after (distinct : ((e.activity.side d).map (·.id)).Nodup) (ops : List Operation) :
    ((e.after ops).pending d).Nodup ↔
      match e.lastRestored d ops with
      | none => (e.pending d).Nodup
      | some s => s.ListsOnce d (e.activity.side d) := by
  induction ops generalizing e with
  | nil => rfl
  | cons op ops ih =>
      have kept : (op.effect e).activity = e.activity :=
        congrArg Behaviour.activity (SameSetup.effect op e).behaviour
      rw [after_cons, ih (kept ▸ distinct), lastRestored, kept]
      cases (op.effect e).lastRestored d ops with
      | some s => rfl
      | none => exact nodup_effect distinct op

variable {b : Behaviour} {m : Message} {env : Environment}

/-- As long as no snapshot lists a flow twice, none is pending twice. -/
theorem nodup_of_reached (distinct : ((b.activity.side d).map (·.id)).Nodup)
    (reached : Reached (fun op => ∀ s, op = .applyState s → s.ListsOnce d (b.activity.side d))
      b m env e) : (e.pending d).Nodup := by
  refine pending_of_reached (P := List.Nodup) ?_ ?_ reached
  · rintro e' rfl
    exact nodup_unrestored (Flow.nodup_of_ids distinct)
  · rintro e' op fs rfl once restored
    cases op with
    | applyState s => exact (nodup_restoredBy_iff distinct restored).mpr (once s rfl)
    | _ => cases restored

/-! ### Flows that are taken -/

/-- Flows that are taken are pending ones in their order, each as often or less. -/
theorem chosen_sublist (s : Scope) (fs : List Flow) : (chosen s fs).Sublist fs := by
  unfold chosen
  split
  · cases found : fs.find? (·.isDefault) with
    | none => exact List.nil_sublist fs
    | some f => exact List.singleton_sublist.mpr (List.mem_of_find?_eq_some found)
  · exact List.filter_sublist

/-- A flow that is taken is taken as often as it is pending, a default flow once. -/
theorem count_chosen (member : f ∈ chosen sc fs) :
    (chosen sc fs).count f = if f.isDefault then 1 else fs.count f := by
  split
  · next isDefault =>
      rw [chosen_of_default member isDefault, List.count_singleton_self]
  · next other =>
      unfold chosen at member ⊢
      split at member
      · exact absurd (List.find?_some (p := Flow.isDefault) (Option.mem_toList.mp member)) other
      · next some =>
          rw [if_neg some]
          exact List.count_filter (List.mem_filter.mp member).2

/-! ### Both -/

variable {t : Definition.Process} {p : LinkedProcess}

/-- Pending flows and flows that are taken are flows of the activity, and none is taken that is not
pending. A flow is taken as often as it is pending. It is not pending twice as long as no snapshot
lists it twice; after any operations, exactly if the snapshot that was restored last does not. -/
theorem pending_flows (linked : LinkedProcess.link t = .ok p) (member : b.activity ∈ p.activities)
    (reached : Reached (fun _ => True) b m env e) :
    (∀ d, ∀ f ∈ e.pending d, f ∈ b.activity.side d) ∧
      (∀ fs, e.eligibleOutbound.1 = .ok fs →
        fs.Sublist (e.pending .outbound) ∧
          ∀ f ∈ fs, f ∈ b.activity.outbound ∧
            fs.count f = if f.isDefault then 1 else (e.pending .outbound).count f) ∧
      (∀ d, Reached (fun op => ∀ s, op = .applyState s → s.ListsOnce d (b.activity.side d))
        b m env e → (e.pending d).Nodup) ∧
      ∀ d ops, ((e.after ops).pending d).Nodup ↔
        match e.lastRestored d ops with
        | none => (e.pending d).Nodup
        | some s => s.ListsOnce d (b.activity.side d) := by
  have own : ∀ d, ∀ f ∈ e.pending d, f ∈ b.activity.side d := fun d => mem_side_of_reached reached
  have distinct (d : Direction) := LinkedProcess.distinct_side linked member d
  refine ⟨own, fun fs taken => ?_, fun d once => nodup_of_reached (distinct d) once,
    fun d ops => ?_⟩
  · have single := singleDefault_of_reached linked member reached
    cases (eligibleOutbound_eq_iff single _).mp taken with
    | nothing => exact ⟨List.nil_sublist _, fun f none => nomatch none⟩
    | @decided sc =>
        have sublist := chosen_sublist sc (e.pending .outbound)
        exact ⟨sublist, fun f taken => ⟨own .outbound f (sublist.subset taken), count_chosen taken⟩⟩
  · have behaviour := behaviour_of_reached reached
    subst behaviour
    exact nodup_after (distinct d) ops

def stuttering : Snapshot :=
  [("pendingInbound", .texts ["byPhone", "byPhone"]),
    ("pendingOutbound", .texts ["toFix", "toFix"])]

/-- After such a snapshot flows are pending twice, and one is taken twice. -/
theorem pending_twice :
    let e := ((triageStart .strict).applyState stuttering).2
    (e.pending .inbound).map (·.id) = ["byPhone", "byPhone"] ∧
      (e.pending .outbound).map (·.id) = ["toFix", "toFix"] ∧
      e.eligibleOutbound.1 =
        .ok [.between "toFix" "sort" "fix", .between "toFix" "sort" "fix"] :=
  ⟨rfl, rfl, rfl⟩

/-- A later snapshot without repetitions puts the outbound flows right, and leaves the inbound flows
as they are. -/
theorem triage_pending_flows :
    let e := (triageStart .strict).after
      [.applyState stuttering, .applyState [("pendingOutbound", .texts ["toClose", "toFix"])]]
    (e.pending .outbound).Nodup ∧ ¬(e.pending .inbound).Nodup ∧
      ∀ f ∈ e.pending .inbound, f ∈ triageStep.inbound := by
  intro e
  have reached : Reached (fun _ => True) ⟨triageStep, none⟩ .empty (.ofVariables [])
      (triageStart .strict) := .withConfig _ (.start _)
  have reached' : Reached (fun _ => True) ⟨triageStep, none⟩ .empty (.ofVariables []) e :=
    .perform (.perform reached trivial) trivial
  obtain ⟨_, _, _, nodup⟩ := pending_flows (t := triage) rfl (.head _) reached
  obtain ⟨own, _⟩ := pending_flows (t := triage) rfl (.head _) reached'
  refine ⟨(nodup .outbound _).mpr ?_, fun once => ?_, own .inbound⟩
  · have lists : Snapshot.Lists [("pendingOutbound", .texts ["toClose", "toFix"])] .outbound
        ["toClose", "toFix"] := rfl
    exact lists.once_iff.mpr (by decide)
  · have lists : stuttering.Lists .inbound ["byPhone", "byPhone"] := rfl
    have listed : stuttering.ListsOnce .inbound triageStep.inbound := (nodup .inbound _).mp once
    exact absurd (listed _ lists) (by decide)

end Execution

end ProcessStep
