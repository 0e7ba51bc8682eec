import ProcessStep.Proofs.Flows

/-!
The two restore policies side by side. An activity misses a flow that a snapshot lists (`Misses`) if
the first thing that is wrong with the snapshot is an id of no flow. Only there does the policy
matter: the strict policy refuses the snapshot and the lenient one leaves the id out. Every other
operation does the same under both (`perform_withConfig`), so executions that differ in their
policies agree until such a snapshot comes.
-/

namespace ProcessStep

/-- A snapshot lists an id that no flow at that side of the activity has. Outbound ids are not
looked at if the inbound ones are not readable. -/
def Activity.Misses (a : Activity) (s : Snapshot) : Prop :=
  ¬s.ListsOnly .inbound a.inbound ∨ s.IsReadable .inbound ∧ ¬s.ListsOnly .outbound a.outbound

/-- The first id of no flow that a snapshot lists, the inbound ones before the outbound ones. -/
inductive Activity.FirstMissed (a : Activity) (s : Snapshot) : Direction → String → Prop where
  | inbound {ids : List String} {id : String} (lists : s.Lists .inbound ids)
      (first : FirstUnknown a.inbound ids id) : FirstMissed a s .inbound id
  | outbound {ids : List String} {id : String} (readable : s.IsReadable .inbound)
      (only : s.ListsOnly .inbound a.inbound) (lists : s.Lists .outbound ids)
      (first : FirstUnknown a.outbound ids id) : FirstMissed a s .outbound id

namespace Snapshot

variable {s : Snapshot} {d : Direction} {live : List Definition.Flow}

theorem not_isReadable_iff :
    ¬s.IsReadable d ↔ ∃ v, Table.get? s d.key = some v ∧ ∀ ids, v ≠ .texts ids := by
  simp [IsReadable, Classical.not_forall]

/-- Where not only flows are listed, there is a first id of no flow. -/
theorem not_listsOnly_iff :
    ¬s.ListsOnly d live ↔ ∃ ids id, s.Lists d ids ∧ FirstUnknown live ids id := by
  constructor
  · intro more
    obtain ⟨ids, more⟩ := Classical.not_forall.mp more
    obtain ⟨lists, unknown⟩ := Classical.not_imp.mp more
    obtain ⟨id, first⟩ := exists_firstUnknown_iff.mpr unknown
    exact ⟨ids, id, lists, first⟩
  · rintro ⟨ids, id, lists, first⟩ only
    exact exists_firstUnknown_iff.mp ⟨id, first⟩ (only ids lists)

end Snapshot

namespace Execution

variable {e : Execution} {s : Snapshot} {d : Direction}

/-! ### Faults under each policy -/

theorem exists_fault_iff :
    (∃ x, e.Fault s d x) ↔
      ¬s.IsReadable d ∨
        e.config.restorePolicy = .strict ∧ ¬s.ListsOnly d (e.activity.side d) := by
  rw [Snapshot.not_isReadable_iff, Snapshot.not_listsOnly_iff]
  constructor
  · rintro ⟨_, ⟨given, malformed⟩ | ⟨strict, lists, first⟩⟩
    · exact .inl ⟨_, given, malformed⟩
    · exact .inr ⟨strict, _, _, lists, first⟩
  · rintro (⟨v, given, malformed⟩ | ⟨strict, ids, id, lists, first⟩)
    · exact ⟨_, .malformed given malformed⟩
    · exact ⟨_, .unknown strict lists first⟩

theorem faultless_iff :
    (∀ x, ¬e.Fault s d x) ↔
      s.IsReadable d ∧
        (e.config.restorePolicy = .strict → s.ListsOnly d (e.activity.side d)) := by
  rw [← not_exists, exists_fault_iff]
  simp [not_or]

/-- A snapshot is taken up under the lenient policy exactly if it can be read. -/
theorem applyState_lenient_eq_ok_iff :
    ((e.withConfig .lenient).applyState s).1 = .ok () ↔ ∀ d, s.IsReadable d := by
  simp only [applyState_eq_ok_iff, faultless_iff]
  simp [withConfig, ExecutionConfig.lenient]

/-- The strict policy also wants that it lists nothing but flows of the activity. -/
theorem applyState_strict_eq_ok_iff :
    ((e.withConfig .strict).applyState s).1 = .ok () ↔
      (∀ d, s.IsReadable d) ∧ ∀ d, s.ListsOnly d (e.activity.side d) := by
  simp only [applyState_eq_ok_iff, faultless_iff]
  exact ⟨fun fits => ⟨fun d => (fits d).1, fun d => (fits d).2 rfl⟩,
    fun ⟨readable, only⟩ d => ⟨readable d, fun _ => only d⟩⟩

/-! ### Where the policy does not matter -/

theorem restoreFlows_withConfig {live : List Definition.Flow} {ids : List String}
    (known : ∀ id ∈ ids, id ∈ live.map (·.id)) (c : ExecutionConfig) :
    (e.withConfig c).restoreFlows d live ids = e.restoreFlows d live ids := by
  induction ids with
  | nil => rfl
  | cons id ids ih =>
      obtain ⟨first, rest⟩ := List.forall_mem_cons.mp known
      obtain ⟨f, found⟩ : ∃ f, live.find? (·.id = id) = some f := by
        rw [← Option.isSome_iff_exists]
        simpa using first
      simp only [restoreFlows, found, ih rest]

theorem flowsListed_withConfig (only : s.ListsOnly d (e.activity.side d)) (c : ExecutionConfig) :
    (e.withConfig c).flowsListed s d = e.flowsListed s d := by
  rcases listing_cases s d with absent | ⟨ids, lists⟩ | ⟨v, given, malformed⟩
  · rw [flowsListed_of_absent absent, flowsListed_of_absent absent]
  · rw [flowsListed_of_lists lists, flowsListed_of_lists lists]
    exact congrArg _ (restoreFlows_withConfig (only ids lists) c)
  · rw [flowsListed_of_malformed given malformed, flowsListed_of_malformed given malformed]

/-- Unless the activity misses a flow, a snapshot is taken up alike under all policies. -/
theorem applyState_withConfig (fits : ¬e.activity.Misses s) (c : ExecutionConfig) :
    (e.withConfig c).applyState s =
      ((e.applyState s).1, (e.applyState s).2.withConfig c) := by
  simp only [Activity.Misses, not_or, not_and, Classical.not_not] at fits
  obtain ⟨only, only'⟩ := fits
  have inbound : (e.withConfig c).inboundIn s = e.inboundIn s :=
    flowsListed_withConfig (d := .inbound) only c
  rw [applyState_eq, applyState_eq, inbound]
  cases restored : e.inboundIn s with
  | error x => rfl
  | ok fs =>
      -- Nothing is wrong with the inbound flows, so they can be read.
      have faultless : ∀ x, ¬e.Fault s .inbound x := by
        intro x fault
        cases (flowsListed_eq_error_iff.mpr fault).symm.trans restored
      have outbound : (e.withConfig c).outboundIn s = e.outboundIn s :=
        flowsListed_withConfig (d := .outbound) (only' (faultless_iff.mp faultless).1) c
      rw [outbound]
      cases e.outboundIn s <;> rfl

/-- Where the activity misses a flow, the strict policy refuses the snapshot for the first id of no
flow. -/
theorem refused_of_misses (misses : e.activity.Misses s) :
    ∃ d id, e.activity.FirstMissed s d id ∧
      ((e.withConfig .strict).applyState s).1 = .error (.unknownFlow e.id d id) := by
  by_cases only : s.ListsOnly .inbound e.activity.inbound
  · obtain ⟨readable, more⟩ := misses.resolve_left (not_not_intro only)
    obtain ⟨ids, id, lists, first⟩ := Snapshot.not_listsOnly_iff.mp more
    have faultless : ∀ x, ¬(e.withConfig .strict).Fault s .inbound x :=
      faultless_iff.mpr ⟨readable, fun _ => only⟩
    exact ⟨.outbound, id, .outbound readable only lists first,
      applyState_eq_error_iff.mpr (.inr ⟨faultless, .unknown rfl lists first⟩)⟩
  · obtain ⟨ids, id, lists, first⟩ := Snapshot.not_listsOnly_iff.mp only
    exact ⟨.inbound, id, .inbound lists first,
      applyState_eq_error_iff.mpr (.inl (.unknown rfl lists first))⟩

/-- Ids of no flow are left out of what is pending, and a snapshot is refused only where it cannot
be read. -/
structure LeavesOutUnknown (e : Execution) (s : Snapshot) : Prop where
  taken : (e.applyState s).1 = .ok () ↔ ∀ d, s.IsReadable d
  pending : (e.applyState s).1 = .ok () → ∀ d ids, s.Lists d ids → ∀ fs,
    (e.applyState s).2.pending d = fs ↔ Listed (e.activity.side d) ids fs
  refused : ∀ x, (e.applyState s).1 = .error x → ∃ (d : Direction) (v : Json),
    Table.get? s d.key = some v ∧ (∀ ids, v ≠ .texts ids) ∧ x = .invalidState (.notFlowIds d.key v)

/-- The lenient policy leaves ids of no flow out. -/
theorem leavesOutUnknown_lenient {t : Definition.Process} {p : LinkedProcess}
    (linked : LinkedProcess.link t = .ok p) (member : e.activity ∈ p.activities) (s : Snapshot) :
    (e.withConfig .lenient).LeavesOutUnknown s where
  taken := applyState_lenient_eq_ok_iff
  pending applied d ids lists fs := by
    have listed := listed_pending applied lists
    constructor
    · rintro rfl
      exact listed
    · exact listed.unique (LinkedProcess.distinct_side linked member d)
  refused x refused := by
    obtain ⟨d, fault⟩ := exists_fault_of_refused refused
    cases fault with
    | malformed given malformed => exact ⟨d, _, given, malformed, rfl⟩
    | unknown strict => cases strict

/-- The lenient policy never refuses a snapshot for an id of no flow. -/
theorem lenient_knows_all (id : String) :
    ((e.withConfig .lenient).applyState s).1 ≠ .error (.unknownFlow e.id d id) := by
  intro refused
  obtain ⟨_, fault⟩ := exists_fault_of_refused refused
  cases fault with
  | unknown strict => cases strict

end Execution

namespace Operation

open Execution

/-- Unless the activity misses a flow of a snapshot, an operation does the same under all
policies. -/
theorem perform_withConfig {op : Operation} {e : Execution}
    (fits : ∀ s, op = .applyState s → ¬e.activity.Misses s) (c : ExecutionConfig) :
    op.perform (e.withConfig c) = ((op.perform e).1, (op.perform e).2.withConfig c) := by
  by_cases takes : ∃ s, op = .applyState s
  · obtain ⟨s, rfl⟩ := takes
    simp only [perform, applyState_withConfig (fits s rfl)]
  by_cases asks : op = .pendingInbound
  · subst asks
    simp only [perform, pendingInbound_snd, pendingInbound_fst]
    rfl
  · have takesNothing : ∀ s, op ≠ .applyState s := fun s isThis => takes ⟨s, isThis⟩
    -- The inbound flows that are known can be exchanged for themselves.
    obtain ⟨_, inbound⟩ := kept_of_perform asks takesNothing e
    refine (perform_exchanged asks takesNothing e c e.knownInbound).trans ?_
    rw [← inbound]
    rfl

/-- The answers under the two policies differ exactly if the activity misses a flow of the
snapshot that is taken up. -/
theorem answer_strict_eq_iff {op : Operation} {e : Execution} :
    op.answer (e.withConfig .strict) = op.answer (e.withConfig .lenient) ↔
      ∀ s, op = .applyState s → ¬e.activity.Misses s := by
  constructor
  · rintro same s rfl misses
    obtain ⟨d, id, _, refused⟩ := refused_of_misses misses
    exact lenient_knows_all id ((Answer.applied.inj same).symm.trans refused)
  · intro fits
    rw [answer, answer, perform_withConfig fits, perform_withConfig fits]

end Operation

namespace Execution

variable {e : Execution} {s : Snapshot}

/-- Operations lead to the same execution under all policies as long as the activity misses no
flow of a snapshot. -/
theorem after_withConfig {ops : List Operation}
    (fits : ∀ s, .applyState s ∈ ops → ¬e.activity.Misses s) (c : ExecutionConfig) :
    (e.withConfig c).after ops = (e.after ops).withConfig c := by
  induction ops generalizing e with
  | nil => rfl
  | cons op ops ih =>
      have first : op.effect (e.withConfig c) = (op.effect e).withConfig c := by
        refine congrArg Prod.snd (Operation.perform_withConfig (fun s same => ?_) c)
        exact fits s (same ▸ List.mem_cons_self)
      have rest : ∀ s, .applyState s ∈ ops → ¬(op.effect e).activity.Misses s := by
        intro s later
        rw [activity, (SameSetup.effect op e).behaviour]
        exact fits s (List.mem_cons_of_mem _ later)
      rw [after_cons, after_cons, first, ih rest]

/-! ### Both policies -/

variable {t : Definition.Process} {p : LinkedProcess}

/-- The two policies on a snapshot. The lenient one leaves ids of no flow out. The strict one takes
up what the lenient one does if no id is left out, and otherwise refuses the snapshot for its first
fault. Once a snapshot was taken up under both, they answer the same until one comes that the
activity misses a flow of, and differently there: the strict policy refuses that snapshot for the
first id of no flow, and the lenient one leaves the id out, whatever else is wrong. -/
theorem strict_refines_lenient (linked : LinkedProcess.link t = .ok p)
    (member : e.activity ∈ p.activities) (s : Snapshot) :
    let lenient := e.withConfig .lenient
    let strict := e.withConfig .strict
    lenient.LeavesOutUnknown s ∧
      ((strict.applyState s).1 = .ok () ↔
        (lenient.applyState s).1 = .ok () ∧ ∀ d, s.ListsOnly d (e.activity.side d)) ∧
      (∀ x, (strict.applyState s).1 = .error x ↔
        strict.Fault s .inbound x ∨
          (∀ y, ¬strict.Fault s .inbound y) ∧ strict.Fault s .outbound x) ∧
      ((strict.applyState s).1 = .ok () → ∀ ops,
        (∀ s', .applyState s' ∈ ops → ¬e.activity.Misses s') →
          let lenient' := (lenient.applyState s).2.after ops
          let strict' := (strict.applyState s).2.after ops
          (∀ op, Operation.answer op strict' = op.answer lenient' ↔
            ∀ s', op = .applyState s' → ¬e.activity.Misses s') ∧
          ∀ s', e.activity.Misses s' →
            (∃ d id, e.activity.FirstMissed s' d id ∧
              (strict'.applyState s').1 = .error (.unknownFlow e.id d id)) ∧
            lenient'.LeavesOutUnknown s') := by
  intro lenient strict
  refine ⟨leavesOutUnknown_lenient linked member s, ?_, fun x => applyState_eq_error_iff,
    fun applied ops fits => ?_⟩
  · rw [applyState_strict_eq_ok_iff, applyState_lenient_eq_ok_iff]
  · have fit : ¬e.activity.Misses s := by
      obtain ⟨_, only⟩ := applyState_strict_eq_ok_iff.mp applied
      rintro (more | ⟨_, more⟩)
      · exact more (only .inbound)
      · exact more (only .outbound)
    have setup := (SameSetup.applyState e s).trans (SameSetup.after (e.applyState s).2 ops)
    have first : (e.applyState s).2.activity = e.activity :=
      congrArg Behaviour.activity (SameSetup.applyState e s).behaviour
    have kept : ((e.applyState s).2.after ops).activity = e.activity :=
      congrArg Behaviour.activity setup.behaviour
    have under (c : ExecutionConfig) : ((e.withConfig c).applyState s).2.after ops =
        ((e.applyState s).2.after ops).withConfig c := by
      rw [applyState_withConfig fit]
      exact after_withConfig (first ▸ fits) c
    intro lenient' strict'
    rw [show lenient' = _ from under .lenient, show strict' = _ from under .strict, ← kept,
      ← setup.id]
    exact ⟨fun op => Operation.answer_strict_eq_iff, fun s' misses => ⟨refused_of_misses misses,
      leavesOutUnknown_lenient linked (kept ▸ member) s'⟩⟩

/-- An id of no flow is left out, or refused. Where moreover the outbound flows cannot be read, the
lenient policy refuses the snapshot for that, but not for the id. -/
theorem triage_policies :
    let s : Snapshot := [("pendingInbound", .texts ["byPhone", "gone", "byPhone"])]
    let worse : Snapshot := [("pendingInbound", .texts ["gone"]), ("pendingOutbound", .int 5)]
    Listed triageStep.inbound ["byPhone", "gone", "byPhone"]
        (((triageStart .lenient).applyState s).2.pending .inbound) ∧
      ((triageStart .strict).applyState s).1 = .error (.unknownFlow "sort" .inbound "gone") ∧
      (((triageStart .strict).applyState []).2.applyState worse).1 =
        .error (.unknownFlow "sort" .inbound "gone") ∧
      (((triageStart .lenient).applyState []).2.applyState worse).1 =
        .error (.invalidState (.notFlowIds "pendingOutbound" (.int 5))) := by
  intro s worse
  have policies := strict_refines_lenient (t := triage) (e := triageStart .lenient) rfl (.head _)
  obtain ⟨leaves, _, refused, _⟩ := policies s
  obtain ⟨_, _, _, later⟩ := policies []
  have unlisted : ¬worse.ListsOnly .inbound triageStep.inbound := fun only =>
    absurd (only ["gone"] rfl "gone" List.mem_cons_self) (by decide)
  obtain ⟨⟨d, id, missed, strict⟩, lenient⟩ :=
    (later rfl [] fun _ none => nomatch none).2 worse (.inl unlisted)
  refine ⟨(leaves.pending rfl .inbound _ rfl _).mp rfl, (refused _).mpr (.inl ?_), ?_, ?_⟩
  · exact .unknown rfl rfl ⟨["byPhone"], ["byPhone"], rfl, by decide, by decide⟩
  · cases missed with
    | inbound lists first =>
        obtain rfl : _ = ["gone"] := lists.unique rfl
        obtain ⟨_, rfl⟩ | ⟨known, _⟩ := firstUnknown_cons.mp first
        · exact strict
        · exact absurd known (by decide)
    | outbound _ only => exact absurd only unlisted
  · cases outcome : (((triageStart .lenient).applyState []).2.applyState worse).1 with
    | ok =>
        obtain ⟨ids, same⟩ := lenient.taken.mp outcome .outbound (.int 5) rfl
        cases same
    | error x =>
        obtain ⟨d, v, given, malformed, rfl⟩ := lenient.refused x outcome
        cases d with
        | inbound =>
            cases given
            exact absurd rfl (malformed ["gone"])
        | outbound =>
            cases given
            rfl

/-- After a snapshot was taken up under both policies, they still part where a later one lists an id
of no flow. -/
theorem policies_part_later :
    let s : Snapshot := [("pendingOutbound", .texts ["toClose", "toFix"])]
    let later : Operation := .applyState [("pendingOutbound", .texts ["gone"])]
    ((triageStart .strict).applyState s).1 = .ok () ∧
      ((triageStart .lenient).applyState s).1 = .ok () ∧
      later.answer ((triageStart .strict).applyState s).2 =
        .applied (.error (.unknownFlow "sort" .outbound "gone")) ∧
      later.answer ((triageStart .lenient).applyState s).2 = .applied (.ok ()) :=
  ⟨rfl, rfl, rfl, rfl⟩

end Execution

end ProcessStep
