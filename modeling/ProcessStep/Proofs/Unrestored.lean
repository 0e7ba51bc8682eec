import Mathlib.Data.List.Nodup
import ProcessStep.Proofs.Flows
import ProcessStep.Proofs.Parts

/-!
Pending flows that no snapshot put there. Whatever is done to an execution, the flows at a side stay
those that the definition gives as long as no snapshot that is taken up lists flows at that side
(`pending_after`). Of the outbound flows these are all, with the default flow at the end
(`DefaultLast`); of the inbound flows they are all but the one that started the execution
(`WithoutTrigger`).
-/

namespace ProcessStep

open Definition (Flow)

/-- The flows are the outbound flows of the activity, in their order but for the default flow. -/
structure Activity.DefaultLast (a : Activity) (fs : List Flow) : Prop where
  perm : fs.Perm a.outbound
  others : fs.filter (!·.isDefault) = a.outbound.filter (!·.isDefault)
  last : ∀ f ∈ a.outbound, f.isDefault = true → fs.getLast? = some f

/-- The flows are the inbound flows of an activity in their order, without the one that is given. A
flow of the definition that leads elsewhere takes none away, nor does one whose id is not used. -/
structure Activity.WithoutTrigger (a : Activity) (d : Definition.Process) (trigger : Option Flow)
    (fs : List Flow) : Prop where
  none : trigger = none → fs = a.inbound
  own : ∀ t ∈ a.inbound, trigger = some t →
    fs = a.inbound.filter (· ≠ t) ∧ fs.length + 1 = a.inbound.length
  elsewhere : ∀ t ∈ d.flows, t ∉ a.inbound → trigger = some t → fs = a.inbound
  unknown : ∀ t, t.id ∉ a.inbound.map (·.id) → trigger = some t → fs = a.inbound

/-- None of the operations takes up a snapshot that lists flows at the side. -/
def Operation.ListNothing (ops : List Operation) (d : Direction) : Prop :=
  ∀ s, .applyState s ∈ ops → ∀ ids, ¬ Snapshot.Lists s d ids

namespace Execution

variable {e : Execution} {d : Direction} {ops : List Operation} {s : Snapshot}

/-! ### Runs -/

/-- A snapshot without a list of flows restores none. -/
theorem restoredBy_of_not_lists (nothing : ∀ ids, ¬ s.Lists d ids) : e.restoredBy s d = none := by
  cases restored : e.restoredBy s d with
  | none => rfl
  | some fs =>
      obtain ⟨ids, lists, _⟩ := listed_of_restoredBy restored
      exact absurd lists (nothing ids)

/-- One operation leaves the pending flows alone unless it takes up a snapshot that lists some. -/
theorem pending_effect_of_not_lists {op : Operation}
    (nothing : ∀ s, op = .applyState s → ∀ ids, ¬ Snapshot.Lists s d ids) (e : Execution) :
    (op.effect e).pending d = e.pending d := by
  have restored : op.restores e d = none := by
    cases op with
    | applyState s => exact restoredBy_of_not_lists (nothing s rfl)
    | _ => rfl
  rw [pending_effect, restored, Option.getD_none]

/-- Operations one after the other leave the pending flows alone unless one of them does not. -/
theorem pending_after (nothing : Operation.ListNothing ops d) (e : Execution) :
    (e.after ops).pending d = e.pending d := by
  induction ops generalizing e with
  | nil => rfl
  | cons op ops ih =>
      have later : Operation.ListNothing ops d := fun s taken =>
        nothing s (List.mem_cons_of_mem op taken)
      rw [after_cons, ih later]
      refine pending_effect_of_not_lists (fun s same => nothing s ?_) e
      exact same ▸ List.mem_cons_self

variable {b : Behaviour} {m : Message} {env : Environment}

/-- A fresh execution pends what it does as long as nothing is restored. -/
theorem pending_of_fresh (fresh : Fresh b m env e) (d : Direction) :
    e.pending d = e.unrestored d := by
  have unknown : e.known d = none := by
    cases d with
    | inbound => exact fresh.knownInbound
    | outbound => exact fresh.knownOutbound
  rw [pending_eq, unknown, Option.getD_none]

/-! ### What the definition gives -/

variable {t : Definition.Process} {p : LinkedProcess}

/-- Flows keep their order but for the default flow, and there is one at most. -/
theorem defaultLast_considered (linked : LinkedProcess.link t = .ok p)
    (member : e.activity ∈ p.activities) : e.activity.DefaultLast e.considered where
  perm := e.considered_perm
  others := by simp [considered, List.filter_append, List.filter_filter]
  last f leaves isDefault := by
    have listed : f ∈ e.activity.outbound.filter (·.isDefault) :=
      List.mem_filter.mpr ⟨leaves, isDefault⟩
    have some := List.ne_nil_of_mem listed
    -- The flows behind the others are defaults, and there is only one.
    obtain ⟨leaves', isDefault'⟩ := List.mem_filter.mp (List.getLast_mem some)
    rw [considered, List.getLast?_append_of_ne_nil _ some, List.getLast?_eq_some_getLast some,
      LinkedProcess.single_default linked member _ leaves' f leaves isDefault' isDefault]

theorem awaited_of_unused
    (unused : ∀ t, e.trigger = some t → ∀ f ∈ e.activity.inbound, f.id ≠ t.id) :
    e.awaited = e.activity.inbound := by
  unfold awaited
  split
  · next t trigger =>
      refine List.filter_eq_self.mpr fun f reaches => ?_
      exact decide_eq_true (unused t trigger f reaches)
  · rfl

/-- Only a triggering flow that reaches the activity is left out. -/
theorem withoutTrigger_awaited (linked : LinkedProcess.link t = .ok p)
    (member : e.activity ∈ p.activities) :
    e.activity.WithoutTrigger t e.trigger e.awaited where
  none untriggered := awaited_of_unused fun _ given => nomatch untriggered.symm.trans given
  own f reaches trigger := by
    have distinct := (LinkedProcess.distinct_flows linked member).1
    have awaited : e.awaited = e.activity.inbound.filter (· ≠ f) := by
      rw [Execution.awaited, trigger]
      refine List.filter_congr fun g reaches' => decide_eq_decide.mpr (not_congr ?_)
      exact ⟨List.inj_on_of_nodup_map distinct reaches' reaches, congrArg _⟩
    have erased : e.activity.inbound.erase f = e.awaited := by
      rw [awaited, (List.Nodup.of_map _ distinct).erase_eq_filter]
      exact List.filter_congr fun g _ => by rw [Bool.eq_iff_iff, bne_iff_ne, decide_eq_true_iff]
    exact ⟨awaited, erased ▸ List.length_erase_add_one reaches⟩
  elsewhere f listed leads trigger := by
    have distinct := (LinkedProcess.of_link linked).2
    have inbound := (LinkedProcess.flows_of_mem linked member).1
    refine awaited_of_unused fun g given h reaches same => leads ?_
    cases trigger.symm.trans given
    have listed' : h ∈ t.flows := (List.mem_filter.mp (inbound ▸ reaches)).1
    exact List.inj_on_of_nodup_map distinct listed' listed same ▸ reaches
  unknown f unused trigger := by
    refine awaited_of_unused fun g given h reaches same => unused ?_
    cases trigger.symm.trans given
    exact same ▸ List.mem_map_of_mem reaches

/-- As long as no snapshot lists outbound flows, the outbound flows of an activity are pending with
its default flow at the end; as long as none lists inbound flows, its inbound flows are, without the
one that started the execution. No other operation matters, whether it asks for the flows or not. -/
theorem pending_as_defined (linked : LinkedProcess.link t = .ok p)
    (member : b.activity ∈ p.activities) (fresh : Fresh b m env e) (ops : List Operation) :
    (Operation.ListNothing ops .outbound →
      b.activity.DefaultLast ((e.after ops).pending .outbound)) ∧
    (Operation.ListNothing ops .inbound →
      b.activity.WithoutTrigger t e.trigger ((e.after ops).pending .inbound)) := by
  obtain rfl := behaviour_of_reached fresh
  constructor
  · intro nothing
    rw [pending_after nothing, pending_of_fresh fresh]
    exact defaultLast_considered linked member
  · intro nothing
    rw [pending_after nothing, pending_of_fresh fresh]
    exact withoutTrigger_awaited linked member

/-- An execution of the first activity of `triage` that one of its inbound flows started. A snapshot
changes the order of its outbound flows, and others are asked for before and after. -/
theorem triage_pending_as_defined :
    let e := (triageStart .strict).triggeredBy (.between "byMail" "mail" "sort")
    let ops : List Operation := [.pendingInbound, .state none,
      .applyState [("pendingOutbound", .texts ["toClose", "toFix"])], .postpone 0,
      .eligibleOutbound]
    ((e.after ops).pending .inbound).map (·.id) = ["byPhone"] ∧
      (e.after ops).pending .inbound =
        triageStep.inbound.filter (· ≠ .between "byMail" "mail" "sort") ∧
      ((e.after ops).pending .outbound).map (·.id) = ["toClose", "toFix"] ∧
      (e.pending .outbound).getLast? = some (Flow.between "toClose" "sort" "close").asDefault := by
  intro e ops
  have fresh : Fresh ⟨triageStep, none⟩ .empty (.ofVariables []) e :=
    .triggeredBy _ (.withConfig _ (.start _))
  have defined (ops : List Operation) :=
    pending_as_defined (t := triage) rfl (.head _) fresh ops
  refine ⟨rfl, (((defined ops).2 ?_).own _ (.head _) rfl).1, rfl, ((defined []).1 ?_).last _
    (.tail _ (.head _)) rfl⟩
  · intro s taken ids lists
    obtain rfl : s = [("pendingOutbound", .texts ["toClose", "toFix"])] := by
      simpa [ops] using taken
    cases lists
  · exact fun _ none => nomatch none

end Execution

end ProcessStep
