import ProcessStep.Proofs.Forms.Defaults
import ProcessStep.Proofs.Snapshots

/-!
Resuming from a snapshot. `Intact` says what holds of every execution that nothing was saved in
and whose form was only filled in: its outbound flows are flows of the activity, and its form is
the one with rendered defaults after some values were entered. A fresh execution that takes up
its snapshot therefore has the same order of flows, shows the same form when it is suspended, and
writes the same snapshot again, however often this is repeated.
-/

namespace ProcessStep

open Definition (Flow)

/-- The operation neither keeps entries that go over all others in snapshots nor puts another form
in the place of the one that is shown. -/
def Operation.fillsIn : Operation → Bool
  | .setState _ | .replaceForm _ => false
  | _ => true

/-- The input that an activity gets for a message. -/
def inputOf (b : Behaviour) (m : Message) (env : Environment) : Except ResolutionError Json :=
  (Execution.start b m env "").resolveInput

/-- The form of an activity for a message with its defaults, before anything is entered. -/
def IsBlankForm (b : Behaviour) (m : Message) (env : Environment) (g : Form) : Prop :=
  ∃ d v, b.activity.form = some d ∧ inputOf b m env = .ok v ∧
    (Form.ofDefinition d).init v env = (.ok (), g)

theorem IsBlankForm.isBlank {b : Behaviour} {m : Message} {env : Environment} {g : Form}
    (blank : IsBlankForm b m env g) : ∀ f ∈ g.fields, f.IsBlank := by
  obtain ⟨d, v, _, _, rendered⟩ := blank
  have fields := Form.isBlank_init d v env
  rwa [rendered] at fields

namespace Execution

/-- All flows that are considered leave the activity. -/
theorem mem_considered {e : Execution} {f : Flow} (member : f ∈ e.considered) :
    f ∈ e.activity.outbound := by
  rcases List.mem_append.mp member with first | last
  · exact (List.mem_filter.mp first).1
  · exact (List.mem_filter.mp last).1

theorem form?_setForm {e : Execution} {f : Form} (shown : e.form? = some f) (g : Form) :
    (e.setForm g).form? = some g := by
  obtain ⟨p, postponed, _⟩ := Option.bind_eq_some_iff.mp shown
  simp [form?, setForm, postponed]

/-- A form with what is to be restored entered in it. -/
def refill (e : Execution) (g : Form) : Form :=
  match e.restoredForm with
  | some snapshot => (g.restore snapshot).2
  | none => g

/-- A form that is bound gets values entered, and nothing else. -/
theorem refill_eq (e : Execution) (g : Form) : ∃ es, e.refill g = (g.setValues es).2 := by
  unfold refill
  cases e.restoredForm with
  | some snapshot => exact ⟨Form.entries snapshot, rfl⟩
  | none => exact ⟨[], rfl⟩

/-- Binding a form renders its defaults for the input, and then enters what was restored. -/
theorem bindForm_fst (e : Execution) :
    e.bindForm.1 =
      match e.activity.form with
      | none => .ok none
      | some d =>
          match e.input.1 with
          | .error x => .error x
          | .ok v =>
              match (Form.ofDefinition d).init v e.environment with
              | (.error x, _) => .error x
              | (.ok (), g) => .ok (some (e.refill g)) := by
  have kept := (Recalls.refl (e := e)).input.frame
  unfold bindForm
  cases e.activity.form with
  | none => rfl
  | some d =>
      rcases resolved : e.input with ⟨x | v, e'⟩
      · rfl
      · have environment : e'.environment = e.environment := by
          rw [show e' = e.input.2 by rw [resolved], kept]
        have restored : e'.restoredForm = e.restoredForm := by
          rw [show e' = e.input.2 by rw [resolved], kept]
        dsimp only
        rw [environment, restored]
        rcases (Form.ofDefinition d).init v e.environment with ⟨x | ⟨⟩, g⟩
        · rfl
        · unfold refill
          cases e.restoredForm <;> rfl

theorem knownOutbound_postpone (e : Execution) (r : Nat) :
    (e.postpone r).2.knownOutbound = e.knownOutbound :=
  (congrArg knownOutbound (e.postpone_frame r) :)

/-- The execution is one of the activity for the message, nothing was saved in it, and its form
is the one of the activity after some values were entered. -/
structure Intact (b : Behaviour) (m : Message) (env : Environment) (e : Execution) : Prop where
  behaviour : e.behaviour = b
  message : e.message = m
  environment : e.environment = env
  unsaved : e.savedState = none
  input : ∀ v, e.knownInput = some v → inputOf b m env = .ok v
  outbound : ∀ fs, e.knownOutbound = some fs → ∀ f ∈ fs, f ∈ b.activity.outbound
  form : ∀ f, e.form? = some f → ∃ g es, IsBlankForm b m env g ∧ f = (g.setValues es).2

namespace Intact

variable {b : Behaviour} {m : Message} {env : Environment} {e : Execution}

theorem resolveInput_eq (i : Intact b m env e) : e.resolveInput = inputOf b m env := by
  obtain ⟨rfl, rfl, rfl⟩ : e.behaviour = b ∧ e.message = m ∧ e.environment = env :=
    ⟨i.behaviour, i.message, i.environment⟩
  rfl

/-- An intact execution has the input of its activity, whether it is cached or not. -/
theorem input_fst (i : Intact b m env e) : e.input.1 = inputOf b m env := by
  unfold Execution.input
  cases known : e.knownInput with
  | some v => exact (i.input v known).symm
  | none =>
      rw [← i.resolveInput_eq]
      cases e.resolveInput <;> rfl

/-! ### Operations -/

theorem after_input (i : Intact b m env e) : Intact b m env e.input.2 := by
  rcases e.input_snd with same | ⟨v, _, resolved, same⟩
  · rw [same]
    exact i
  · rw [same]
    refine { i with input := fun w known => ?_ }
    cases known
    rw [← i.resolveInput_eq, resolved]

/-- Whatever was restored, only flows of the activity are pending. -/
theorem mem_pendingOutbound (i : Intact b m env e) {f : Flow} (member : f ∈ e.pendingOutbound.1) :
    f ∈ b.activity.outbound := by
  unfold Execution.pendingOutbound at member
  cases known : e.knownOutbound with
  | some fs =>
      rw [known] at member
      exact i.outbound fs known f member
  | none =>
      rw [known] at member
      rw [← i.behaviour]
      exact mem_considered member

/-- Asking leaves an execution intact. -/
theorem after_recalls (i : Intact b m env e) {e' : Execution} (recalls : Recalls e e') :
    Intact b m env e' := by
  induction recalls with
  | refl => exact i
  | input _ ih => exact ih.after_input
  | pendingInbound _ ih =>
      rw [pendingInbound_snd]
      exact { ih with }
  | pendingOutbound _ ih =>
      rw [pendingOutbound_snd]
      refine { ih with outbound := fun fs known => ?_ }
      cases known
      exact fun f member => ih.mem_pendingOutbound member

/-- Taking up a snapshot leaves an execution intact, whether it is refused or not. -/
theorem after_applyState (i : Intact b m env e) (s : Snapshot) :
    Intact b m env (e.applyState s).2 := by
  rcases e.applyState_cases s with ⟨x, _, same⟩ | ⟨inbound, x, _, _, same⟩ |
    ⟨inbound, outbound, _, listed, same⟩
  · rw [same]
    exact i
  · rw [same]
    exact { i with }
  · rw [same]
    refine { i with outbound := fun fs known => ?_ }
    cases outbound with
    | none => exact i.outbound fs known
    | some fs' =>
        cases known
        rw [← i.behaviour]
        exact mem_live_of_flowsIn listed

/-- The form that is bound is that of the activity, filled with what was restored. -/
theorem of_bindForm (i : Intact b m env e) {f : Form} (bound : e.bindForm.1 = .ok (some f)) :
    ∃ g, IsBlankForm b m env g ∧ f = e.refill g := by
  rw [bindForm_fst, i.input_fst, i.environment] at bound
  split at bound
  · cases bound
  · next d form =>
      rw [activity, i.behaviour] at form
      split at bound
      · cases bound
      · next v resolved =>
          split at bound
          · cases bound
          · next g rendered =>
              cases bound
              exact ⟨g, ⟨d, v, form, resolved, rendered⟩, rfl⟩

/-- A form that could be bound once can be bound again. -/
theorem bindForm_of_blank (i : Intact b m env e) {g : Form} (blank : IsBlankForm b m env g) :
    e.bindForm.1 = .ok (some (e.refill g)) := by
  obtain ⟨d, v, form, resolved, rendered⟩ := blank
  rw [bindForm_fst, i.input_fst, i.environment, activity, i.behaviour, form, resolved]
  dsimp only
  rw [rendered]

/-- Suspending leaves an execution intact. -/
theorem after_postpone (i : Intact b m env e) (r : Nat) : Intact b m env (e.postpone r).2 := by
  have bound := i.after_recalls e.recalls_bindForm
  rcases e.postpone_eq r with ⟨x, _, fails⟩ | ⟨f, binds, succeeds⟩
  · rw [fails]
    exact bound
  · rw [succeeds]
    refine { bound with form := fun f' shown => ?_ }
    obtain rfl : f = some f' := shown
    obtain ⟨g, blank, rfl⟩ := i.of_bindForm binds
    obtain ⟨es, filled⟩ := e.refill_eq g
    exact ⟨g, es, blank, filled⟩

theorem after_complete (i : Intact b m env e) : Intact b m env e.complete.2 := by
  unfold Execution.complete
  split
  · exact i
  · exact i
  · next form receiver postponed =>
      refine { i with form := fun f shown => ?_ }
      exact i.form f (by rw [form?, postponed]; exact shown)

/-- Entering values into the form keeps it one of the activity. -/
theorem after_editForm (i : Intact b m env e) {α : Type} {edit : Form → α × Form}
    (enters : ∀ f, ∃ es, (edit f).2 = (f.setValues es).2) :
    Intact b m env (e.editForm edit).2 := by
  unfold editForm
  split
  · exact i
  · next f shown =>
      refine { i with form := fun f' shown' => ?_ }
      obtain ⟨g, es, blank, rfl⟩ := i.form f shown
      obtain ⟨es', entered⟩ := enters (g.setValues es).2
      rw [form?_setForm shown, entered, Form.setValues_append] at shown'
      cases shown'
      exact ⟨g, es ++ es', blank, rfl⟩

/-- Everything that does not save entries or put another form in place keeps an execution
intact. -/
theorem effect (i : Intact b m env e) {op : Operation} (fillsIn : op.fillsIn = true) :
    Intact b m env (op.effect e) := by
  by_cases reads : op.reads = true
  · exact i.after_recalls (Operation.recalls_of_reads reads e)
  · cases op with
    | setResult | stop => exact { i with }
    | applyState s => exact i.after_applyState s
    | enterValue id v => exact i.after_editForm fun f => ⟨[(id, v)], by simp [Form.setValues]⟩
    | restoreForm snapshot => exact i.after_editForm fun f => ⟨Form.entries snapshot, rfl⟩
    | postpone r => exact i.after_postpone r
    | complete => exact i.after_complete
    | setState | replaceForm => cases fillsIn
    | _ => exact absurd rfl reads

/-- Every execution that can be reached without saving entries or putting another form in place
is intact. -/
theorem of_reached (reached : Reached (fun op => op.fillsIn = true) b m env e) :
    Intact b m env e := by
  induction reached with
  | start token => constructor <;> first | rfl | nofun
  | withConfig c _ ih | triggeredBy f _ ih | withRootFlow root _ ih => exact { ih with }
  | perform _ allowed ih => exact ih.effect allowed

/-- A fresh execution is intact. -/
theorem of_fresh (fresh : Fresh b m env e) : Intact b m env e :=
  of_reached (fresh.mono fun _ none => none.elim)

/-! ### One hop -/

/-- Two executions with the same form and the same order at a fork write the same snapshot. -/
theorem state_eq {e' : Execution} (i : Intact b m env e) (i' : Intact b m env e')
    (form : e'.form? = e.form?)
    (order : b.activity.isFork = true → e'.pendingOutbound.1 = e.pendingOutbound.1) :
    (e'.state none).1 = (e.state none).1 := by
  rw [state_of_unsaved i.unsaved, state_of_unsaved i'.unsaved, form, outboundIds_fst,
    outboundIds_fst, activity, activity, i.behaviour, i'.behaviour]
  by_cases fork : b.activity.isFork = true
  · rw [if_pos fork, if_pos fork, order fork]
  · rw [if_neg fork, if_neg fork]

/-- A fresh execution takes up every snapshot of an intact one, and has its order of flows then. -/
theorem applyState_state {e' : Execution} (i : Intact b m env e) (own : b.LeavesFlows)
    (distinct : (b.activity.outbound.map (·.id)).Nodup) (fresh : Fresh b m env e') :
    e'.applyState (e.state none).1 =
      (.ok (), { e' with
        knownOutbound := if b.activity.isFork then some e.pendingOutbound.1 else none
        restoredForm := (e.state none).1.form? }) := by
  have i' := of_fresh fresh
  have inbound : e'.inboundIn (e.state none).1 = .ok none := by
    rw [inboundIn, pendingInbound_state i.unsaved, i.behaviour, Snapshot.pendingInbound,
      Snapshot.flowIds_of_absent own.inbound]
    rfl
  have outbound : e'.outboundIn (e.state none).1 =
      .ok (if b.activity.isFork then some e.pendingOutbound.1 else none) := by
    rw [outboundIn, activity, i'.behaviour]
    by_cases fork : b.activity.isFork = true
    · rw [if_pos fork, pendingOutbound_state_of_fork i.unsaved (by rwa [activity, i.behaviour]),
        flowsIn, restoreFlows_ids e' .outbound distinct fun f => i.mem_pendingOutbound]
      rfl
    · rw [Bool.not_eq_true] at fork
      rw [fork, pendingOutbound_state_of_not_fork i.unsaved (by rwa [activity, i.behaviour]),
        i.behaviour, Snapshot.pendingOutbound, Snapshot.flowIds_of_absent own.outbound]
      rfl
  rw [applyState_eq, inbound, outbound]
  dsimp only
  rw [fresh.knownOutbound, fresh.restoredForm, Option.or_none, Option.or_none]
  rfl

/-- A fresh execution that takes up the snapshot of an intact one and is suspended then shows the
same form, with the same defaults and the same values entered. -/
theorem postpone_resumed {e' e₁ : Execution} (i : Intact b m env e) (own : b.LeavesFlows)
    (distinct : (b.activity.outbound.map (·.id)).Nodup) (fresh : Fresh b m env e')
    (applied : e'.applyState (e.state none).1 = (.ok (), e₁)) {f : Form}
    (shown : e.form? = some f) (r : Nat) :
    ∃ e₂, e₁.postpone r = (.ok (), e₂) ∧ e₂.form? = some f := by
  have i₁ : Intact b m env e₁ := by
    have after := (of_fresh fresh).after_applyState (e.state none).1
    rwa [applied] at after
  have restored : e₁.restoredForm = some f.state := by
    rw [i.applyState_state own distinct fresh] at applied
    cases applied
    show (e.state none).1.form? = _
    rw [form?_state i.unsaved, shown]
    rfl
  obtain ⟨g, es, blank, rfl⟩ := i.form f shown
  have binds := i₁.bindForm_of_blank blank
  rw [refill, restored] at binds
  dsimp only at binds
  rw [Form.restore_state blank.isBlank] at binds
  rcases e₁.postpone_eq r with ⟨x, fails, _⟩ | ⟨f, succeeds, postponed⟩
  · rw [binds] at fails
    cases fails
  · rw [binds] at succeeds
    cases succeeds
    exact ⟨_, postponed, rfl⟩

end Intact

/-! ### Many hops -/

/-- The execution suspended again after it took up a snapshot. -/
def resumed (e : Execution) (s : Snapshot) (r : Nat) : Execution :=
  ((e.applyState s).2.postpone r).2

/-- The last of several executions, each of which takes up the snapshot of the one before it and
is suspended. -/
def hops (e : Execution) : List (Execution × Nat) → Execution
  | [] => e
  | (e', r) :: rest => (e'.resumed (e.state none).1 r).hops rest

/-- What an intact execution shows and how it orders its flows is found in another one. -/
structure KeptBy (b : Behaviour) (e e' : Execution) : Prop where
  order : b.activity.isFork = true → e'.pendingOutbound.1 = e.pendingOutbound.1
  form : ∀ f, e.form? = some f → e'.form? = some f

namespace Intact

variable {b : Behaviour} {m : Message} {env : Environment} {e : Execution}

/-- After one hop, all that snapshots carry is kept, and the next hop can follow. -/
theorem keptBy_resumed {e' : Execution} (i : Intact b m env e) (own : b.LeavesFlows)
    (distinct : (b.activity.outbound.map (·.id)).Nodup) (fresh : Fresh b m env e') (r : Nat) :
    Intact b m env (e'.resumed (e.state none).1 r) ∧
      KeptBy b e (e'.resumed (e.state none).1 r) := by
  have applied := i.applyState_state own distinct fresh
  refine ⟨((of_fresh fresh).after_applyState _).after_postpone r, ?_, ?_⟩
  · intro fork
    have known : (e'.resumed (e.state none).1 r).knownOutbound = some e.pendingOutbound.1 := by
      rw [resumed, knownOutbound_postpone, applied, fork]
      rfl
    rw [pendingOutbound_of_known known]
  · intro f shown
    obtain ⟨e₂, postponed, form⟩ := i.postpone_resumed own distinct fresh applied shown r
    rw [resumed, applied, postponed]
    exact form

/-- No number of hops loses what one hop keeps. -/
theorem keptBy_hops (i : Intact b m env e) (own : b.LeavesFlows)
    (distinct : (b.activity.outbound.map (·.id)).Nodup) {hs : List (Execution × Nat)}
    (fresh : ∀ h ∈ hs, Fresh b m env h.1) :
    Intact b m env (e.hops hs) ∧ KeptBy b e (e.hops hs) := by
  induction hs generalizing e with
  | nil => exact ⟨i, ⟨fun _ => rfl, fun _ shown => shown⟩⟩
  | cons h hs ih =>
      obtain ⟨first, rest⟩ := List.forall_mem_cons.mp fresh
      obtain ⟨i', kept⟩ := i.keptBy_resumed own distinct first h.2
      obtain ⟨i'', kept'⟩ := ih i' rest
      refine ⟨i'', fun fork => ?_, fun f shown => kept'.form f (kept.form f shown)⟩
      exact (kept'.order fork).trans (kept.order fork)

end Intact

/-- Resuming loses neither the order of flows at a fork nor the form with what is entered in it,
through any number of hops. The snapshot is taken up under either policy, and once the step is
suspended it writes the same snapshot again. -/
theorem resuming_loses_nothing {d : Definition.Process} {p : LinkedProcess} {b : Behaviour}
    {m : Message} {env : Environment} {e e' : Execution} {hs : List (Execution × Nat)}
    (linked : LinkedProcess.link d = .ok p) (member : b.activity ∈ p.activities)
    (own : b.LeavesFlows) (reached : Reached (fun op => op.fillsIn = true) b m env e)
    (fresh : ∀ h ∈ hs, Fresh b m env h.1) (fresh' : Fresh b m env e') :
    ∃ e₁, e'.applyState ((e.hops hs).state none).1 = (.ok (), e₁) ∧
      (b.activity.isFork = true → e₁.pendingOutbound.1 = e.pendingOutbound.1) ∧
      ∀ f, e.form? = some f →
        ((e.hops hs).state none).1 = (e.state none).1 ∧
        ∀ r, ∃ e₂, e₁.postpone r = (.ok (), e₂) ∧ e₂.form? = some f ∧
          (e₂.state none).1 = (e.state none).1 := by
  obtain ⟨_, distinct⟩ := LinkedProcess.distinct_flows linked member
  have i := Intact.of_reached reached
  obtain ⟨iₙ, kept⟩ := i.keptBy_hops own distinct fresh
  have applied := iₙ.applyState_state own distinct fresh'
  refine ⟨_, applied, fun fork => ?_, fun f shown => ⟨?_, fun r => ?_⟩⟩
  · rw [← kept.order fork, pendingOutbound_of_known]
    rw [fork]
    rfl
  · exact i.state_eq iₙ ((kept.form f shown).trans shown.symm) kept.order
  · obtain ⟨e₂, postponed, form⟩ :=
      iₙ.postpone_resumed own distinct fresh' applied (kept.form f shown) r
    obtain ⟨i₂, kept₂⟩ := iₙ.keptBy_resumed own distinct fresh' r
    rw [resumed, applied, postponed] at i₂ kept₂
    refine ⟨e₂, postponed, form, i.state_eq i₂ (form.trans shown.symm) fun fork => ?_⟩
    exact (kept₂.order fork).trans (kept.order fork)

/-- A null that was entered and the order that was restored pass two hops. -/
theorem triage_resuming_loses_nothing :
    let e := (triageStart .lenient).after
      [.applyState [("pendingOutbound", .texts ["toClose", "toFix"])], .postpone 0,
        .enterValue "note" .null]
    let s := ((e.hops [(triageStart .lenient, 1)]).state none).1
    ∃ e₁, (triageStart .strict).applyState s = (.ok (), e₁) ∧
      e₁.pendingOutbound.1.map (·.id) = ["toClose", "toFix"] ∧
      ∃ e₂, e₁.postpone 2 = (.ok (), e₂) ∧
        (e₂.form?.map fun f => f.fields.map (·.entered)) = some [some .null, none] ∧
        (e₂.state none).1 = (e.state none).1 := by
  intro e s
  have reached : Reached (fun op => op.fillsIn = true) ⟨triageStep, none⟩ .empty
      (.ofVariables []) e :=
    .perform (.perform (.perform (.withConfig _ (.start _)) rfl) rfl) rfl
  have fresh : ∀ h ∈ [(triageStart .lenient, 1)], Fresh ⟨triageStep, none⟩ .empty
      (.ofVariables []) h.1 :=
    List.forall_mem_singleton.mpr (.withConfig _ (.start _))
  have fresh' : Fresh ⟨triageStep, none⟩ .empty (.ofVariables []) (triageStart .strict) :=
    .withConfig _ (.start _)
  obtain ⟨e₁, applied, order, form⟩ :=
    resuming_loses_nothing (d := triage) rfl (.head _) (Behaviour.leavesFlows_of_stateless rfl)
      reached fresh fresh'
  obtain ⟨_, postponed⟩ := form _ rfl
  obtain ⟨e₂, postponed, shown, same⟩ := postponed 2
  refine ⟨e₁, applied, ?_, e₂, postponed, ?_, same⟩
  · rw [order rfl]
    rfl
  · rw [shown]
    rfl

end Execution

end ProcessStep
