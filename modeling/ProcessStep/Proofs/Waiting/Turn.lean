import ProcessStep.Proofs.Restoring
import ProcessStep.Proofs.Waiting.History

/-!
What one event does to an execution that may wait and to its receivers. `Turn` lists the five
ways in which an event can pass, with everything that it changes, and `turn_of_happen` says that
there is no other way. Invariants of waiting are proved from it, one case for each way.
-/

namespace ProcessStep

/-! ### Waiting of one execution -/

namespace Execution

/-- How an execution waits: not at all, no longer, or for a receiver. -/
def wait? (e : Execution) : Option (Option Nat) := e.postponement.map (·.receiver)

theorem receiver?_eq_some_iff {e : Execution} {r : Nat} :
    e.receiver? = some r ↔ e.wait? = some (some r) := by
  cases h : e.postponement <;> simp [receiver?, wait?, h]

theorem isPostponed_eq_true_iff {e : Execution} :
    e.isPostponed = true ↔ ∃ r, e.wait? = some (some r) := by
  rw [isPostponed_eq_isSome_receiver, Option.isSome_iff_exists]
  simp only [receiver?_eq_some_iff]

theorem complete_of_wait_none {e : Execution} (h : e.wait? = none) :
    e.complete = (.error (.notPostponed e.id), e) :=
  complete_of_not_postponed (Option.map_eq_none_iff.mp h)

theorem complete_of_wait_completed {e : Execution} (h : e.wait? = some none) :
    e.complete = (.error (.alreadyCompleted e.id), e) := by
  obtain ⟨⟨form, receiver⟩, postponed, rfl⟩ := Option.map_eq_some_iff.mp h
  simp [complete, postponed]

/-- An execution that waits for a receiver can be completed, and then waits no longer. -/
theorem complete_of_wait_some {e : Execution} {r : Nat} (h : e.wait? = some (some r)) :
    ∃ e', e.complete = (.ok r, e') ∧ e'.id = e.id ∧ e'.wait? = some none := by
  obtain ⟨⟨form, receiver⟩, postponed, rfl⟩ := Option.map_eq_some_iff.mp h
  refine ⟨{ e with postponement := some ⟨form, none⟩ }, ?_, rfl, rfl⟩
  simp [complete, postponed]

theorem wait?_setForm (e : Execution) (f : Form) : (e.setForm f).wait? = e.wait? := by
  cases postponed : e.postponement <;> simp [wait?, setForm, postponed]

theorem editForm_keeps {α : Type} (e : Execution) (edit : Form → α × Form) :
    (e.editForm edit).2.id = e.id ∧ (e.editForm edit).2.wait? = e.wait? := by
  unfold editForm
  split
  · exact ⟨rfl, rfl⟩
  · exact ⟨rfl, wait?_setForm e _⟩

/-- What does not suspend or complete the step leaves it waiting as it did. -/
theorem effect_keeps {op : Operation} (apart : op.concernsWait = false) (e : Execution) :
    (op.effect e).id = e.id ∧ (op.effect e).wait? = e.wait? := by
  by_cases reads : op.reads = true
  · have kept := (Operation.recalls_of_reads reads e).frame
    exact ⟨by rw [kept], by rw [kept]; rfl⟩
  · cases op with
    | setResult | setState | stop => exact ⟨rfl, rfl⟩
    | applyState s =>
        have kept : (Operation.applyState s).effect e = _ := e.applyState_frame s
        exact ⟨by rw [kept], by rw [kept]; rfl⟩
    | enterValue | restoreForm | replaceForm => exact editForm_keeps e _
    | postpone | complete => cases apart
    | _ => exact absurd rfl reads

/-- A postponement that succeeds makes the execution wait for the new receiver. -/
theorem wait?_postpone_of_ok {e e' : Execution} {r : Nat} (h : e.postpone r = (.ok (), e')) :
    e'.id = e.id ∧ e'.wait? = some (some r) := by
  have kept := e.recalls_bindForm.frame
  rcases e.postpone_eq r with ⟨x, _, fails⟩ | ⟨f, _, succeeds⟩
  · rw [h] at fails
    cases congrArg Prod.fst fails
  · have after : e' = { e.bindForm.2 with postponement := some ⟨f, some r⟩ } :=
      congrArg Prod.snd (h.symm.trans succeeds)
    rw [after]
    exact ⟨by rw [kept], rfl⟩

/-- A postponement that fails leaves everything about waiting as it was. -/
theorem wait?_postpone_of_error {e e' : Execution} {r : Nat} {x : ResolutionError}
    (h : e.postpone r = (.error x, e')) : e'.id = e.id ∧ e'.wait? = e.wait? := by
  have kept := e.recalls_bindForm.frame
  rcases e.postpone_eq r with ⟨y, _, fails⟩ | ⟨f, _, succeeds⟩
  · have after : e' = e.bindForm.2 := congrArg Prod.snd (h.symm.trans fails)
    rw [after, kept]
    exact ⟨rfl, rfl⟩
  · rw [h] at succeeds
    cases congrArg Prod.fst succeeds

end Execution

/-! ### Executions of a session -/

namespace Session

variable {s : Session} {n : Nat} {e : Execution}

theorem execution?_put (there : s.execution? n = some e) (e' : Execution) :
    (s.put n e').execution? n = some e' := by
  obtain ⟨member, found, _⟩ := Option.bind_eq_some_iff.mp there
  simp [execution?, put, found]

theorem execution?_drop : (s.drop n).execution? n = none := by
  cases found : s.members[n]? <;> simp [execution?, drop, found]

theorem run_of_some {α : Type} (there : s.execution? n = some e)
    (f : Execution → α × Execution) : s.run n f = some ((f e).1, s.put n (f e).2) := by
  simp [run, there]

/-- The id of an execution and how it waits, if it is there. -/
def standing (s : Session) (n : Nat) : Option (String × Option (Option Nat)) :=
  (s.execution? n).map fun e => (e.id, e.wait?)

theorem standing_of_some (there : s.execution? n = some e) :
    s.standing n = some (e.id, e.wait?) := by
  simp [standing, there]

theorem standing_put (there : s.execution? n = some e) (e' : Execution) :
    (s.put n e').standing n = some (e'.id, e'.wait?) := by
  rw [standing_of_some (execution?_put there e')]

/-- A change that keeps the id of an execution and how it waits is not seen. -/
theorem standing_put_of_keeps {e' : Execution} (there : s.execution? n = some e)
    (keeps : e'.id = e.id ∧ e'.wait? = e.wait?) : (s.put n e').standing n = s.standing n := by
  rw [standing_put there, standing_of_some there, keeps.1, keeps.2]

theorem receiver?_of_standing {id : String} {r : Nat}
    (waits : s.standing n = some (id, some (some r))) :
    (s.execution? n).bind (·.receiver?) = some r := by
  obtain ⟨e, there, same⟩ := Option.map_eq_some_iff.mp waits
  rw [there]
  exact Execution.receiver?_eq_some_iff.mpr (congrArg Prod.snd same)

end Session

namespace Receivers

variable {rs : Receivers} {r : Nat} {receiver : Receiver}

theorem getElem?_modify (rs : Receivers) (f : Receiver → Receiver) (n r : Nat) :
    (rs.modify n f)[r]? = if n = r then rs[r]?.map f else rs[r]? := by
  by_cases same : n = r <;> simp [same]

/-- Only the abandoned receiver changes. -/
theorem getElem?_abandon (rs : Receivers) (n : Option Nat) (r : Nat) :
    (rs.abandon n)[r]? = if n = some r then rs[r]?.map Receiver.abandon else rs[r]? := by
  cases n with
  | none => rfl
  | some n => simp only [abandon, getElem?_modify, Option.some.injEq]

@[simp] theorem length_abandon (rs : Receivers) (n : Option Nat) :
    (rs.abandon n).length = rs.length := by
  cases n <;> simp [abandon]

/-- A new receiver stands behind all others, which stay as they are. -/
theorem getElem?_create (rs : Receivers) (execution : String) (r : Nat) :
    (rs.create execution)[r]? =
      if r = rs.length then some ⟨execution, .waiting⟩ else rs[r]? := by
  rw [create, List.getElem?_append]
  rcases Nat.lt_trichotomy r rs.length with less | same | more
  · rw [if_pos less, if_neg (Nat.ne_of_lt less)]
  · simp [same]
  · rw [if_neg (Nat.not_lt_of_gt more), if_neg (Nat.ne_of_gt more),
      List.getElem?_eq_none (by simp; omega), List.getElem?_eq_none (by omega)]

theorem receive?_of_kept (found : rs[r]? = some receiver)
    (kept : receiver.receive.2 = receiver) :
    rs.receive? r = some (receiver.receive.1, rs) := by
  obtain ⟨bound, rfl⟩ := List.getElem?_eq_some_iff.mp found
  simp only [receive?, found, Option.map_some, kept, List.set_getElem_self]

theorem receive?_of_closed (found : rs[r]? = some receiver)
    (closed : receiver.receive.2 = receiver.close) :
    rs.receive? r = some (receiver.receive.1, rs.close r) := by
  have same : rs.set r receiver.close = rs.modify r Receiver.close := by
    rw [List.modify_eq_set_getElem?, found]
    rfl
  simp only [receive?, found, Option.map_some, closed, same, close]

end Receivers

namespace Waiting

/-! ### Turns -/

/-- The ways in which an event of the execution `n` can pass. -/
inductive Turn (n : Nat) (s : Session) (x : Entry) (s' : Session) : Prop where
  /-- Nothing happens to the waiting. -/
  | quiet (made : x.made? = none) (accepted : x.accepted? = none) (drops : x.drops = false)
      (closes : ∀ r, x.closes r = false) (standing : s'.standing n = s.standing n)
      (receivers : s'.receivers = s.receivers)
  /-- The execution is postponed: it waits for a new receiver, and its old one is abandoned. -/
  | postponed (e : Execution) (there : s.execution? n = some e)
      (made : x.made? = some s.receivers.length) (accepted : x.accepted? = none)
      (drops : x.drops = false) (closes : ∀ r, x.closes r = false)
      (standing : s'.standing n = some (e.id, some (some s.receivers.length)))
      (receivers : s'.receivers = (s.receivers.abandon e.receiver?).create e.id)
  /-- A completion is accepted and delivered. -/
  | accepted (e : Execution) (r : Nat) (c : Completion) (there : s.execution? n = some e)
      (waits : e.wait? = some (some r)) (made : x.made? = none)
      (accepted : x.accepted? = some c) (drops : x.drops = false)
      (closes : ∀ r, x.closes r = false) (standing : s'.standing n = some (e.id, some none))
      (receivers : s'.receivers = s.receivers.deliver r c)
  /-- The execution is dropped, and its receiver is abandoned. -/
  | dropped (made : x.made? = none) (accepted : x.accepted? = none) (drops : x.drops = true)
      (closes : ∀ r, x.closes r = false) (standing : s'.standing n = none)
      (receivers : s'.receivers = s.receivers.abandon ((s.execution? n).bind (·.receiver?)))
  /-- A receiver is dropped or gives its answer. -/
  | closed (r : Nat) (made : x.made? = none) (accepted : x.accepted? = none)
      (drops : x.drops = false) (closes : ∀ r', x.closes r' = decide (r = r'))
      (standing : s'.standing n = s.standing n) (receivers : s'.receivers = s.receivers.close r)

namespace Turn

variable {n : Nat} {s s' : Session} {x : Entry}

/-- A receiver is made by a postponement only. -/
theorem of_made {r : Nat} (t : Turn n s x s') (made : x.made? = some r) :
    r = s.receivers.length ∧ ∃ e, s.execution? n = some e ∧
      s'.standing n = some (e.id, some (some r)) ∧
      s'.receivers = (s.receivers.abandon e.receiver?).create e.id := by
  cases t with
  | postponed e there made' _ _ _ standing receivers =>
      rw [made] at made'
      cases made'
      exact ⟨rfl, e, there, standing, receivers⟩
  | quiet none | dropped none | closed _ none | accepted _ _ _ _ _ none =>
      rw [none] at made
      cases made

/-- A completion is accepted by an execution that waits. -/
theorem of_accepted (t : Turn n s x s') (accepted : x.accepted?.isSome = true) :
    ∃ e r, s.execution? n = some e ∧ e.wait? = some (some r) := by
  cases t with
  | accepted e r c there waits => exact ⟨e, r, there, waits⟩
  | quiet _ none | postponed _ _ _ none | dropped _ none | closed _ _ none =>
      rw [none] at accepted
      cases accepted

/-- Where nothing is made, accepted or dropped, the execution waits as before. -/
theorem standing_eq (t : Turn n s x s') (made : x.made? = none) (accepted : x.accepted? = none)
    (drops : x.drops = false) : s'.standing n = s.standing n := by
  cases t with
  | quiet _ _ _ _ standing | closed _ _ _ _ _ standing => exact standing
  | postponed _ _ some =>
      rw [made] at some
      cases some
  | accepted _ _ _ _ _ _ some =>
      rw [accepted] at some
      cases some
  | dropped _ _ true =>
      rw [drops] at true
      cases true

end Turn

variable {n : Nat} {s : Session}

/-- A change of the execution that is not about waiting is a quiet turn. -/
theorem turn_of_run {α : Type} {ev : Event} {f : Execution → α × Execution}
    {outcome : α → Outcome} (happens : ev.happen n s = report s outcome (s.run n f))
    (keeps : ∀ e, (f e).2.id = e.id ∧ (f e).2.wait? = e.wait?)
    (quiet : ∀ o, (∃ v, o = outcome v) ∨ o = .absent →
      Entry.made? ⟨ev, o⟩ = none ∧ Entry.accepted? ⟨ev, o⟩ = none ∧
        Entry.drops ⟨ev, o⟩ = false ∧ ∀ r, Entry.closes r ⟨ev, o⟩ = false) :
    Turn n s ⟨ev, (ev.happen n s).1⟩ (ev.happen n s).2 := by
  rw [happens]
  cases there : s.execution? n with
  | none =>
      obtain ⟨made, accepted, drops, closes⟩ := quiet .absent (.inr rfl)
      simp only [Session.run, there]
      exact .quiet made accepted drops closes rfl rfl
  | some e =>
      obtain ⟨made, accepted, drops, closes⟩ := quiet (outcome (f e).1) (.inl ⟨_, rfl⟩)
      rw [Session.run_of_some there]
      exact .quiet made accepted drops closes
        (Session.standing_put_of_keeps there (keeps e)) rfl

theorem turn_of_postpone :
    Turn n s ⟨.postpone, (Event.postpone.happen n s).1⟩ (Event.postpone.happen n s).2 := by
  show Turn n s ⟨.postpone, (report s .postponed (s.postpone n)).1⟩
    (report s .postponed (s.postpone n)).2
  unfold Session.postpone
  cases there : s.execution? n with
  | none => exact .quiet rfl rfl rfl (fun _ => rfl) rfl rfl
  | some e =>
      rw [Option.map_some]
      rcases outcome : e.postpone s.receivers.length with ⟨x | ⟨⟩, e'⟩
      · exact .quiet rfl rfl rfl (fun _ => rfl)
          (Session.standing_put_of_keeps there (Execution.wait?_postpone_of_error outcome)) rfl
      · obtain ⟨id, waits⟩ := Execution.wait?_postpone_of_ok outcome
        refine .postponed e there rfl rfl rfl (fun _ => rfl) ?_ rfl
        rw [← id, ← waits]
        exact Session.standing_put there e'

/-- What an event hands over is accepted only if the event is answered so. -/
theorem accepted?_eq {ev : Event} {c : Completion} (completes : ev.completion? = some c)
    (outcome : Except ExecutionError Unit) :
    Entry.accepted? ⟨ev, .completed outcome⟩ =
      match outcome with
      | .ok () => some c
      | .error _ => none := by
  rcases outcome with x | ⟨⟩
  · rfl
  · exact completes

/-- However a completion is handed over, it passes as the execution waits. -/
theorem turn_of_complete {ev : Event} {c : Completion} (completes : ev.completion? = some c)
    (happens : ev.happen n s = report s .completed (s.complete n c)) :
    Turn n s ⟨ev, (ev.happen n s).1⟩ (ev.happen n s).2 := by
  have drops (o : Outcome) : Entry.drops ⟨ev, o⟩ = false := by
    cases ev <;> first | rfl | cases completes
  have closes (o : Outcome) (r : Nat) : Entry.closes r ⟨ev, o⟩ = false := by
    cases ev <;> first | rfl | cases completes
  rw [happens]
  unfold Session.complete
  cases there : s.execution? n with
  | none => exact .quiet rfl rfl (drops _) (closes _) rfl rfl
  | some e =>
      rw [Option.map_some]
      rcases waits : e.wait? with _ | _ | r
      · rw [Execution.complete_of_wait_none waits]
        exact .quiet rfl (accepted?_eq completes _) (drops _) (closes _)
          (Session.standing_put_of_keeps there ⟨rfl, rfl⟩) rfl
      · rw [Execution.complete_of_wait_completed waits]
        exact .quiet rfl (accepted?_eq completes _) (drops _) (closes _)
          (Session.standing_put_of_keeps there ⟨rfl, rfl⟩) rfl
      · obtain ⟨e', completed, id, waits'⟩ := Execution.complete_of_wait_some waits
        rw [completed]
        refine .accepted e r c there waits rfl (accepted?_eq completes _) (drops _) (closes _)
          ?_ rfl
        rw [← id, ← waits']
        exact Session.standing_put there e'

theorem turn_of_receive (r : Nat) :
    Turn n s ⟨.receive r, ((Event.receive r).happen n s).1⟩
      ((Event.receive r).happen n s).2 := by
  show Turn n s ⟨.receive r, (report s .received (s.receive r)).1⟩
    (report s .received (s.receive r)).2
  unfold Session.receive
  cases found : s.receivers[r]? with
  | none =>
      simp only [Receivers.receive?, found]
      exact .quiet rfl rfl rfl (fun _ => rfl) rfl rfl
  | some receiver =>
      obtain ⟨id, mailbox⟩ := receiver
      cases mailbox with
      | waiting | closed =>
          rw [Receivers.receive?_of_kept found rfl]
          exact .quiet rfl rfl rfl (fun _ => rfl) rfl rfl
      | delivered | abandoned =>
          rw [Receivers.receive?_of_closed found rfl]
          exact .closed r rfl rfl rfl (fun _ => rfl) rfl rfl

/-- Every event passes in one of the ways that `Turn` lists. -/
theorem turn_of_happen (ev : Event) (n : Nat) (s : Session) :
    Turn n s ⟨ev, (ev.happen n s).1⟩ (ev.happen n s).2 := by
  cases ev with
  | postpone => exact turn_of_postpone
  | signal v => exact turn_of_complete rfl rfl
  | fail f => exact turn_of_complete rfl rfl
  | complete c => exact turn_of_complete rfl rfl
  | receive r => exact turn_of_receive r
  | dropReceiver r => exact .closed r rfl rfl rfl (fun _ => rfl) rfl rfl
  | drop =>
      refine .dropped rfl rfl rfl (fun _ => rfl) ?_ rfl
      simp [Session.standing, Event.happen, Session.execution?_drop]
  | serve services =>
      refine turn_of_run rfl (fun e => ⟨rfl, rfl⟩) ?_
      rintro o (⟨v, rfl⟩ | rfl) <;> exact ⟨rfl, rfl, rfl, fun _ => rfl⟩
  | meanwhile op apart =>
      refine turn_of_run rfl (fun e => Execution.effect_keeps apart e) ?_
      rintro o (⟨v, rfl⟩ | rfl) <;> exact ⟨rfl, rfl, rfl, fun _ => rfl⟩

end Waiting

end ProcessStep
