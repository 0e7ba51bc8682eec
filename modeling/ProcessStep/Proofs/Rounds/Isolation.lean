import ProcessStep.Proofs.Reading
import ProcessStep.Proofs.Rounds.Apart

/-!
Rounds are isolated. `Mirrors` compares an execution of a group with one that is alone: both settle
to the same, and the receivers that the first one made are those of the second one. What is done
to the execution keeps this, and what is done to others is not seen (`Mirrors.own`,
`Mirrors.other`). So an execution answers in a group as it does alone, whatever its parent did
before the round began and whatever is done to all others in between.
-/

namespace ProcessStep

open Waiting (Event Outcome report)

namespace Rounds

/-! ### Receivers -/

/-- The receivers of the numbers `own` are `rs'`, in this order. -/
structure Lists (own : List Nat) (rs rs' : Receivers) : Prop where
  length : own.length = rs'.length
  each : ∀ k r : Nat, own[k]? = some r → rs[r]? = rs'[k]?

namespace Lists

variable {own : List Nat} {rs rs' : Receivers}

/-- The receiver of a number among all, if there is one. -/
theorem getElem? (l : Lists own rs rs') (k : Nat) : rs[own[k]?.getD rs.length]? = rs'[k]? := by
  cases listed : own[k]? with
  | some r => exact l.each k r listed
  | none =>
      rw [List.getElem?_eq_none_iff, l.length] at listed
      rw [List.getElem?_eq_none listed]
      exact List.getElem?_eq_none (Nat.le_refl _)

/-- Changing the receiver of a number changes the one in its place, and no other. -/
theorem modify (l : Lists own rs rs') (distinct : own.Nodup) (bounded : ∀ r ∈ own, r < rs.length)
    (k : Nat) (f : Receiver → Receiver) :
    Lists own (rs.modify (own[k]?.getD rs.length) f) (rs'.modify k f) := by
  refine ⟨by rw [l.length, List.length_modify], fun k' r' listed' => ?_⟩
  have same : own[k]?.getD rs.length = r' ↔ k = k' := by
    have bound := bounded r' (List.mem_of_getElem? listed')
    cases listed : own[k]? with
    | none =>
        constructor
        · rintro rfl
          exact absurd bound (Nat.lt_irrefl _)
        · rintro rfl
          cases listed.symm.trans listed'
    | some r =>
        constructor
        · rintro rfl
          exact (List.getElem?_inj (List.getElem?_eq_some_iff.mp listed).1 distinct).mp
            (listed.trans listed'.symm)
        · rintro rfl
          exact Option.some.inj (listed.symm.trans listed')
  rw [Receivers.getElem?_modify, Receivers.getElem?_modify, l.each k' r' listed']
  simp only [same]

/-- Something is done to a receiver that the execution has made. -/
theorem modify_member (l : Lists own rs rs') (distinct : own.Nodup)
    (bounded : ∀ r ∈ own, r < rs.length) {r : Nat} (member : r ∈ own)
    (f : Receiver → Receiver) : Lists own (rs.modify r f) (rs'.modify (own.idxOf r) f) := by
  have modified := l.modify distinct bounded (own.idxOf r) f
  rwa [List.getElem?_idxOf member] at modified

theorem abandon (l : Lists own rs rs') (distinct : own.Nodup) (bounded : ∀ r ∈ own, r < rs.length)
    {r? : Option Nat} (member : ∀ r, r? = some r → r ∈ own) :
    Lists own (rs.abandon r?) (rs'.abandon (r?.map own.idxOf)) := by
  cases r? with
  | none => exact l
  | some r => exact l.modify_member distinct bounded (member r rfl) _

/-- A new receiver is the last one on both sides. -/
theorem create (l : Lists own rs rs') (bounded : ∀ r ∈ own, r < rs.length) (id : String) :
    Lists (own ++ [rs.length]) (rs.create id) (rs'.create id) := by
  refine ⟨by simp [Receivers.create, l.length], fun k r listed => ?_⟩
  rw [Receivers.getElem?_create, Receivers.getElem?_create]
  rcases Nat.lt_trichotomy k own.length with less | rfl | more
  · rw [List.getElem?_append_left less] at listed
    rw [if_neg (Nat.ne_of_lt (bounded r (List.mem_of_getElem? listed))),
      if_neg (Nat.ne_of_lt (l.length ▸ less)), l.each k r listed]
  · rw [List.getElem?_concat_length, Option.some.injEq] at listed
    rw [if_pos listed.symm, if_pos l.length]
  · rw [List.getElem?_eq_none (by simp; omega)] at listed
    cases listed

end Lists

/-- Asking a receiver changes that one only. -/
theorem receive?_eq_modify (rs : Receivers) (r : Nat) :
    rs.receive? r = rs[r]?.map fun v => (v.receive.1, rs.modify r fun v => v.receive.2) := by
  unfold Receivers.receive?
  cases found : rs[r]? with
  | none => rfl
  | some v => rw [Option.map_some, Option.map_some, List.modify_eq_set_getElem?, found]; rfl

/-! ### Executions that settle to the same -/

section Settled

variable {e e' : Execution} {op : Operation} {number number' : Nat → Nat}

theorem settled_congr (same : ∀ r, e.receiver? = some r → number' r = number r) :
    e.settled number' = e.settled number := by
  rcases postponed : e.postponement with _ | ⟨form, _ | r⟩
  · simp [Execution.settled, postponed]
  · simp [Execution.settled, postponed]
  · have waits : e.receiver? = some r := by rw [Execution.receiver?, postponed]; rfl
    simp [Execution.settled, postponed, same r waits]

theorem renumbered_of_apart (apart : op.concernsWait = false) (number : Nat → Nat) :
    op.renumbered number = op := by
  cases op <;> first | rfl | cases apart

theorem answer_renumbered_of_apart (apart : op.concernsWait = false) (number : Nat → Nat)
    (e : Execution) : (op.answer e).renumbered number = op.answer e := by
  cases op <;> first | rfl | cases apart

/-- What is not about waiting is answered alike. -/
theorem answer_of_settled (same : e.settled number = e'.ready) (apart : op.concernsWait = false) :
    op.answer e = op.answer e' := by
  have answer := op.answer_settled number e
  rw [renumbered_of_apart apart, same, Execution.answer_ready,
    answer_renumbered_of_apart apart] at answer
  exact answer.symm

/-- Executions that agree once all is resolved agree after any operation that waits for nothing. -/
theorem effect_of_settled (same : e.settled number = e'.ready) (apart : op.concernsWait = false) :
    (op.effect e).settled number = (op.effect e').ready := by
  have effect := op.effect_settled number e
  rw [renumbered_of_apart apart, same, Execution.effect_ready] at effect
  exact effect.symm

/-- Executions that agree suspend alike, each with the number of its own receiver. -/
theorem postpone_of_settled (same : e.settled number = e'.ready) (r : Nat) :
    ∃ e₁', e'.postpone (number r) = ((e.postpone r).1, e₁') ∧
      (e.postpone r).2.settled number = e₁'.ready := by
  have postponed := e.postpone_settled number r
  have postponed' := e'.postpone_settled (fun r => r) (number r)
  rw [same, postponed'] at postponed
  refine ⟨_, ?_, (congrArg Prod.snd postponed).symm⟩
  rw [← congrArg Prod.fst postponed]

/-- Executions that agree are completed alike, each by the number of its own receiver. -/
theorem complete_of_settled (same : e.settled number = e'.ready) :
    ∃ e₁', e'.complete = (e.complete.1.map number, e₁') ∧
      e.complete.2.settled number = e₁'.ready := by
  have completed := e.complete_settled number
  rw [same, Execution.complete_settled] at completed
  refine ⟨_, ?_, (congrArg Prod.snd completed).symm⟩
  have self : e'.complete.1.map (fun r => r) = e'.complete.1 := by cases e'.complete.1 <;> rfl
  have outcome : e'.complete.1 = e.complete.1.map number :=
    self.symm.trans (congrArg Prod.fst completed)
  rw [← outcome]

theorem receiver?_of_complete {e₁ : Execution} {r : Nat} (completed : e.complete = (.ok r, e₁)) :
    e.receiver? = some r := by
  unfold Execution.complete at completed
  split at completed
  · cases completed
  · cases completed
  · next form r' postponed =>
      cases completed
      rw [Execution.receiver?, postponed]
      rfl

theorem receiver?_settled (number : Nat → Nat) (e : Execution) :
    (e.settled number).receiver? = e.receiver?.map number := by
  cases postponed : e.postponement <;> simp [Execution.receiver?, Execution.settled, postponed]

theorem receiver?_of_settled (same : e.settled number = e'.ready) :
    e'.receiver? = e.receiver?.map number := by
  rw [← receiver?_settled, same, receiver?_settled]
  exact Option.map_id'.symm

end Settled

/-! ### One execution in a group and alone -/

/-- The execution `x` of a session is as the first one of another, and so are the receivers that
it made. -/
structure Mirrors (own : List Nat) (x : Nat) (s s' : Session) : Prop where
  execution : (s.execution? x).map (·.settled own.idxOf) = (s'.execution? 0).map (·.ready)
  receivers : Lists own s.receivers s'.receivers

namespace Mirrors

variable {own : List Nat} {x : Nat} {s s' : Session}

/-- The executions are both there and settle to the same, or both are not there. -/
theorem both (m : Mirrors own x s s') :
    (s.execution? x = none ∧ s'.execution? 0 = none) ∨
      ∃ e e', s.execution? x = some e ∧ s'.execution? 0 = some e' ∧
        e.settled own.idxOf = e'.ready := by
  have same := m.execution
  cases there : s.execution? x with
  | none =>
      cases there' : s'.execution? 0 with
      | none => exact .inl ⟨rfl, rfl⟩
      | some e' =>
          rw [there, there'] at same
          cases same
  | some e =>
      cases there' : s'.execution? 0 with
      | none =>
          rw [there, there'] at same
          cases same
      | some e' =>
          rw [there, there'] at same
          exact .inr ⟨e, e', rfl, rfl, Option.some.inj same⟩

/-- Other receivers in the same order leave the executions as they mirror each other. -/
theorem withReceivers (m : Mirrors own x s s') {rs rs' : Receivers} (receivers : Lists own rs rs') :
    Mirrors own x { s with receivers := rs } { s' with receivers := rs' } :=
  ⟨m.execution, receivers⟩

/-- Both executions are replaced by ones that settle to the same. -/
theorem put {own' : List Nat} {e e' e₁ e₁' : Execution} {rs rs' : Receivers}
    (there : s.execution? x = some e) (there' : s'.execution? 0 = some e')
    (same : e₁.settled own'.idxOf = e₁'.ready) (receivers : Lists own' rs rs') :
    Mirrors own' x { s.put x e₁ with receivers := rs } { s'.put 0 e₁' with receivers := rs' } where
  execution := by
    have put : (s.put x e₁).execution? x = some e₁ := Session.execution?_put there e₁
    have put' : (s'.put 0 e₁').execution? 0 = some e₁' := Session.execution?_put there' e₁'
    show ((s.put x e₁).execution? x).map _ = ((s'.put 0 e₁').execution? 0).map _
    rw [put, put']
    exact congrArg some same
  receivers := receivers

end Mirrors

/-- The receivers that an execution made, among them the one that it waits for. -/
structure Owns (own : List Nat) (x : Nat) (s : Session) : Prop where
  distinct : own.Nodup
  bounded : ∀ r ∈ own, r < s.receivers.length
  held : ∀ e, s.execution? x = some e → ∀ r, e.receiver? = some r → r ∈ own

/-- What happens to the execution is answered alike, and leaves the executions alike. -/
structure Alike (own : List Nat) (x : Nat) (happened happened' : Outcome × Session) : Prop where
  outcome : happened.1.renumbered own.idxOf = happened'.1
  mirrors : Mirrors (own ++ happened.1.made?.toList) x happened.2 happened'.2

section Own

variable {own : List Nat} {x : Nat} {s s' : Session}

theorem Mirrors.alike {o o' : Outcome} (m : Mirrors own x s s')
    (outcome : o.renumbered own.idxOf = o') (made : o.made? = none) :
    Alike own x (o, s) (o', s') := by
  refine ⟨outcome, ?_⟩
  rw [made, Option.toList_none, List.append_nil]
  exact m

/-- Operations that wait for nothing are answered alike. -/
theorem alike_meanwhile (m : Mirrors own x s s') {op : Operation}
    (apart : op.concernsWait = false) :
    Alike own x (report s .answered (s.run x op.perform))
      (report s' .answered (s'.run 0 op.perform)) := by
  rcases m.both with ⟨gone, gone'⟩ | ⟨e, e', there, there', same⟩
  · rw [Session.run, Session.run, gone, gone']
    exact m.alike rfl rfl
  · rw [Session.run_of_some there, Session.run_of_some there']
    have mirrors := Mirrors.put there there' (effect_of_settled same apart) m.receivers
    exact mirrors.alike (congrArg Outcome.answered (answer_of_settled same apart)) rfl

/-- Suspending is answered alike, and makes a receiver on both sides. -/
theorem alike_postpone (m : Mirrors own x s s') (owns : Owns own x s) :
    Alike own x (report s .postponed (s.postpone x)) (report s' .postponed (s'.postpone 0)) := by
  unfold Session.postpone
  rcases m.both with ⟨gone, gone'⟩ | ⟨e, e', there, there', same⟩
  · rw [gone, gone']
    exact m.alike rfl rfl
  · rw [there, there', Option.map_some, Option.map_some]
    -- the receiver is the next one of this execution, and alone the next one of all
    have new : s.receivers.length ∉ own := fun member => Nat.lt_irrefl _ (owns.bounded _ member)
    have next : own.idxOf s.receivers.length = s'.receivers.length := by
      rw [List.idxOf_eq_length new, m.receivers.length]
    obtain ⟨e₁', postponed', after⟩ := postpone_of_settled same s.receivers.length
    rw [next] at postponed'
    rw [postponed']
    rcases postponed : e.postpone s.receivers.length with ⟨y | ⟨⟩, e₁⟩
    · rw [postponed] at after
      exact (Mirrors.put there there' after m.receivers).alike rfl rfl
    · rw [postponed] at after
      refine ⟨congrArg (fun r => Outcome.postponed (.ok r)) next, ?_⟩
      show Mirrors (own ++ [s.receivers.length]) x _ _
      refine Mirrors.put there there' ?_ ?_
      · rw [← after]
        refine settled_congr fun r waits => ?_
        rw [Execution.receiver?_eq_some_iff, (Execution.wait?_postpone_of_ok postponed).2] at waits
        cases waits
        rw [List.idxOf_append_of_notMem new, List.idxOf_eq_length new, List.idxOf_cons_self,
          Nat.add_zero]
      · have abandoned := m.receivers.abandon owns.distinct owns.bounded (owns.held e there)
        have created := abandoned.create (by simpa using owns.bounded) e.id
        have id : e.id = e'.id := congrArg (·.id) same
        rw [Receivers.length_abandon, ← receiver?_of_settled same] at created
        rwa [id] at created ⊢

/-- Completing is answered alike, and reaches the receiver of the same place. -/
theorem alike_complete (m : Mirrors own x s s') (owns : Owns own x s) (c : Completion) :
    Alike own x (report s .completed (s.complete x c))
      (report s' .completed (s'.complete 0 c)) := by
  unfold Session.complete
  rcases m.both with ⟨gone, gone'⟩ | ⟨e, e', there, there', same⟩
  · rw [gone, gone']
    exact m.alike rfl rfl
  · rw [there, there', Option.map_some, Option.map_some]
    obtain ⟨e₁', completed', after⟩ := complete_of_settled same
    rw [completed']
    rcases completed : e.complete with ⟨y | r, e₁⟩
    · rw [completed] at after
      exact (Mirrors.put there there' after m.receivers).alike rfl rfl
    · rw [completed] at after
      have member := owns.held e there r (receiver?_of_complete completed)
      have delivered := m.receivers.modify_member owns.distinct owns.bounded member (·.deliver c)
      exact (Mirrors.put there there' after delivered).alike rfl rfl

/-- Receivers of the same place have the same to say. -/
theorem alike_receive (m : Mirrors own x s s') (owns : Owns own x s) (k : Nat) :
    Alike own x (report s .received (s.receive (own[k]?.getD s.receivers.length)))
      (report s' .received (s'.receive k)) := by
  unfold Session.receive
  rw [receive?_eq_modify, receive?_eq_modify, m.receivers.getElem? k]
  cases s'.receivers[k]? with
  | none => exact m.alike rfl rfl
  | some v =>
      have received := m.receivers.modify owns.distinct owns.bounded k fun v => v.receive.2
      exact (m.withReceivers received).alike rfl rfl

theorem alike_dropReceiver (m : Mirrors own x s s') (owns : Owns own x s) (k : Nat) :
    Alike own x (.done, s.dropReceiver (own[k]?.getD s.receivers.length))
      (.done, s'.dropReceiver k) := by
  have closed := m.receivers.modify owns.distinct owns.bounded k Receiver.close
  exact (m.withReceivers closed).alike rfl rfl

theorem alike_drop (m : Mirrors own x s s') (owns : Owns own x s) :
    Alike own x (.done, s.drop x) (.done, s'.drop 0) := by
  have abandoned : Lists own (s.drop x).receivers (s'.drop 0).receivers := by
    rcases m.both with ⟨gone, gone'⟩ | ⟨e, e', there, there', same⟩
    · rw [Session.drop, Session.drop, gone, gone']
      exact m.receivers
    · have abandoned := m.receivers.abandon owns.distinct owns.bounded (owns.held e there)
      rw [← receiver?_of_settled same] at abandoned
      rw [Session.drop, Session.drop, there, there']
      exact abandoned
  have mirrors : Mirrors own x (s.drop x) (s'.drop 0) := by
    refine ⟨?_, abandoned⟩
    rw [Session.execution?_drop, Session.execution?_drop]
    rfl
  exact mirrors.alike rfl rfl

/-- An event that happens to the execution in a group and alone. -/
theorem alike_event (m : Mirrors own x s s') (owns : Owns own x s) {ev : Event}
    (steady : ev.serves = false) :
    Alike own x ((ev.renumbered fun k => own[k]?.getD s.receivers.length).happen x s)
      (ev.happen 0 s') := by
  cases ev with
  | postpone => exact alike_postpone m owns
  | signal v => exact alike_complete m owns (.ok (some v))
  | fail f => exact alike_complete m owns (.error f)
  | complete c => exact alike_complete m owns c
  | receive k => exact alike_receive m owns k
  | dropReceiver k => exact alike_dropReceiver m owns k
  | drop => exact alike_drop m owns
  | serve => cases steady
  | meanwhile op apart => exact alike_meanwhile m apart

end Own

/-! ### Executions of a group -/

section Groups

variable {g : Group} {n x : Nat} {s : Session}

/-- In a group that is kept apart, every execution owns the receivers that it made. -/
theorem Apart.owns (a : Apart g) (x : Nat) : Owns (g.made x) x g.session where
  distinct := a.distinct x
  bounded := a.bounded x
  held e there r waits := by
    rw [Execution.receiver?_eq_some_iff] at waits
    exact a.held x e.id r (by rw [Session.standing_of_some there, waits])

/-- What is done to the execution itself. -/
theorem Mirrors.own (m : Mirrors (g.made x) x g.session s) (a : Apart g)
    (there : x < g.session.members.length) (d : Deed) :
    (g.happen x d).1 = (d.happen 0 s).1 ∧
      Mirrors ((g.happen x d).2.made x) x (g.happen x d).2.session (d.happen 0 s).2 := by
  cases d with
  | event ev steady =>
      obtain ⟨outcome, mirrors⟩ := alike_event m (a.owns x) steady
      rw [g.made_happen]
      exact ⟨outcome, mirrors⟩
  | iterate i =>
      rw [g.happen_iterate]
      unfold Deed.happen Session.iterate
      rcases m.both with ⟨gone, gone'⟩ | ⟨e, e', present, present', same⟩
      · rw [gone, gone']
        exact ⟨rfl, m⟩
      · rw [present, present']
        refine ⟨rfl, ?_, m.receivers⟩
        have kept := execution?_add g.session (fun token => e.iteration i token)
          (g.session.members[x]?.bind (·.journal)) x
        have kept' := execution?_add s (fun token => e'.iteration i token)
          (s.members[0]?.bind (·.journal)) 0
        rw [if_neg (Nat.ne_of_lt there)] at kept
        rw [if_neg (Nat.ne_of_lt (lt_length_of_there present'))] at kept'
        dsimp only [report, Option.map_some]
        rw [kept, kept']
        exact m.execution

/-- What is done to another execution. -/
theorem Mirrors.other (m : Mirrors (g.made x) x g.session s) (a : Apart g)
    (there : x < g.session.members.length) (other : x ≠ n) (d : Deed) :
    Mirrors ((g.happen n d).2.made x) x (g.happen n d).2.session s := by
  rw [g.made_happen_of_ne other]
  constructor
  · rw [execution?_happen_of_ne there other]
    exact m.execution
  · refine ⟨m.receivers.length, fun k r listed => ?_⟩
    rw [receivers_happen_of_ne a other (List.mem_of_getElem? listed)]
    exact m.receivers.each k r listed

/-- An execution of a group answers as it does alone. -/
theorem answers_eq (m : Mirrors (g.made x) x g.session s) (a : Apart g)
    (there : x < g.session.members.length) (deeds : List (Nat × Deed)) :
    g.answers x deeds = answersAlone (deedsOf x deeds) s := by
  -- what is done to `x` moves both on, anything else only the group
  induction deeds generalizing g s with
  | nil => rfl
  | cons d deeds ih =>
      obtain ⟨n, d⟩ := d
      have there' := Nat.lt_of_lt_of_le there (length_members_happen g n d)
      by_cases own : n = x
      · subst own
        obtain ⟨outcome, mirrors⟩ := m.own a there d
        rw [Group.answers, if_pos rfl, ih mirrors (a.happen n d) there', outcome]
        simp [deedsOf, answersAlone]
      · rw [Group.answers, if_neg own, ih (m.other a there (Ne.symm own) d) (a.happen n d) there']
        simp [deedsOf, own]

end Groups

/-! ### Rounds -/

/-- An execution that was just made answers from now on as it does alone, whatever is done to
others. It keeps its id, and no execution that is made later has the same token in its id. -/
structure Isolated (tokens : Nat → String) (g : Group) (x : Nat) (o : Origin) (token : Nat) :
    Prop where
  made : g.session.execution? x = some (o.execution (tokens token))
  answers : ∀ deeds,
    g.answers x deeds = answersAlone (deedsOf x deeds) (alone o (tokens token))
  id : ∀ deeds e, (g.after deeds).session.execution? x = some e → e.id =
    if o.message.isParallel then o.behaviour.activity.id ++ "_" ++ tokens token
    else o.behaviour.activity.id
  token : o.message.isParallel = true → ∀ deeds, token < (g.after deeds).session.drawn

section Rounds

variable {g : Group} {o : Origin} {x token : Nat} {tokens : Nat → String}

/-- An execution that was just made is as the one that is alone. -/
theorem mirrors_alone {t : String} (made : g.session.execution? x = some (o.execution t))
    (none : g.made x = []) : Mirrors (g.made x) x g.session (alone o t) := by
  rw [none]
  refine ⟨?_, rfl, fun _ _ listed => nomatch listed⟩
  rw [made]
  rfl

/-- A fresh execution without receivers is isolated. -/
theorem Isolated.of_fresh (a : Apart g) (none : g.made x = [])
    (made : g.session.execution? x = some (o.execution (tokens token)))
    (drawn : o.message.isParallel = true → token < g.session.drawn) :
    Isolated tokens g x o token where
  made := made
  answers deeds := answers_eq (mirrors_alone made none) a (lt_length_of_there made) deeds
  id deeds e there := by
    obtain ⟨e₀, there₀, same⟩ := sameSetup_after (lt_length_of_there made) there
    cases made.symm.trans there₀
    exact same.id
  token parallel deeds := Nat.lt_of_lt_of_le (drawn parallel) (tokens_after g deeds).2

/-- A round that is made from an execution of a group is one of the origin, with the next token. -/
theorem Isolated.of_iterate {p : Nat} (kin : Kin o g) (a : Apart g)
    (there : (g.session.execution? p).isSome = true) (i : Iteration) :
    Isolated g.session.tokens (g.happen p (.iterate i)).2 g.session.members.length (o.round i)
      g.session.drawn := by
  have apart := a.happen p (.iterate i)
  obtain ⟨e, there⟩ := Option.isSome_iff_exists.mp there
  rw [g.happen_iterate, there] at apart ⊢
  refine .of_fresh apart (a.unborn _ (Nat.le_refl _)) ?_ fun parallel => ?_
  · dsimp only
    rw [execution?_add, if_pos rfl, ← kin p e there i]
    rfl
  · rw [← kin p e there i] at parallel
    exact (Nat.lt_succ_self _).trans_eq (if_pos parallel).symm

/-- Rounds are isolated. An execution and all rounds made from it, directly or from other rounds,
answer in any interleaving as each of them does alone: a round depends on the origin of all and on
its own iteration, and neither on the rounds it was made from nor on what was done to them. Of the
iteration it has `loop` and `item`, and the variables and services are those of the origin. -/
theorem rounds_are_isolated (tokens : Nat → String) (o : Origin) :
    Isolated tokens (.start tokens o) 0 o 0 ∧
      (∀ i, (o.round i).IsRoundOf o i) ∧
      ∀ before p i, let g := (Group.start tokens o).after before
        (g.session.execution? p).isSome = true →
          Isolated tokens (g.happen p (.iterate i)).2 g.session.members.length (o.round i)
            g.session.drawn := by
  refine ⟨?_, o.isRoundOf_round, ?_⟩
  · refine .of_fresh (.start tokens o) rfl rfl fun parallel => ?_
    exact Nat.zero_lt_one.trans_eq (if_pos parallel).symm
  · intro before p i g there
    have isolated := Isolated.of_iterate ((Kin.start tokens o).after before)
      ((Apart.start tokens o).after before) there i
    rwa [(tokens_after _ before).1] at isolated

/-- A round of a round, made when the first execution was suspended and dropped and another round
was carried out beside its parent. -/
theorem triage_rounds_are_isolated :
    let o := (Execution.triageStart .strict).origin
    let g := (Group.start toString o).after [(0, .event .postpone rfl),
      (0, .iterate (.parallel 0)), (0, .iterate (.parallel 1)), (1, .event .postpone rfl),
      (0, .event .drop rfl)]
    Isolated toString (g.happen 1 (.iterate (.sequential 7))).2 3 (o.round (.sequential 7)) 2 := by
  intro o g
  exact (rounds_are_isolated toString o).2.2 [(0, .event .postpone rfl),
    (0, .iterate (.parallel 0)), (0, .iterate (.parallel 1)), (1, .event .postpone rfl),
    (0, .event .drop rfl)] 1 (.sequential 7) rfl

end Rounds

end Rounds

end ProcessStep
