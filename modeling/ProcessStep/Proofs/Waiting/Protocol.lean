import ProcessStep.Proofs.Waiting.Turn

/-!
The rules of waiting. `Consistent` ties an execution and all the receivers ever made for it to
what happened so far; every turn keeps it (`Consistent.turn`), and so it holds after all events
in any order. Completions are then answered by the `verdict` of the history, and every receiver
has its `fate` to say.
-/

namespace ProcessStep

namespace Waiting

open History

/-- What an answer that is to be given stands for in the mailbox of a receiver. -/
def settled : Reception → Mailbox
  | .pending => .waiting
  | .completed c => .delivered c
  | .abandoned _ => .abandoned
  | .gone => .closed

/-- What the mailbox of a receiver holds after a history. -/
def History.mailbox (id : String) (h : History) (r : Nat) : Mailbox :=
  if isClosed r h then .closed else settled (fate id h r)

/-- What happened since the latest postponement, told by how the execution waits. -/
def Stands (id : String) (h : History) : Option (Option Nat) → Prop
  | none => h.postponed = false
  | some none => h.postponed = true ∧ h.sincePostponed.any (·.accepted?.isSome) = true
  | some (some r) =>
      Made r h ∧ fate id h r = .pending ∧ h.sincePostponed.any (·.accepted?.isSome) = false

/-- The execution `n` and its receivers are as the history tells. -/
structure Consistent (n : Nat) (id : String) (h : History) (s : Session) : Prop where
  gone : h.dropped = true → s.standing n = none
  stands : h.dropped = false → ∃ w, s.standing n = some (id, w) ∧ Stands id h w
  /-- A receiver that still has nothing to say is the one that the execution waits for. -/
  pending : ∀ r, Made r h → fate id h r = .pending → s.standing n = some (id, some (some r))
  receivers : ∀ r, Made r h → s.receivers[r]? = some ⟨id, h.mailbox id r⟩
  once : ∀ r, Made r h → (h.term r).countP (·.accepted?.isSome) ≤ 1
  distinct : (h.filterMap (·.made?)).Nodup

/-! ### One more entry -/

variable {n : Nat} {id : String} {r : Nat} {h : History} {s s' : Session} {x : Entry}

/-- A receiver goes on waiting only if nothing is accepted, made or dropped. -/
theorem turn_eq_pending_iff {answer : Reception} :
    turn id x answer = .pending ↔
      answer = .pending ∧ x.accepted? = none ∧ x.made? = none ∧ x.drops = false := by
  cases answer with
  | pending =>
      cases accepted : x.accepted? <;> cases made : x.made? <;> cases drops : x.drops <;>
        simp [turn, accepted, made, drops]
  | _ => simp [turn]

/-- A mailbox that was settled stays so; it is changed further only by closing it. -/
theorem mailbox_concat (other : x.made? ≠ some r)
    (there : x.accepted?.isSome = true → h.dropped = false) :
    History.mailbox id (h ++ [x]) r =
      if x.closes r then .closed else
        match h.mailbox id r with
        | .waiting => settled (turn id x .pending)
        | m => m := by
  unfold History.mailbox
  rw [isClosed_concat other, fate_concat other there]
  cases isClosed r h with
  | true => simp
  | false =>
      cases x.closes r with
      | true => simp
      | false => cases fate id h r <;> rfl

theorem mailbox_of_made (made : x.made? = some r) :
    History.mailbox id (h ++ [x]) r = .waiting := by
  simp [History.mailbox, isClosed_of_made made, fate_of_made made, settled]

theorem fate_of_mailbox_waiting (waiting : h.mailbox id r = .waiting) :
    fate id h r = .pending := by
  unfold History.mailbox at waiting
  split at waiting
  · cases waiting
  · cases fated : fate id h r <;> rw [fated] at waiting <;> first | rfl | cases waiting

theorem Stands.concat {w : Option (Option Nat)} (stands : Stands id h w)
    (made : x.made? = none) (accepted : x.accepted? = none) (drops : x.drops = false) :
    Stands id (h ++ [x]) w := by
  have same : (sincePostponed (h ++ [x])).any (·.accepted?.isSome) =
      h.sincePostponed.any (·.accepted?.isSome) := by
    rw [sincePostponed_of_none made]
    simp [accepted]
  rcases w with _ | _ | r
  · simpa [Stands, postponed_concat, made] using stands
  · obtain ⟨postponed, completed⟩ := stands
    exact ⟨by simp [postponed_concat, postponed], same.trans completed⟩
  · obtain ⟨member, pending, none⟩ := stands
    refine ⟨made_concat.mpr (.inl member), ?_, same.trans none⟩
    rw [fate_concat (by simp [made]) (by simp [accepted])]
    exact turn_eq_pending_iff.mpr ⟨pending, accepted, made, drops⟩

namespace Consistent

theorem not_dropped (c : Consistent n id h s) {e : Execution} (there : s.execution? n = some e) :
    h.dropped = false := by
  by_contra dropped
  have none := c.gone (by simpa using dropped)
  rw [Session.standing_of_some there] at none
  cases none

/-- The id of an execution that is there, and what its way of waiting tells. -/
theorem of_there (c : Consistent n id h s) {e : Execution} (there : s.execution? n = some e) :
    e.id = id ∧ Stands id h e.wait? := by
  obtain ⟨w, standing, stands⟩ := c.stands (c.not_dropped there)
  rw [Session.standing_of_some there] at standing
  cases standing
  exact ⟨rfl, stands⟩

/-- A completion is accepted by an execution that is there. -/
theorem there_of_accepted (c : Consistent n id h s) (t : Turn n s x s') :
    x.accepted?.isSome = true → h.dropped = false := by
  intro accepted
  obtain ⟨e, r₀, there, _⟩ := t.of_accepted accepted
  exact c.not_dropped there

/-- A new receiver is none of those that were made before. -/
theorem length_ne (c : Consistent n id h s) (made : Made r h) : s.receivers.length ≠ r := by
  have bound := (List.getElem?_eq_some_iff.mp (c.receivers r made)).1
  exact (Nat.ne_of_lt bound).symm

/-! ### One more turn -/

/-- Once dropped, an execution is not there any more. -/
theorem gone_turn (c : Consistent n id h s) (t : Turn n s x s') :
    dropped (h ++ [x]) = true → s'.standing n = none := by
  intro dropped
  rw [dropped_concat] at dropped
  cases t with
  | dropped _ _ _ _ standing => exact standing
  | quiet _ _ drops _ standing | closed _ _ _ drops _ standing =>
      rw [standing]
      exact c.gone (by simpa [drops] using dropped)
  | postponed e there _ _ drops | accepted e _ _ there _ _ _ drops =>
      rw [c.not_dropped there, drops] at dropped
      cases dropped

/-- How the execution waits is told by its history after a further event, too. -/
theorem stands_turn (c : Consistent n id h s) (t : Turn n s x s') :
    dropped (h ++ [x]) = false → ∃ w, s'.standing n = some (id, w) ∧ Stands id (h ++ [x]) w := by
  intro kept
  rw [dropped_concat, Bool.or_eq_false_iff] at kept
  obtain ⟨w, standing, stands⟩ := c.stands kept.1
  cases t with
  | quiet made accepted drops _ same | closed _ made accepted drops _ same =>
      exact ⟨w, same.trans standing, stands.concat made accepted drops⟩
  | postponed e there made _ _ _ standing' =>
      rw [(c.of_there there).1] at standing'
      refine ⟨_, standing', made_concat.mpr (.inr made), fate_of_made made, ?_⟩
      rw [sincePostponed_of_made made]
      rfl
  | accepted e r c' there waits made accepted _ _ standing' =>
      obtain ⟨same, member, _⟩ := waits ▸ c.of_there there
      rw [same] at standing'
      refine ⟨_, standing', ?_, ?_⟩
      · rw [postponed_concat, postponed_of_made member]
        rfl
      · rw [sincePostponed_of_none made]
        simp [accepted]
  | dropped _ _ drops =>
      rw [drops] at kept
      cases kept.2

/-- A receiver that has nothing to say is the one that the execution waits for. -/
theorem pending_turn (c : Consistent n id h s) (t : Turn n s x s') (r : Nat) :
    Made r (h ++ [x]) → fate id (h ++ [x]) r = .pending →
      s'.standing n = some (id, some (some r)) := by
  intro member pending
  by_cases made : x.made? = some r
  · obtain ⟨_, e, there, standing, _⟩ := t.of_made made
    rw [standing, (c.of_there there).1]
  · rw [fate_concat made (c.there_of_accepted t), turn_eq_pending_iff] at pending
    obtain ⟨pending, accepted, unmade, drops⟩ := pending
    rw [t.standing_eq unmade accepted drops]
    exact c.pending r ((made_concat.mp member).resolve_right made) pending

/-- Changing the mailbox that the execution waits for, and only while it waits, changes the one
that is still pending and no other. -/
theorem receivers_settle (c : Consistent n id h s) (member : Made r h) {w : Option Nat}
    {m : Mailbox} {f : Receiver → Receiver} (first : f ⟨id, .waiting⟩ = ⟨id, m⟩)
    (later : ∀ m', m' ≠ .waiting → f ⟨id, m'⟩ = ⟨id, m'⟩)
    (waiting : s.standing n = some (id, some (some r)) → w = some r) :
    (if w = some r then s.receivers[r]?.map f else s.receivers[r]?) =
      some ⟨id, match h.mailbox id r with
        | .waiting => m
        | m' => m'⟩ := by
  rw [c.receivers r member]
  by_cases pending : h.mailbox id r = .waiting
  · rw [if_pos (waiting (c.pending r member (fate_of_mailbox_waiting pending))), pending]
    exact congrArg some first
  · rw [Option.map_some, later _ pending, ite_self]
    cases held : h.mailbox id r with
    | waiting => exact absurd held pending
    | _ => rfl

/-- Leaving the execution abandons the receiver that is still pending and no other. -/
theorem receivers_abandon (c : Consistent n id h s) (member : Made r h) :
    (s.receivers.abandon ((s.execution? n).bind (·.receiver?)))[r]? =
      some ⟨id, match h.mailbox id r with
        | .waiting => .abandoned
        | m => m⟩ := by
  rw [Receivers.getElem?_abandon]
  refine c.receivers_settle member rfl (fun m settled => ?_) Session.receiver?_of_standing
  cases m with
  | waiting => exact absurd rfl settled
  | _ => rfl

/-- A completion reaches the receiver that is still pending and no other. -/
theorem receivers_deliver (c : Consistent n id h s) (member : Made r h) {e : Execution}
    {r₀ : Nat} (there : s.execution? n = some e) (waits : e.wait? = some (some r₀))
    (c₀ : Completion) :
    (s.receivers.deliver r₀ c₀)[r]? =
      some ⟨id, match h.mailbox id r with
        | .waiting => .delivered c₀
        | m => m⟩ := by
  rw [Receivers.deliver, Receivers.getElem?_modify]
  have kept := c.receivers_settle member (w := some r₀) (m := .delivered c₀)
    (f := Receiver.deliver c₀) rfl (fun m settled => ?_) fun standing => ?_
  · simpa only [Option.some.injEq] using kept
  · cases m with
    | waiting => exact absurd rfl settled
    | _ => rfl
  · rw [Session.standing_of_some there, waits] at standing
    cases standing
    rfl

/-- Every receiver holds what its history leaves it to say. -/
theorem receivers_turn (c : Consistent n id h s) (t : Turn n s x s') (r : Nat) :
    Made r (h ++ [x]) → s'.receivers[r]? = some ⟨id, History.mailbox id (h ++ [x]) r⟩ := by
  intro member
  by_cases made : x.made? = some r
  · obtain ⟨new, e, there, _, receivers⟩ := t.of_made made
    rw [mailbox_of_made made, receivers, (c.of_there there).1, Receivers.getElem?_create,
      Receivers.length_abandon, if_pos new]
  · replace member := (made_concat.mp member).resolve_right made
    rw [mailbox_concat made (c.there_of_accepted t)]
    cases t with
    | quiet unmade accepted drops closes _ receivers =>
        rw [receivers, c.receivers r member]
        cases h.mailbox id r <;> simp [closes, turn, accepted, unmade, drops, settled]
    | postponed e there new accepted drops closes _ receivers =>
        have left := c.receivers_abandon member
        rw [there, Option.bind_some] at left
        rw [receivers, Receivers.getElem?_create, Receivers.length_abandon,
          if_neg (c.length_ne member).symm, left]
        simp [closes, turn, accepted, new, settled]
    | accepted e r₀ c₀ there waits unmade accepted drops closes _ receivers =>
        rw [receivers, c.receivers_deliver member there waits]
        simp [closes, turn, accepted, settled]
    | dropped unmade accepted drops closes _ receivers =>
        rw [receivers, c.receivers_abandon member]
        simp [closes, turn, accepted, drops, settled]
    | closed r₀ unmade accepted drops closes _ receivers =>
        rw [receivers, Receivers.close, Receivers.getElem?_modify, c.receivers r member, closes]
        by_cases same : r₀ = r
        · simp [same, Receiver.close]
        · cases h.mailbox id r <;> simp [same, turn, accepted, unmade, drops, settled]

/-- A completion is accepted only if none was since the latest postponement. -/
theorem unaccepted (c : Consistent n id h s) (t : Turn n s x s')
    (accepted : x.accepted?.isSome = true) :
    h.sincePostponed.any (·.accepted?.isSome) = false := by
  obtain ⟨e, r₀, there, waits⟩ := t.of_accepted accepted
  obtain ⟨_, stands⟩ := c.of_there there
  rw [waits] at stands
  exact stands.2.2

/-- In the term of a receiver one completion is accepted at most. -/
theorem once_turn (c : Consistent n id h s) (t : Turn n s x s') (r : Nat) :
    Made r (h ++ [x]) → (term r (h ++ [x])).countP (·.accepted?.isSome) ≤ 1 := by
  intro member
  by_cases made : x.made? = some r
  · simp [term, sinceMade_of_made made]
  · replace member := (made_concat.mp member).resolve_right made
    have before := c.once r member
    rw [term_concat made]
    by_cases accepted : x.accepted?.isSome = true
    · split
      · next latest =>
          -- As the term goes on, it is all that happened since the latest postponement.
          have since : ∀ y ∈ sinceMade r h, y.made? = none := by
            simpa using (Bool.and_eq_true_iff.mp latest).1
          have none : (h.term r).countP (·.accepted?.isSome) = 0 := by
            rw [List.countP_eq_zero]
            intro y inTerm
            have inSince := (List.takeWhile_prefix _).subset inTerm
            rw [sinceMade_eq_sincePostponed member since] at inSince
            exact List.any_eq_false.mp (c.unaccepted t accepted) y inSince
          rw [List.countP_append, none, Nat.zero_add]
          exact List.countP_le_length
      · exact before
    · split
      · simpa [List.countP_append, accepted] using before
      · exact before

theorem distinct_turn (c : Consistent n id h s) (t : Turn n s x s') :
    ((h ++ [x]).filterMap (·.made?)).Nodup := by
  rw [List.filterMap_append]
  cases made : x.made? with
  | none => simpa [made] using c.distinct
  | some r =>
      rw [List.filterMap_cons_some made, List.filterMap_nil, List.nodup_append]
      refine ⟨c.distinct, by simp, ?_⟩
      rintro r₁ before r₂ last rfl
      obtain rfl := List.mem_singleton.mp last
      exact c.length_ne (List.mem_filterMap.mp before) (t.of_made made).1.symm

/-- Every turn keeps an execution and its receivers as the history tells. -/
theorem turn (c : Consistent n id h s) (t : Turn n s x s') : Consistent n id (h ++ [x]) s' where
  gone := c.gone_turn t
  stands := c.stands_turn t
  pending := c.pending_turn t
  receivers := c.receivers_turn t
  once := c.once_turn t
  distinct := c.distinct_turn t

/-- Whatever happens to an execution, it and its receivers are as the history tells. -/
theorem play (c : Consistent n id h s) (events : List Event) :
    Consistent n id (play n events h s).1 (play n events h s).2 := by
  induction events generalizing h s with
  | nil => exact c
  | cons ev events ih => exact ih (c.turn (turn_of_happen ev n s))

/-- An execution that was not postponed yet, before anything happens. -/
theorem start {e : Execution} (there : s.execution? n = some e)
    (fresh : e.postponement = none) : Consistent n e.id [] s where
  gone dropped := by cases dropped
  stands _ := by
    refine ⟨none, ?_, rfl⟩
    rw [Session.standing_of_some there, Execution.wait?, fresh]
    rfl
  pending r made := by
    obtain ⟨x, member, _⟩ := made
    cases member
  receivers r made := by
    obtain ⟨x, member, _⟩ := made
    cases member
  once r made := by
    obtain ⟨x, member, _⟩ := made
    cases member
  distinct := List.nodup_nil

/-! ### What is answered -/

/-- The answer to a completion is told by how the execution waits. -/
theorem verdict_eq (c : Consistent n id h s) {e : Execution} (there : s.execution? n = some e) :
    h.verdict id =
      match e.wait? with
      | none => .error (.notPostponed id)
      | some none => .error (.alreadyCompleted id)
      | some (some _) => .ok () := by
  obtain ⟨_, stands⟩ := c.of_there there
  unfold verdict
  rcases waits : e.wait? with _ | _ | r
  · rw [waits] at stands
    rw [show h.postponed = false from stands]
    rfl
  · rw [waits] at stands
    obtain ⟨postponed, completed⟩ := stands
    simp [postponed, completed]
  · rw [waits] at stands
    obtain ⟨member, _, none⟩ := stands
    rw [postponed_of_made member, none]
    rfl

/-- A completion is answered as the history has it, whichever way it is handed over. -/
theorem completed (c : Consistent n id h s) {e : Execution} (there : s.execution? n = some e)
    {ev : Event} {c' : Completion} (completes : ev.completion? = some c') :
    (ev.happen n s).1 = .completed (h.verdict id) := by
  have happens : ev.happen n s = report s .completed (s.complete n c') := by
    cases ev <;> cases completes <;> rfl
  obtain ⟨same, _⟩ := c.of_there there
  rw [happens, c.verdict_eq there, Session.complete, there, ← same]
  rcases waits : e.wait? with _ | _ | r
  · rw [Option.map_some, Execution.complete_of_wait_none waits]
    rfl
  · rw [Option.map_some, Execution.complete_of_wait_completed waits]
    rfl
  · obtain ⟨e', completed, _⟩ := Execution.complete_of_wait_some waits
    rw [Option.map_some, completed]
    rfl

/-- A step is suspended exactly if a completion would be accepted. -/
theorem isPostponed_iff (c : Consistent n id h s) {e : Execution}
    (there : s.execution? n = some e) : e.isPostponed = true ↔ h.verdict id = .ok () := by
  rw [Execution.isPostponed_eq_true_iff, c.verdict_eq there]
  rcases e.wait? with _ | _ | r <;> simp

/-- A receiver whose mailbox holds its fate says so. -/
theorem receive_settled_fate (id : String) (h : History) (r : Nat) :
    (Receiver.receive ⟨id, settled (fate id h r)⟩).1 = fate id h r := by
  unfold fate
  cases (h.term r).findSome? (·.accepted?) with
  | some c => rfl
  | none => cases isLeft r h <;> rfl

/-- A receiver says what became of its term, and says it once. -/
theorem received (c : Consistent n id h s) (member : Made r h) :
    ((Event.receive r).happen n s).1 =
      .received (if isClosed r h then .gone else fate id h r) := by
  have held := c.receivers r member
  show (report s .received (s.receive r)).1 = _
  simp only [Session.receive, Receivers.receive?, held, Option.map_some, report]
  unfold History.mailbox
  cases isClosed r h with
  | true => rfl
  | false => exact congrArg Outcome.received (receive_settled_fate id h r)

end Consistent

/-- The protocol of waiting. Let anything happen to an execution that was not postponed yet. As
long as it is there, a completion is answered by the verdict of the history, and the step waits
exactly when a completion would be accepted. Every receiver that was made is new, at most one
completion is accepted in its term, and it says its fate until it has answered or is dropped. -/
theorem verdict_and_fate_of_play {n : Nat} {s₀ s : Session} {e₀ : Execution}
    {events : List Event} {h : History} (there : s₀.execution? n = some e₀)
    (fresh : e₀.postponement = none) (played : play n events [] s₀ = (h, s)) :
    (h.dropped = false → ∃ e, s.execution? n = some e ∧
        (∀ ev c, Event.completion? ev = some c →
          (ev.happen n s).1 = .completed (h.verdict e₀.id)) ∧
        (e.isPostponed = true ↔ h.verdict e₀.id = .ok ())) ∧
      (h.filterMap (·.made?)).Nodup ∧
      ∀ r, Made r h →
        (h.term r).countP (·.accepted?.isSome) ≤ 1 ∧
        ((Event.receive r).happen n s).1 =
          .received (if isClosed r h then .gone else fate e₀.id h r) := by
  have c : Consistent n e₀.id h s := by
    have c := (Consistent.start there fresh).play events
    rwa [played] at c
  refine ⟨fun kept => ?_, c.distinct, fun r made => ⟨c.once r made, c.received made⟩⟩
  obtain ⟨w, standing, _⟩ := c.stands kept
  obtain ⟨e, there', _⟩ := Option.map_eq_some_iff.mp standing
  exact ⟨e, there', fun ev c' completes => c.completed there' completes, c.isPostponed_iff there'⟩

/-- A session with one fresh execution of an activity that has neither flows nor a form. -/
def solo : Session :=
  ((Session.empty fun _ => "").add
    (Execution.start ⟨Activity.link [] (.ofType "review" "userTask"), none⟩ .empty
      (.ofVariables []))
    none).2

/-- The first receiver of a step that was completed, suspended again and dropped still yields the
completion; the second one was abandoned. -/
theorem solo_verdict_and_fate :
    let s := (play 0 [.postpone, .signal (.bool true), .postpone, .drop] [] solo).2
    ((Event.receive 0).happen 0 s).1 = .received (.completed (.ok (some (.bool true)))) ∧
      ((Event.receive 1).happen 0 s).1 = .received (.abandoned (.abandoned "review")) := by
  intro s
  have there : solo.execution? 0 = some _ := rfl
  have played : play 0 [.postpone, .signal (.bool true), .postpone, .drop] [] solo = (_, s) := rfl
  obtain ⟨_, _, receivers⟩ := verdict_and_fate_of_play there rfl played
  have first := (receivers 0 ⟨_, .head _, rfl⟩).2
  have second := (receivers 1 ⟨_, .tail _ (.tail _ (.head _)), rfl⟩).2
  exact ⟨first, second⟩

end Waiting

end ProcessStep
