import ProcessStep.Proofs.Rounds.Group

/-!
Executions that are kept apart. `Change` lists what an event can do to the executions of a session
(`change_of_happen`), and `receivers_of_turn` says which receivers it leaves alone. From both it
follows that no two executions of a group ever have a receiver in common (`Apart`), and that what
is done to one execution is seen neither at another one nor at its receivers.
-/

namespace ProcessStep

open Waiting (Event Outcome Entry Turn report)

namespace Rounds

/-! ### What an event changes -/

section Executions

variable {s : Session} {n x : Nat}

theorem execution?_put_of_ne (other : x ≠ n) (e : Execution) :
    (s.put n e).execution? x = s.execution? x := by
  simp [Session.execution?, Session.put, other.symm]

theorem execution?_drop_of_ne (other : x ≠ n) : (s.drop n).execution? x = s.execution? x := by
  simp [Session.execution?, Session.drop, other.symm]

/-- An execution that is added stands behind the others, which stay as they are. -/
theorem execution?_add (s : Session) (make : String → Execution) (journal : Option Nat)
    (x : Nat) :
    (s.add make journal).2.execution? x =
      if x = s.members.length then some (make (s.tokens s.drawn)) else s.execution? x := by
  rw [Session.execution?, Session.execution?, Session.add]
  rcases Nat.lt_trichotomy x s.members.length with less | rfl | more
  · rw [if_neg (Nat.ne_of_lt less), List.getElem?_append_left less]
  · simp
  · rw [if_neg (Nat.ne_of_gt more), List.getElem?_eq_none (by simp; omega),
      List.getElem?_eq_none (by omega)]

theorem lt_length_of_there {e : Execution} (there : s.execution? x = some e) :
    x < s.members.length := by
  obtain ⟨member, found, _⟩ := Option.bind_eq_some_iff.mp there
  exact (List.getElem?_eq_some_iff.mp found).1

end Executions

/-- What an event changes beside receivers: at most the execution `n`, by an operation or by
dropping it. -/
inductive Change (n : Nat) (s : Session) : Session → Prop where
  | none (rs : Receivers) : Change n s { s with receivers := rs }
  | effect (e : Execution) (op : Operation) (there : s.execution? n = some e) (rs : Receivers) :
      Change n s { s.put n (op.effect e) with receivers := rs }
  | dropped (rs : Receivers) : Change n s { s.drop n with receivers := rs }

section Changes

variable {s s' : Session} {n x : Nat}

theorem Change.of_effect {e e' : Execution} (there : s.execution? n = some e) (op : Operation)
    (after : op.effect e = e') (rs : Receivers) :
    Change n s { s.put n e' with receivers := rs } := by
  rw [← after]
  exact .effect e op there rs

theorem change_of_complete (n : Nat) (c : Completion) (s : Session) :
    Change n s (report s .completed (s.complete n c)).2 := by
  unfold Session.complete
  cases there : s.execution? n with
  | none => exact .none s.receivers
  | some e =>
      rw [Option.map_some]
      rcases outcome : e.complete with ⟨_ | _, e'⟩ <;>
      · have after : Operation.complete.effect e = e' := congrArg Prod.snd outcome
        exact .of_effect there .complete after _

/-- All that can happen, but for another answer of the services, is a change of one execution. -/
theorem change_of_happen {ev : Event} (steady : ev.serves = false) (n : Nat) (s : Session) :
    Change n s (ev.happen n s).2 := by
  cases ev with
  | postpone =>
      show Change n s (report s .postponed (s.postpone n)).2
      unfold Session.postpone
      cases there : s.execution? n with
      | none => exact .none s.receivers
      | some e =>
          rw [Option.map_some]
          rcases outcome : e.postpone s.receivers.length with ⟨x | ⟨⟩, e'⟩
          all_goals
            have after : (Operation.postpone s.receivers.length).effect e = e' :=
              congrArg Prod.snd outcome
            exact .of_effect there _ after _
  | signal v => exact change_of_complete n (.ok (some v)) s
  | fail f => exact change_of_complete n (.error f) s
  | complete c => exact change_of_complete n c s
  | receive r =>
      show Change n s (report s .received (s.receive r)).2
      unfold Session.receive
      cases s.receivers.receive? r with
      | none => exact .none s.receivers
      | some answered => exact .none _
  | dropReceiver r => exact .none _
  | drop => exact .dropped _
  | serve => cases steady
  | meanwhile op apart =>
      show Change n s (report s .answered (s.run n op.perform)).2
      cases there : s.execution? n with
      | none =>
          rw [Session.run, there]
          exact .none s.receivers
      | some e =>
          rw [Session.run_of_some there]
          exact .effect e op there _

namespace Change

/-- A change of one execution leaves the others as they are. -/
theorem execution?_of_ne (c : Change n s s') (other : x ≠ n) :
    s'.execution? x = s.execution? x := by
  cases c with
  | none => rfl
  | effect e op => exact execution?_put_of_ne other _
  | dropped => exact execution?_drop_of_ne other

/-- An execution that is still there is set up as before. -/
theorem sameSetup (c : Change n s s') {e' : Execution} (there' : s'.execution? n = some e') :
    ∃ e, s.execution? n = some e ∧ SameSetup e e' := by
  cases c with
  | none => exact ⟨e', there', .refl e'⟩
  | effect e op there =>
      have same : (s.put n (op.effect e)).execution? n = some e' := there'
      rw [Session.execution?_put there] at same
      cases same
      exact ⟨e, there, .effect op e⟩
  | dropped =>
      have none : (s.drop n).execution? n = some e' := there'
      rw [Session.execution?_drop] at none
      cases none

/-- A change adds no execution. -/
theorem length_members (c : Change n s s') : s'.members.length = s.members.length := by
  cases c with
  | none => rfl
  | effect => exact Session.length_members_put s n _
  | dropped => simp [Session.drop]

theorem tokens (c : Change n s s') : s'.tokens = s.tokens ∧ s'.drawn = s.drawn := by
  cases c <;> exact ⟨rfl, rfl⟩

end Change

/-- In a group, too, an event changes the execution that it happens to. -/
theorem change_of_event (g : Group) (n : Nat) {ev : Event} (steady : ev.serves = false) :
    Change n g.session (g.happen n (.event ev steady)).2.session := by
  have steady' : (ev.renumbered (g.receiverOf n)).serves = false := by
    rw [ev.serves_renumbered, steady]
  exact change_of_happen steady' n g.session

/-! ### Receivers of their own -/

variable {ev : Event} {o : Outcome} {r : Nat}

/-- An event changes no receiver but the one that the execution waits for and the one that the
event names. -/
theorem receivers_of_turn (t : Turn n s ⟨ev, o⟩ s') (there : r < s.receivers.length)
    (unheld : ∀ id, s.standing n ≠ some (id, some (some r)))
    (unnamed : Entry.closes r ⟨ev, o⟩ = false) : s'.receivers[r]? = s.receivers[r]? := by
  cases t with
  | quiet _ _ _ _ _ receivers => rw [receivers]
  | postponed e present _ _ _ _ _ receivers =>
      have other : e.receiver? ≠ some r := fun waits => by
        rw [Execution.receiver?_eq_some_iff] at waits
        exact unheld e.id (by rw [Session.standing_of_some present, waits])
      rw [receivers, Receivers.getElem?_create, Receivers.length_abandon,
        if_neg (Nat.ne_of_lt there), Receivers.getElem?_abandon, if_neg other]
  | accepted e r' c present waits _ _ _ _ _ receivers =>
      have other : r' ≠ r := fun same =>
        unheld e.id (by rw [Session.standing_of_some present, waits, same])
      rw [receivers, Receivers.deliver, Receivers.getElem?_modify, if_neg other]
  | dropped _ _ _ _ _ receivers =>
      have other : (s.execution? n).bind (·.receiver?) ≠ some r := fun waits => by
        obtain ⟨e, present, waits⟩ := Option.bind_eq_some_iff.mp waits
        rw [Execution.receiver?_eq_some_iff] at waits
        exact unheld e.id (by rw [Session.standing_of_some present, waits])
      rw [receivers, Receivers.getElem?_abandon, if_neg other]
  | closed r' _ _ _ closes _ receivers =>
      rw [closes r, decide_eq_false_iff_not] at unnamed
      rw [receivers, Receivers.close, Receivers.getElem?_modify, if_neg unnamed]

/-- The receiver that an event makes comes behind all others. -/
theorem length_of_turn (t : Turn n s ⟨ev, o⟩ s') :
    (o.made? = none ∧ s'.receivers.length = s.receivers.length) ∨
      o.made? = some s.receivers.length ∧ s'.receivers.length = s.receivers.length + 1 := by
  cases t with
  | quiet none _ _ _ _ receivers => exact .inl ⟨none, by rw [receivers]⟩
  | postponed e _ made _ _ _ _ receivers =>
      exact .inr ⟨made, by simp [receivers, Receivers.create]⟩
  | accepted _ _ _ _ _ none _ _ _ _ receivers => exact .inl ⟨none, by simp [receivers]⟩
  | dropped none _ _ _ _ receivers => exact .inl ⟨none, by simp [receivers]⟩
  | closed _ none _ _ _ _ receivers => exact .inl ⟨none, by simp [receivers]⟩

/-- After an event the execution waits for a receiver that the event made, or for the same one as
before. -/
theorem standing_of_turn (t : Turn n s ⟨ev, o⟩ s') {id : String}
    (waits : s'.standing n = some (id, some (some r))) :
    o.made? = some r ∨ s.standing n = some (id, some (some r)) := by
  cases t with
  | quiet _ _ _ _ standing | closed _ _ _ _ _ standing => exact .inr (standing ▸ waits)
  | postponed e _ made _ _ _ standing =>
      rw [standing] at waits
      cases waits
      exact .inl made
  | accepted _ _ _ _ _ _ _ _ _ standing =>
      rw [standing] at waits
      cases waits
  | dropped _ _ _ _ standing =>
      rw [standing] at waits
      cases waits

end Changes

/-- No two executions have a receiver in common, and each waits for one of its own. -/
structure Apart (g : Group) : Prop where
  bounded : ∀ n, ∀ r ∈ g.made n, r < g.session.receivers.length
  distinct : ∀ n, (g.made n).Nodup
  disjoint : ∀ n n' r, r ∈ g.made n → r ∈ g.made n' → n = n'
  held : ∀ n id r, g.session.standing n = some (id, some (some r)) → r ∈ g.made n
  unborn : ∀ n, g.session.members.length ≤ n → g.made n = []

namespace Apart

variable {g : Group} {n x r : Nat} {s' : Session} {ev : Event} {o : Outcome}

/-- A group after an event. -/
theorem of_turn (a : Apart g) (t : Turn n g.session ⟨ev, o⟩ s') (c : Change n g.session s') :
    Apart ⟨s', fun x => if x = n then g.made n ++ o.made?.toList else g.made x⟩ := by
  have mem (x r : Nat) : (r ∈ if x = n then g.made n ++ o.made?.toList else g.made x) ↔
      r ∈ g.made x ∨ x = n ∧ o.made? = some r := by
    by_cases own : x = n <;> simp [own]
  have new (r : Nat) (made : o.made? = some r) :
      r = g.session.receivers.length ∧ s'.receivers.length = g.session.receivers.length + 1 := by
    rcases length_of_turn t with ⟨none, _⟩ | ⟨made', length⟩
    · cases none.symm.trans made
    · cases made'.symm.trans made
      exact ⟨rfl, length⟩
  -- what is made is new, so no execution has it already
  have fresh (x r : Nat) (old : r ∈ g.made x) : o.made? ≠ some r := fun made =>
    Nat.ne_of_lt (a.bounded x r old) (new r made).1
  constructor
  · intro x r member
    rcases (mem x r).mp member with old | ⟨rfl, made⟩
    · have bound := a.bounded x r old
      rcases length_of_turn t with ⟨_, length⟩ | ⟨_, length⟩ <;> rw [length] <;> omega
    · obtain ⟨rfl, length⟩ := new r made
      rw [length]
      exact Nat.lt_succ_self _
  · intro x
    dsimp only
    split
    · have single : o.made?.toList.Nodup := by cases o.made? <;> simp
      refine List.nodup_append.mpr ⟨a.distinct n, single, fun r old r' made same => ?_⟩
      subst same
      exact fresh n r old (Option.mem_toList.mp made)
    · exact a.distinct x
  · intro x x' r member member'
    rcases (mem x r).mp member with old | ⟨rfl, made⟩
    · rcases (mem x' r).mp member' with old' | ⟨_, made'⟩
      · exact a.disjoint x x' r old old'
      · exact absurd made' (fresh x r old)
    · rcases (mem x' r).mp member' with old' | ⟨rfl, _⟩
      · exact absurd made (fresh x' r old')
      · rfl
  · intro x id r waits
    refine (mem x r).mpr ?_
    by_cases own : x = n
    · subst own
      rcases standing_of_turn t waits with made | waits
      · exact .inr ⟨rfl, made⟩
      · exact .inl (a.held x id r waits)
    · refine .inl (a.held x id r ?_)
      rwa [Session.standing, c.execution?_of_ne own] at waits
  · intro x outside
    rw [c.length_members] at outside
    refine List.eq_nil_iff_forall_not_mem.mpr fun r member => ?_
    rcases (mem x r).mp member with old | ⟨rfl, made⟩
    · rw [a.unborn x outside] at old
      cases old
    · obtain ⟨_, e, there, _⟩ := t.of_made made
      exact Nat.not_le_of_lt (lt_length_of_there there) outside

theorem happen (a : Apart g) (n : Nat) (d : Deed) : Apart (g.happen n d).2 := by
  cases d with
  | event ev steady =>
      exact a.of_turn (Waiting.turn_of_happen _ n g.session) (change_of_event g n steady)
  | iterate i =>
      rw [g.happen_iterate]
      cases g.session.execution? n with
      | none => exact a
      | some e =>
          refine { a with held := fun x id r waits => ?_, unborn := fun x outside => ?_ }
          · rw [Session.standing, execution?_add] at waits
            split at waits
            · cases waits
            · exact a.held x id r waits
          · refine a.unborn x (Nat.le_of_succ_le ?_)
            simpa [Session.add] using outside

theorem after (a : Apart g) (deeds : List (Nat × Deed)) : Apart (g.after deeds) := by
  induction deeds generalizing g with
  | nil => exact a
  | cons d deeds ih => exact ih (a.happen d.1 d.2)

theorem start (tokens : Nat → String) (o : Origin) : Apart (.start tokens o) := by
  refine ⟨?_, ?_, ?_, ?_, ?_⟩
  · exact fun _ _ member => nomatch member
  · exact fun _ => .nil
  · exact fun _ _ _ member => nomatch member
  · intro n id r waits
    rw [Session.standing, Group.start, execution?_add] at waits
    split at waits
    · cases waits
    · cases waits
  · exact fun _ _ => rfl

end Apart

/-! ### What is done to others -/

section Others

variable {g : Group} {n x r : Nat}

/-- A renumbered event closes only receivers of its own numbers. -/
theorem closes_renumbered {ev : Event} {number : Nat → Nat} {o : Outcome}
    (closes : Entry.closes r ⟨ev.renumbered number, o⟩ = true) : ∃ k, number k = r := by
  cases ev with
  | receive k =>
      cases o with
      | received answer =>
          cases answer with
          | completed | abandoned => exact ⟨k, of_decide_eq_true closes⟩
          | pending | gone => cases closes
      | _ => cases closes
  | dropReceiver k => exact ⟨k, of_decide_eq_true closes⟩
  | _ => cases closes

/-- No other execution has a receiver that is named for the execution `n`. -/
theorem receiverOf_ne (a : Apart g) (other : x ≠ n) (member : r ∈ g.made x) (k : Nat) :
    g.receiverOf n k ≠ r := by
  unfold Group.receiverOf
  cases own : (g.made n)[k]? with
  | none => exact fun same => Nat.ne_of_lt (a.bounded x r member) same.symm
  | some r' =>
      rintro rfl
      exact other (a.disjoint x n _ member (List.mem_of_getElem? own))

theorem execution?_iterate (there : x < g.session.members.length) (i : Iteration) :
    (g.happen n (.iterate i)).2.session.execution? x = g.session.execution? x := by
  rw [g.happen_iterate]
  cases g.session.execution? n with
  | none => rfl
  | some e =>
      dsimp only
      rw [execution?_add, if_neg (Nat.ne_of_lt there)]

/-- What is done to one execution is not seen at another. -/
theorem execution?_happen_of_ne (there : x < g.session.members.length) (other : x ≠ n)
    (d : Deed) : (g.happen n d).2.session.execution? x = g.session.execution? x := by
  cases d with
  | event ev steady =>
      exact (change_of_event g n steady).execution?_of_ne other
  | iterate i => exact execution?_iterate there i

/-- What is done to one execution is not seen at the receivers of another. -/
theorem receivers_happen_of_ne (a : Apart g) (other : x ≠ n) (member : r ∈ g.made x) (d : Deed) :
    (g.happen n d).2.session.receivers[r]? = g.session.receivers[r]? := by
  cases d with
  | event ev steady =>
      refine receivers_of_turn (Waiting.turn_of_happen _ n g.session) (a.bounded x r member) ?_ ?_
      · intro id waits
        exact other (a.disjoint x n r member (a.held n id r waits))
      · by_contra closes
        rw [Bool.not_eq_false] at closes
        obtain ⟨k, named⟩ := closes_renumbered closes
        exact receiverOf_ne a other member k named
  | iterate i =>
      rw [g.happen_iterate]
      cases g.session.execution? n <;> rfl

/-- Nothing changes how an execution was set up. -/
theorem sameSetup_happen {e' : Execution} (there : x < g.session.members.length) (d : Deed)
    (there' : (g.happen n d).2.session.execution? x = some e') :
    ∃ e, g.session.execution? x = some e ∧ SameSetup e e' := by
  by_cases own : x = n
  · subst own
    cases d with
    | event ev steady =>
        exact (change_of_event g x steady).sameSetup there'
    | iterate i =>
        rw [execution?_iterate there] at there'
        exact ⟨e', there', .refl e'⟩
  · rw [execution?_happen_of_ne there own] at there'
    exact ⟨e', there', .refl e'⟩

/-- Executions may be added, but none goes away. -/
theorem length_members_happen (g : Group) (n : Nat) (d : Deed) :
    g.session.members.length ≤ (g.happen n d).2.session.members.length := by
  cases d with
  | event ev steady =>
      exact (change_of_event g n steady).length_members.ge
  | iterate i =>
      rw [g.happen_iterate]
      cases g.session.execution? n with
      | none => exact Nat.le_refl _
      | some e => simp [Session.add]

/-- No token is given back. -/
theorem tokens_happen (g : Group) (n : Nat) (d : Deed) :
    (g.happen n d).2.session.tokens = g.session.tokens ∧
      g.session.drawn ≤ (g.happen n d).2.session.drawn := by
  cases d with
  | event ev steady =>
      obtain ⟨tokens, drawn⟩ := (change_of_event g n steady).tokens
      exact ⟨tokens, drawn.ge⟩
  | iterate i =>
      rw [g.happen_iterate]
      cases g.session.execution? n with
      | none => exact ⟨rfl, Nat.le_refl _⟩
      | some e =>
          refine ⟨rfl, ?_⟩
          dsimp only [Session.add]
          split
          · exact Nat.le_succ _
          · exact Nat.le_refl _

/-! ### Many deeds -/

/-- Whatever is done to a group, its executions stay set up as they were. -/
theorem sameSetup_after {e' : Execution} {deeds : List (Nat × Deed)}
    (there : x < g.session.members.length)
    (there' : (g.after deeds).session.execution? x = some e') :
    ∃ e, g.session.execution? x = some e ∧ SameSetup e e' := by
  induction deeds generalizing g with
  | nil => exact ⟨e', there', .refl e'⟩
  | cons d deeds ih =>
      have more := Nat.lt_of_lt_of_le there (length_members_happen g d.1 d.2)
      obtain ⟨e₁, there₁, same₁⟩ := ih more there'
      obtain ⟨e, there, same⟩ := sameSetup_happen there d.2 there₁
      exact ⟨e, there, same.trans same₁⟩

/-- Tokens are drawn from one supply, and none comes back. -/
theorem tokens_after (g : Group) (deeds : List (Nat × Deed)) :
    (g.after deeds).session.tokens = g.session.tokens ∧
      g.session.drawn ≤ (g.after deeds).session.drawn := by
  induction deeds generalizing g with
  | nil => exact ⟨rfl, Nat.le_refl _⟩
  | cons d deeds ih =>
      obtain ⟨tokens, drawn⟩ := tokens_happen g d.1 d.2
      obtain ⟨tokens', drawn'⟩ := ih (g.happen d.1 d.2).2
      exact ⟨tokens'.trans tokens, Nat.le_trans drawn drawn'⟩

end Others

/-! ### The origin of all rounds -/

/-- The rounds that can be made from any execution of a group are those of the origin. -/
def Kin (o : Origin) (g : Group) : Prop :=
  ∀ x e, g.session.execution? x = some e → ∀ i, e.origin.round i = o.round i

namespace Kin

variable {o : Origin} {g : Group}

theorem happen (kin : Kin o g) (n : Nat) (d : Deed) : Kin o (g.happen n d).2 := by
  intro x e' there' i
  by_cases there : x < g.session.members.length
  · obtain ⟨e, there, same⟩ := sameSetup_happen there d there'
    rw [same.origin, kin x e there i]
  · cases d with
    | event ev steady =>
        have bound := lt_length_of_there there'
        rw [(change_of_event g n steady).length_members] at bound
        exact absurd bound there
    | iterate j =>
        rw [g.happen_iterate] at there'
        cases present : g.session.execution? n with
        | none =>
            rw [present] at there'
            exact absurd (lt_length_of_there there') there
        | some e =>
            rw [present] at there'
            dsimp only at there'
            rw [execution?_add] at there'
            split at there'
            · cases there'
              -- a round of a round is one of the execution that this was made from
              exact kin n e present i
            · exact absurd (lt_length_of_there there') there

theorem after (kin : Kin o g) (deeds : List (Nat × Deed)) : Kin o (g.after deeds) := by
  induction deeds generalizing g with
  | nil => exact kin
  | cons d deeds ih => exact ih (kin.happen d.1 d.2)

theorem start (tokens : Nat → String) (o : Origin) : Kin o (.start tokens o) := by
  intro x e there i
  rw [Group.start, execution?_add] at there
  split at there
  · cases there
    rfl
  · cases there

end Kin

end Rounds

end ProcessStep
