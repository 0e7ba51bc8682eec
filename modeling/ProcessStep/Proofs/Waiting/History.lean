import Mathlib.Data.List.DropRight
import ProcessStep.Execution.Session
import ProcessStep.Proofs.Operation

/-!
What happens to an execution that waits, and to its receivers. `Event` lists what its owner, the
holders of its receivers and the services can do in any order; `play` carries events out and
writes down what each was answered.

The rules of waiting are stated on such a history alone, without looking at the execution:
`verdict` is the answer to a completion, and `fate` is what a receiver has to say. Neither
remembers anything but the order of what succeeded.
-/

namespace ProcessStep

open Definition (Flow)

def Operation.concernsWait : Operation → Bool
  | .postpone _ | .complete => true
  | _ => false

def Execution.withServices (e : Execution) (services : Services) : Execution :=
  { e with environment := { e.environment with services } }

namespace Waiting

inductive Event where
  | postpone
  | signal (v : Json)
  | fail (f : Failure)
  | complete (c : Completion)
  | receive (r : Nat)
  | dropReceiver (r : Nat)
  | drop
  /-- The services answer otherwise from now on. -/
  | serve (services : Services)
  /-- Anything else is done to the execution. -/
  | meanwhile (op : Operation) (apart : op.concernsWait = false)

inductive Outcome where
  /-- There is no such execution, or no such receiver. -/
  | absent
  | done
  | postponed (outcome : Except ResolutionError Nat)
  | completed (outcome : Except ExecutionError Unit)
  | received (answer : Reception)
  | answered (answer : Operation.Answer)

/-- The outcome of a step of a session; without one the session stays as it is. -/
def report {α : Type} (s : Session) (outcome : α → Outcome) :
    Option (α × Session) → Outcome × Session
  | some (v, s) => (outcome v, s)
  | none => (.absent, s)

namespace Event

/-- Lets an event happen to the execution `n` of a session. -/
def happen (ev : Event) (n : Nat) (s : Session) : Outcome × Session :=
  match ev with
  | .postpone => report s .postponed (s.postpone n)
  | .signal v => report s .completed (s.signal n v)
  | .fail f => report s .completed (s.fail n f)
  | .complete c => report s .completed (s.complete n c)
  | .receive r => report s .received (s.receive r)
  | .dropReceiver r => (.done, s.dropReceiver r)
  | .drop => (.done, s.drop n)
  | .serve services => report s (fun _ => .done) (s.run n fun e => ((), e.withServices services))
  | .meanwhile op _ => report s .answered (s.run n op.perform)

def completion? : Event → Option Completion
  | .signal v => some (.ok (some v))
  | .fail f => some (.error f)
  | .complete c => some c
  | _ => none

end Event

structure Entry where
  event : Event
  outcome : Outcome

namespace Entry

def made? (x : Entry) : Option Nat :=
  match x.outcome with
  | .postponed (.ok r) => some r
  | _ => none

/-- The completion that was handed over, if it was accepted. -/
def accepted? (x : Entry) : Option Completion :=
  match x.outcome with
  | .completed (.ok ()) => x.event.completion?
  | _ => none

def drops (x : Entry) : Bool :=
  match x.event with
  | .drop => true
  | _ => false

/-- The receiver is dropped, or has given its answer. -/
def closes (r : Nat) (x : Entry) : Bool :=
  match x.event, x.outcome with
  | .dropReceiver r', _ => r' = r
  | .receive r', .received (.completed _) => r' = r
  | .receive r', .received (.abandoned _) => r' = r
  | _, _ => false

end Entry

abbrev History := List Entry

/-- Carries out events one after the other and writes them down behind a history. -/
def play (n : Nat) : List Event → History → Session → History × Session
  | [], h, s => (h, s)
  | ev :: events, h, s => play n events (h ++ [⟨ev, (ev.happen n s).1⟩]) (ev.happen n s).2

namespace History

def postponed (h : History) : Bool := h.any (·.made?.isSome)

def dropped (h : History) : Bool := h.any (·.drops)

/-- What happened since the latest postponement that succeeded. -/
def sincePostponed (h : History) : History := h.rtakeWhile (·.made?.isNone)

def sinceMade (r : Nat) (h : History) : History := h.rtakeWhile (·.made? ≠ some r)

/-- What happened from the postponement that made a receiver to the next one that succeeded. -/
def term (r : Nat) (h : History) : History := (h.sinceMade r).takeWhile (·.made?.isNone)

/-- The answer to a completion. -/
def verdict (id : String) (h : History) : Except ExecutionError Unit :=
  if !h.postponed then .error (.notPostponed id)
  else if h.sincePostponed.any (·.accepted?.isSome) then .error (.alreadyCompleted id)
  else .ok ()

/-- The execution was postponed anew or dropped after the receiver was made. -/
def isLeft (r : Nat) (h : History) : Bool :=
  (h.sinceMade r).any fun x => x.made?.isSome || x.drops

/-- What a receiver has to say: the completion accepted in its term, or else that it was left. -/
def fate (id : String) (h : History) (r : Nat) : Reception :=
  match (h.term r).findSome? (·.accepted?) with
  | some c => .completed c
  | none => if h.isLeft r then .abandoned (.abandoned id) else .pending

/-- The receiver was dropped, or has given its answer. -/
def isClosed (r : Nat) (h : History) : Bool := (h.sinceMade r).any (·.closes r)

def Made (r : Nat) (h : History) : Prop := ∃ x ∈ h, x.made? = some r

/-- What a further entry makes of the fate of a receiver that was made before. -/
def turn (id : String) (x : Entry) : Reception → Reception
  | .pending =>
      match x.accepted? with
      | some c => .completed c
      | none => if x.made?.isSome || x.drops then .abandoned (.abandoned id) else .pending
  | answer => answer

end History

/-! ### A history with one more entry -/

/-- A completion makes no receiver. -/
theorem Entry.made?_of_accepted {x : Entry} (h : x.accepted?.isSome = true) :
    x.made? = none := by
  unfold Entry.accepted? at h
  unfold Entry.made?
  split at h
  · next accepted => simp [accepted]
  · cases h

namespace History

variable {id : String} {r : Nat} {h : History} {x : Entry}

theorem made_concat : Made r (h ++ [x]) ↔ Made r h ∨ x.made? = some r := by
  simp [Made, or_and_right, exists_or]

theorem postponed_concat : (h ++ [x]).postponed = (h.postponed || x.made?.isSome) := by
  simp [postponed]

theorem dropped_concat : (h ++ [x]).dropped = (h.dropped || x.drops) := by
  simp [dropped]

theorem postponed_of_made (made : Made r h) : h.postponed = true := by
  obtain ⟨x, member, made⟩ := made
  exact List.any_eq_true.mpr ⟨x, member, by simp [made]⟩

theorem sinceMade_of_made (made : x.made? = some r) : sinceMade r (h ++ [x]) = [] := by
  simp [sinceMade, made]

theorem sinceMade_of_ne (other : x.made? ≠ some r) :
    sinceMade r (h ++ [x]) = sinceMade r h ++ [x] := by
  simp [sinceMade, other]

theorem sincePostponed_of_made (made : x.made? = some r) :
    sincePostponed (h ++ [x]) = [] := by
  simp [sincePostponed, made]

theorem sincePostponed_of_none (none : x.made? = none) :
    sincePostponed (h ++ [x]) = sincePostponed h ++ [x] := by
  simp [sincePostponed, none]

theorem mem_of_mem_sinceMade {y : Entry} (member : y ∈ sinceMade r h) : y ∈ h :=
  (List.rtakeWhile_suffix _ _).subset member

/-- As long as no other postponement succeeds, what happened since a receiver was made is what
happened since the latest postponement. -/
theorem sinceMade_eq_sincePostponed (made : Made r h)
    (latest : ∀ y ∈ sinceMade r h, y.made? = none) : sinceMade r h = sincePostponed h := by
  induction h using List.reverseRecOn with
  | nil =>
      obtain ⟨x, member, _⟩ := made
      cases member
  | append_singleton h x ih =>
      by_cases same : x.made? = some r
      · rw [sinceMade_of_made same, sincePostponed_of_made same]
      · rw [sinceMade_of_ne same] at latest ⊢
        have none : x.made? = none := latest x (by simp)
        rw [sincePostponed_of_none none]
        congr 1
        refine ih ?_ fun y member => latest y (List.mem_append_left _ member)
        exact (made_concat.mp made).resolve_right same

/-- A receiver that was just made has nothing to say yet. -/
theorem fate_of_made (made : x.made? = some r) : fate id (h ++ [x]) r = .pending := by
  simp [fate, term, isLeft, sinceMade_of_made made]

theorem isClosed_of_made (made : x.made? = some r) : isClosed r (h ++ [x]) = false := by
  simp [isClosed, sinceMade_of_made made]

/-- A receiver is closed once, and stays closed. -/
theorem isClosed_concat (other : x.made? ≠ some r) :
    isClosed r (h ++ [x]) = (isClosed r h || x.closes r) := by
  simp [isClosed, sinceMade_of_ne other]

/-- The term of a receiver goes on until the next postponement that succeeds. -/
theorem term_concat (other : x.made? ≠ some r) :
    term r (h ++ [x]) =
      if (sinceMade r h).all (·.made?.isNone) && x.made?.isNone then term r h ++ [x]
      else term r h := by
  unfold term
  rw [sinceMade_of_ne other]
  cases latest : (sinceMade r h).all (·.made?.isNone) with
  | true =>
      have all := List.all_eq_true.mp latest
      rw [List.takeWhile_append_of_pos all, List.takeWhile_eq_self_iff.mpr all]
      cases made : x.made? <;> simp [made]
  | false =>
      have stops : ((sinceMade r h).takeWhile (·.made?.isNone)).length ≠
          (sinceMade r h).length := by
        intro same
        have whole := (List.takeWhile_prefix _).eq_of_length same
        have all := List.all_eq_true.mpr (List.takeWhile_eq_self_iff.mp whole)
        rw [latest] at all
        cases all
      rw [List.takeWhile_append, if_neg stops]
      simp

/-- A receiver is left by a new postponement, or when the execution is dropped. -/
theorem isLeft_concat (other : x.made? ≠ some r) :
    isLeft r (h ++ [x]) = (isLeft r h || (x.made?.isSome || x.drops)) := by
  simp [isLeft, sinceMade_of_ne other]

/-- In a history without drops, a receiver is left if and only if another one was made. -/
theorem isLeft_of_not_dropped (kept : h.dropped = false) :
    isLeft r h = !(sinceMade r h).all (·.made?.isNone) := by
  have never : ∀ y ∈ sinceMade r h, y.drops = false := fun y member =>
    Bool.eq_false_iff.mpr (List.any_eq_false.mp kept y (mem_of_mem_sinceMade member))
  rw [Bool.eq_iff_iff]
  simp only [isLeft, List.any_eq_true, Bool.or_eq_true, Bool.not_eq_true', List.all_eq_false]
  constructor
  · rintro ⟨y, member, made | drops⟩
    · exact ⟨y, member, by simpa [Option.isSome_iff_ne_none] using made⟩
    · rw [never y member] at drops
      cases drops
  · rintro ⟨y, member, made⟩
    exact ⟨y, member, .inl (by simpa [Option.isSome_iff_ne_none] using made)⟩

/-- One more entry turns the fate of a receiver that was made before. A completion is accepted
only while the execution is there. -/
theorem fate_concat (other : x.made? ≠ some r)
    (there : x.accepted?.isSome = true → h.dropped = false) :
    fate id (h ++ [x]) r = turn id x (fate id h r) := by
  unfold fate
  rw [term_concat other, isLeft_concat other]
  cases accepted : x.accepted? with
  | none =>
      have found : ((if (sinceMade r h).all (·.made?.isNone) && x.made?.isNone then
          term r h ++ [x] else term r h).findSome? (·.accepted?)) =
          (term r h).findSome? (·.accepted?) := by
        split <;> simp [accepted]
      rw [found]
      cases (term r h).findSome? (·.accepted?) with
      | some c => rfl
      | none => cases isLeft r h <;> simp [turn, accepted]
  | some c =>
      have unmade : x.made? = none := Entry.made?_of_accepted (by simp [accepted])
      rw [isLeft_of_not_dropped (there (by simp [accepted]))]
      cases latest : (sinceMade r h).all (·.made?.isNone) with
      | true =>
          cases found : (term r h).findSome? (·.accepted?) <;>
            simp [unmade, found, accepted, turn]
      | false =>
          cases found : (term r h).findSome? (·.accepted?) <;> simp [found, turn]

end History

end Waiting

end ProcessStep
