import ProcessStep.Proofs.Scopes
import ProcessStep.Proofs.Settling
import ProcessStep.Proofs.Waiting.Turn

/-!
An execution side by side with the rounds that were made from it, directly or from other rounds.
A `Deed` is what is done to one of them; a `Group` carries deeds out in any order, and numbers the
receivers of each execution in the order in which that execution made them. What an execution
`answers` is to be compared with the answers of one that is `alone`.
-/

namespace ProcessStep

open Definition (Flow)
open Waiting (Event Outcome Entry Turn report)

/-! ### What rounds inherit -/

/-- What an execution is set up with, its id apart. -/
structure Origin where
  behaviour : Behaviour
  message : Message
  environment : Environment
  config : ExecutionConfig
  trigger : Option Flow
  rootFlow : Option String

namespace Origin

/-- The same for one round of a loop. -/
def round (o : Origin) (i : Iteration) : Origin :=
  { o with
    message := o.message.withIteration i
    environment := o.environment.forIteration i }

def execution (o : Origin) (token : String) : Execution :=
  { Execution.start o.behaviour o.message o.environment token with
    config := o.config
    trigger := o.trigger
    rootFlow := o.rootFlow }

/-- A round has the iteration of its own in its message and in its environment, and all else from
the origin. -/
structure IsRoundOf (r o : Origin) (i : Iteration) : Prop where
  same : r = { o with message := r.message, environment := r.environment }
  data : r.message.data = o.message.data
  iteration : r.message.iteration = some i
  environment : r.environment.IsScopedTo o.environment i

theorem isRoundOf_round (o : Origin) (i : Iteration) : (o.round i).IsRoundOf o i where
  same := rfl
  data := o.message.data_withIteration i
  iteration := rfl
  environment := o.environment.isScopedTo_forIteration i

end Origin

def Execution.origin (e : Execution) : Origin :=
  ⟨e.behaviour, e.message, e.environment, e.config, e.trigger, e.rootFlow⟩

/-- Executions that are set up alike have the same origin. -/
theorem SameSetup.origin {e e' : Execution} (same : SameSetup e e') : e'.origin = e.origin := by
  rw [Execution.origin, Execution.origin, same.behaviour, same.message, same.environment,
    same.config, same.trigger, same.rootFlow]

namespace Waiting

def Event.serves : Event → Bool
  | .serve _ => true
  | _ => false

/-- The event with other numbers for the receivers that it names. -/
def Event.renumbered (number : Nat → Nat) : Event → Event
  | .receive r => .receive (number r)
  | .dropReceiver r => .dropReceiver (number r)
  | ev => ev

/-- The outcome with another number for a receiver that was made. -/
def Outcome.renumbered (number : Nat → Nat) : Outcome → Outcome
  | .postponed outcome => .postponed (outcome.map number)
  | outcome => outcome

def Outcome.made? : Outcome → Option Nat
  | .postponed (.ok r) => some r
  | _ => none

theorem Event.serves_renumbered (ev : Event) (number : Nat → Nat) :
    (ev.renumbered number).serves = ev.serves := by
  cases ev <;> rfl

end Waiting

namespace Rounds

/-- What is done to an execution or to its receivers. -/
inductive Deed where
  /-- Anything but a change of the services. -/
  | event (ev : Event) (steady : ev.serves = false)
  /-- An execution is made for one round of a loop. -/
  | iterate (i : Iteration)

namespace Deed

def renumbered (number : Nat → Nat) : Deed → Deed
  | .event ev steady => .event (ev.renumbered number) (by rw [ev.serves_renumbered, steady])
  | .iterate i => .iterate i

def happen (d : Deed) (n : Nat) (s : Session) : Outcome × Session :=
  match d with
  | .event ev _ => ev.happen n s
  | .iterate i => report s (fun _ => .done) (s.iterate n i)

end Deed

/-- Executions side by side. -/
structure Group where
  session : Session
  /-- The receivers of each execution, in the order in which it made them. -/
  made : Nat → List Nat

namespace Group

/-- The number in the session of a receiver of the execution `n`. Where the execution has not made
so many, it is a number that no receiver has. -/
def receiverOf (g : Group) (n k : Nat) : Nat := (g.made n)[k]?.getD g.session.receivers.length

/-- The number of a receiver among those that the execution `n` has made; it is the next one for
a receiver that is made just now. -/
def numberOf (g : Group) (n r : Nat) : Nat := (g.made n).idxOf r

/-- Does something to the execution `n` of a group, with numbers of its own for its receivers. -/
def happen (g : Group) (n : Nat) (d : Deed) : Outcome × Group :=
  let happened := (d.renumbered (g.receiverOf n)).happen n g.session
  (happened.1.renumbered (g.numberOf n),
    { session := happened.2
      made := fun x => if x = n then g.made n ++ happened.1.made?.toList else g.made x })

def start (tokens : Nat → String) (o : Origin) : Group :=
  ⟨((Session.empty tokens).add o.execution none).2, fun _ => []⟩

/-- The group after all that was done to its executions, one after the other. -/
def after (g : Group) (deeds : List (Nat × Deed)) : Group :=
  deeds.foldl (fun g d => (g.happen d.1 d.2).2) g

/-- What the execution `x` answers while things are done to all executions. -/
def answers (g : Group) (x : Nat) : List (Nat × Deed) → List Outcome
  | [] => []
  | (n, d) :: deeds =>
      let rest := answers (g.happen n d).2 x deeds
      if n = x then (g.happen n d).1 :: rest else rest

end Group

/-- What is done to the execution `x`, in its order. -/
def deedsOf (x : Nat) (deeds : List (Nat × Deed)) : List Deed :=
  (deeds.filter (·.1 = x)).map (·.2)

/-- A fresh execution in a session of its own. -/
def alone (o : Origin) (token : String) : Session :=
  ((Session.empty fun _ => token).add o.execution none).2

/-- What the first execution of a session answers while nothing is done to others. -/
def answersAlone : List Deed → Session → List Outcome
  | [], _ => []
  | d :: deeds, s => (d.happen 0 s).1 :: answersAlone deeds (d.happen 0 s).2

namespace Group

/-- The receivers that an execution made are numbered in the order in which it made them. -/
theorem made_happen (g : Group) (n : Nat) (d : Deed) :
    (g.happen n d).2.made n =
      g.made n ++ ((d.renumbered (g.receiverOf n)).happen n g.session).1.made?.toList :=
  if_pos rfl

/-- What is done to another execution makes no receiver for this one. -/
theorem made_happen_of_ne {x n : Nat} (other : x ≠ n) (g : Group) (d : Deed) :
    (g.happen n d).2.made x = g.made x :=
  if_neg other

/-- A round is a new execution behind all others, and changes nothing else. -/
theorem happen_iterate (g : Group) (n : Nat) (i : Iteration) :
    g.happen n (.iterate i) =
      match g.session.execution? n with
      | none => (.absent, g)
      | some e =>
          (.done, ⟨(g.session.add (fun token => e.iteration i token)
            (g.session.members[n]?.bind (·.journal))).2, g.made⟩) := by
  have kept : (fun x => if x = n then g.made n ++ [] else g.made x) = g.made := by
    funext x
    by_cases own : x = n <;> simp [own]
  unfold happen Deed.renumbered Deed.happen Session.iterate
  cases g.session.execution? n with
  | none => exact congrArg (fun made => (Outcome.absent, Group.mk g.session made)) kept
  | some e => exact congrArg (fun made => (Outcome.done, Group.mk _ made)) kept

end Group

end Rounds

end ProcessStep
