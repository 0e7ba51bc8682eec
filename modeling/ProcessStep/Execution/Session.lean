import ProcessStep.Execution.Suspension

/-!
Several executions side by side. A session numbers executions and receivers in the order in
which they are made, hands completions over to receivers, and keeps the journals of activities
that record how they are cancelled and discarded. The rounds of a loop share the journal of the
execution that they come from. An execution that was dropped keeps its number.
-/

namespace ProcessStep

/-- What an activity was told. -/
inductive Call where
  | cancel
  /-- The branch is given up, with the flows that it is attributed to. -/
  | discard (inbound root : Option String)
  deriving DecidableEq, Repr

/-- An execution, unless it was dropped, and the journal of its activity. -/
structure Member where
  execution : Option Execution
  journal : Option Nat

structure Session where
  /-- Texts that make ids of executions unique. -/
  tokens : Nat → String
  /-- How many tokens are in use. -/
  drawn : Nat
  members : List Member
  receivers : Receivers
  journals : List (List Call)

namespace Session

def empty (tokens : Nat → String) : Session :=
  { tokens, drawn := 0, members := [], receivers := [], journals := [] }

def execution? (s : Session) (n : Nat) : Option Execution :=
  s.members[n]?.bind (·.execution)

def put (s : Session) (n : Nat) (e : Execution) : Session :=
  { s with members := s.members.modify n ({ · with execution := some e }) }

/-- Carries out an operation on an execution, if there is one of that number. -/
def run {α : Type} (s : Session) (n : Nat) (f : Execution → α × Execution) :
    Option (α × Session) :=
  (s.execution? n).map fun e => ((f e).1, s.put n (f e).2)

def openJournal (s : Session) : Nat × Session :=
  (s.journals.length, { s with journals := s.journals ++ [[]] })

/-- Adds an execution that is made with the next token. The token is in use if the execution is
for a round beside others. -/
def add (s : Session) (make : String → Execution) (journal : Option Nat) : Nat × Session :=
  let e := make (s.tokens s.drawn)
  (s.members.length,
    { s with
      members := s.members ++ [⟨some e, journal⟩]
      drawn := if e.message.isParallel then s.drawn + 1 else s.drawn })

def iterate (s : Session) (n : Nat) (i : Iteration) : Option (Nat × Session) :=
  (s.execution? n).map fun e =>
    s.add (fun token => e.iteration i token) (s.members[n]?.bind (·.journal))

/-- Suspends an execution; gives the number of the new receiver. The receiver of an earlier
suspension that was not completed is abandoned. -/
def postpone (s : Session) (n : Nat) : Option (Except ResolutionError Nat × Session) :=
  (s.execution? n).map fun e =>
    match e.postpone s.receivers.length with
    | (.error x, e') => (.error x, s.put n e')
    | (.ok (), e') =>
        (.ok s.receivers.length,
          { s.put n e' with receivers := (s.receivers.abandon e.receiver?).create e.id })

def complete (s : Session) (n : Nat) (c : Completion) :
    Option (Except ExecutionError Unit × Session) :=
  (s.execution? n).map fun e =>
    match e.complete with
    | (.error x, e') => (.error x, s.put n e')
    | (.ok receiver, e') =>
        (.ok (), { s.put n e' with receivers := s.receivers.deliver receiver c })

def signal (s : Session) (n : Nat) (v : Json) : Option (Except ExecutionError Unit × Session) :=
  s.complete n (.ok (some v))

def fail (s : Session) (n : Nat) (f : Failure) : Option (Except ExecutionError Unit × Session) :=
  s.complete n (.error f)

def receive (s : Session) (r : Nat) : Option (Reception × Session) :=
  (s.receivers.receive? r).map fun (answer, receivers) => (answer, { s with receivers })

/-- Drops a receiver; a completion that it has not given yet is lost. -/
def dropReceiver (s : Session) (r : Nat) : Session :=
  { s with receivers := s.receivers.close r }

/-- Drops an execution; its receiver is abandoned if it was not completed. -/
def drop (s : Session) (n : Nat) : Session :=
  { s with
    members := s.members.modify n ({ · with execution := none })
    receivers := s.receivers.abandon ((s.execution? n).bind (·.receiver?)) }

/-- Records a call in the journal of an execution, if it has one. -/
def record (s : Session) (n : Nat) (c : Call) : Session :=
  match s.members[n]?.bind (·.journal) with
  | some j => { s with journals := s.journals.modify j (· ++ [c]) }
  | none => s

def cancel (s : Session) (n : Nat) : Session :=
  s.record n .cancel

/-- Tells the activity of an execution to give up its branch. -/
def discard (s : Session) (n : Nat) : Session :=
  match s.execution? n with
  | some e => s.record n (.discard (e.trigger.map (·.id)) e.rootFlow)
  | none => s

/-- What is recorded about the activity of an execution. -/
def calls? (s : Session) (n : Nat) : Option (List Call) :=
  (s.members[n]?.bind (·.journal)).bind (s.journals[·]?)

@[simp] theorem length_members_put (s : Session) (n : Nat) (e : Execution) :
    (s.put n e).members.length = s.members.length := by
  simp [put]

end Session

end ProcessStep
