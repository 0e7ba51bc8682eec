import ProcessStep.Definition.Basic
import ProcessStep.Execution.Snapshot

/-!
The end of a step that waits. Whoever suspends a step gets a receiver; the step is completed at
most once, and the receiver yields the completion when it is asked, even if the execution is
gone by then. A step that can no longer be completed leaves its receiver abandoned.
-/

namespace ProcessStep

inductive Direction where
  | inbound
  | outbound
  deriving DecidableEq, Repr

def Direction.name : Direction → String
  | .inbound => "inbound"
  | .outbound => "outbound"

/-- What an execution refuses; `execution` is its id. -/
inductive ExecutionError where
  | notPostponed (execution : String)
  | alreadyCompleted (execution : String)
  | abandoned (execution : String)
  | unknownFlow (execution : String) (direction : Direction) (flow : String)
  | invalidState (problem : SnapshotProblem)

def ExecutionError.message : ExecutionError → String
  | .notPostponed id => "execution '" ++ id ++ "' is not postponed"
  | .alreadyCompleted id => "execution '" ++ id ++ "' already completed"
  | .abandoned id => "execution '" ++ id ++ "' was abandoned before completing"
  | .unknownFlow id direction flow =>
      "execution '" ++ id ++ "' state references unknown " ++ direction.name ++ " flow '" ++
        flow ++ "'"
  | .invalidState problem => "invalid execution state: " ++ problem.message

/-- How a step ends: with a value, without one, or with a failure. -/
abbrev Completion := Except Failure (Option Json)

inductive Mailbox where
  | waiting
  | delivered (c : Completion)
  /-- Nobody can complete the step any more. -/
  | abandoned
  /-- The receiver was dropped, or has answered. -/
  | closed

structure Receiver where
  /-- The id of the execution that it belongs to. -/
  execution : String
  mailbox : Mailbox

inductive Reception where
  | pending
  | completed (c : Completion)
  | abandoned (e : ExecutionError)
  | gone

namespace Receiver

/-- Takes a completion unless nobody listens any more. -/
def deliver (c : Completion) (r : Receiver) : Receiver :=
  match r.mailbox with
  | .waiting => { r with mailbox := .delivered c }
  | _ => r

def abandon (r : Receiver) : Receiver :=
  match r.mailbox with
  | .waiting => { r with mailbox := .abandoned }
  | _ => r

def close (r : Receiver) : Receiver :=
  { r with mailbox := .closed }

/-- The answer, which is given once. -/
def receive (r : Receiver) : Reception × Receiver :=
  match r.mailbox with
  | .waiting => (.pending, r)
  | .delivered c => (.completed c, r.close)
  | .abandoned => (.abandoned (.abandoned r.execution), r.close)
  | .closed => (.gone, r)

end Receiver

/-- All receivers in the order in which they were made; a receiver is named by its place. -/
abbrev Receivers := List Receiver

namespace Receivers

def create (rs : Receivers) (execution : String) : Receivers :=
  rs ++ [⟨execution, .waiting⟩]

def deliver (rs : Receivers) (n : Nat) (c : Completion) : Receivers :=
  rs.modify n (·.deliver c)

/-- Abandons a receiver if there is one to be abandoned. -/
def abandon (rs : Receivers) (n : Option Nat) : Receivers :=
  match n with
  | some n => rs.modify n Receiver.abandon
  | none => rs

def close (rs : Receivers) (n : Nat) : Receivers :=
  rs.modify n Receiver.close

/-- Asks a receiver, if there is one at that place. -/
def receive? (rs : Receivers) (n : Nat) : Option (Reception × Receivers) :=
  rs[n]?.map fun r => (r.receive.1, rs.set n r.receive.2)

@[simp] theorem length_deliver (rs : Receivers) (n : Nat) (c : Completion) :
    (rs.deliver n c).length = rs.length := by
  simp [deliver]

@[simp] theorem length_close (rs : Receivers) (n : Nat) : (rs.close n).length = rs.length := by
  simp [close]

end Receivers

end ProcessStep
