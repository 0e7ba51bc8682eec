import ProcessStep.Execution.Completion
import ProcessStep.Execution.Form
import ProcessStep.Process.Basic
import ProcessStep.Resolution.Parameter

/-!
Executions: one visit of an activity. An execution resolves the input of its activity once and
keeps it; it holds the result of the step, the flows that are still to be awaited or considered,
what was restored from a snapshot, and whether the step waits to be completed. What is computed
when it is first needed is a field that starts empty, and every operation that may fill it gives
the execution back.
-/

namespace ProcessStep

open Definition (Flow Parameter)

/-- An activity as it is carried out, with the state of its own that goes into snapshots. -/
structure Behaviour where
  activity : Activity
  ownState : Option Snapshot

/-- A step that was suspended: the form that it shows, and the place of its receiver as long as
it is not completed. -/
structure Postponement where
  form : Option Form
  receiver : Option Nat

structure Execution where
  id : String
  behaviour : Behaviour
  message : Message
  environment : Environment
  config : ExecutionConfig
  /-- The flow whose token started the execution. -/
  trigger : Option Flow
  /-- The flow that started the enclosing loop. -/
  rootFlow : Option String
  knownInput : Option Json
  result : Option Json
  knownInbound : Option (List Flow)
  knownOutbound : Option (List Flow)
  savedState : Option Snapshot
  restoredForm : Option Json
  postponement : Option Postponement
  isStopped : Bool

namespace Execution

/-- The id of an execution: that of the activity, made unique by a token for a round that is
carried out beside others. -/
def idOf (activity : String) (m : Message) (token : String) : String :=
  if m.isParallel then activity ++ "_" ++ token else activity

def start (b : Behaviour) (m : Message) (env : Environment) (token : String) : Execution where
  id := idOf b.activity.id m token
  behaviour := b
  message := m
  environment := env
  config := .lenient
  trigger := none
  rootFlow := none
  knownInput := none
  result := none
  knownInbound := none
  knownOutbound := none
  savedState := none
  restoredForm := none
  postponement := none
  isStopped := false

def withConfig (e : Execution) (c : ExecutionConfig) : Execution :=
  { e with config := c }

def triggeredBy (e : Execution) (f : Flow) : Execution :=
  { e with trigger := some f }

def withRootFlow (e : Execution) (root : String) : Execution :=
  { e with rootFlow := some root }

abbrev activity (e : Execution) : Activity :=
  e.behaviour.activity

/-- A fresh execution of the same activity for one round of a loop. -/
def iteration (e : Execution) (i : Iteration) (token : String) : Execution :=
  { start e.behaviour (e.message.withIteration i) (e.environment.forIteration i) token with
    config := e.config
    trigger := e.trigger
    rootFlow := e.rootFlow }

def setResult (e : Execution) (v : Json) : Execution :=
  { e with result := some v }

/-- Keeps entries that go over all others in snapshots. -/
def setState (e : Execution) (s : Snapshot) : Execution :=
  { e with savedState := some s }

def stop (e : Execution) : Execution :=
  { e with isStopped := true }

/-! ### Input and output -/

/-- The input from the beginning: an object of the parameters, or the whole scope if there are
none. -/
def resolveInput (e : Execution) : Except ResolutionError Json :=
  let s := e.environment.scope []
  match e.activity.inputParameters with
  | [] => .ok s.toJson
  | ps => (Parameter.collect (·.inputValue e.message s) [] ps).map .obj

/-- The input, which is resolved once; a failure is not kept. -/
def input (e : Execution) : Except ResolutionError Json × Execution :=
  match e.knownInput with
  | some v => (.ok v, e)
  | none =>
      match e.resolveInput with
      | .ok v => (.ok v, { e with knownInput := some v })
      | .error x => (.error x, e)

/-- What output parameters see beside the result. -/
def outputScope (e : Execution) (input : Json) : Scope :=
  (e.environment.scope (input.fields?.getD [])).put "input" input

/-- The output: an object of the parameters, or the result as it is if there are none. -/
def output (e : Execution) : Except ResolutionError Json × Execution :=
  let raw := e.result.getD .null
  match e.activity.outputParameters with
  | [] => (.ok raw, e)
  | ps =>
      match e.input with
      | (.error x, e) => (.error x, e)
      | (.ok v, e) =>
          ((Parameter.collect (·.outputValue raw (e.outputScope v)) [] ps).map .obj, e)

/-- The scope of the environment with the input as `input`. -/
def contextInput (e : Execution) : Except ResolutionError Scope × Execution :=
  match e.input with
  | (.error x, e) => (.error x, e)
  | (.ok v, e) => (.ok ((e.environment.scope []).put "input" v), e)

/-- The scope of the environment with the input as `input` and the output as `output`. -/
def contextOutput (e : Execution) : Except ResolutionError Scope × Execution :=
  match e.output with
  | (.error x, e) => (.error x, e)
  | (.ok v, e) =>
      match e.contextInput with
      | (.error x, e) => (.error x, e)
      | (.ok s, e) => (.ok (s.put "output" v), e)

/-- The value of an expression, in the scope of the environment unless another is given. -/
def resolve (e : Execution) (expression : String) (s : Option Scope) :
    Except ResolutionError Json :=
  (s.getD (e.environment.scope [])).resolve expression

/-! ### Description -/

def optionText (s : Option String) : String :=
  match s with
  | some s => "Some(" ++ Text.quoted s ++ ")"
  | none => "None"

def isPostponed (e : Execution) : Bool :=
  (e.postponement.bind (·.receiver)).isSome

def describe (e : Execution) : String :=
  "ActivityExecution \x7b id: " ++ Text.quoted e.id
    ++ ", activity_id: " ++ Text.quoted e.activity.id
    ++ ", inbound_flow: " ++ optionText (e.trigger.map (·.id))
    ++ ", root_flow: " ++ optionText e.rootFlow
    ++ ", postponed: " ++ toString e.isPostponed
    ++ ", stopped: " ++ toString e.isStopped ++ " \x7d"

theorem input_of_known {e : Execution} {v : Json} (h : e.knownInput = some v) :
    e.input = (.ok v, e) := by
  simp [input, h]

end Execution

end ProcessStep
