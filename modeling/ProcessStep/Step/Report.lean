import ProcessStep.Definition.Reading
import ProcessStep.Execution.Suspension
import ProcessStep.Step.Arguments
import ProcessStep.Step.Problem

/-!
One step of one activity. The execution is made from a definition, the variables and, if there
is one, a snapshot. A step with a signal waits for it and has it as its result; a step with a
form but no signal is left waiting; any other step has its input as its result. The report says
what came of it and holds a snapshot to resume from.
-/

namespace ProcessStep.Step

/-- What a step can read: files by their paths, and the text of its input; nothing where the
text cannot be read. -/
structure Surroundings where
  file : String → Option String
  input : Option String

/-! ### Before the step -/

def loadProcess (w : Surroundings) (path : String) : Except Problem LinkedProcess := do
  match w.file path with
  | none => .error (.unreadableDefinition path)
  | some text =>
      let d ← (Definition.processDecoder.decode (.ofText text)).mapError
        (.malformedDefinition path)
      (LinkedProcess.link d).mapError (.invalidProcess path)

/-- The variables in the input; none if it is blank. -/
def readVariables (w : Surroundings) : Except Problem (Table Json) :=
  match w.input with
  | none => .error .unreadableVariables
  | some text =>
      if (Text.trim text.toList).isEmpty then .ok []
      else
        match Json.parse text with
        | .error _ => .error .malformedVariables
        | .ok (.obj fields) => .ok fields
        | .ok v => .error (.variablesNotObject v)

def loadSnapshot (w : Surroundings) (path : String) : Except Problem Snapshot :=
  match w.file path with
  | none => .error (.unreadableState path)
  | some text =>
      (Definition.Decoder.table.decode (.ofText text)).mapError (.malformedState path)

/-- Names the flow that started the execution, if one is given. -/
def trigger (e : Execution) : Option String → Except Problem Execution
  | none => .ok e
  | some id =>
      match e.activity.inboundFlow? id with
      | some f => .ok (e.triggeredBy f)
      | none => .error (.notInbound id e.activity.id)

/-- Takes up what the snapshot of a file holds, if a file is given. -/
def resume (w : Surroundings) (e : Execution) : Option String → Except Problem Execution
  | none => .ok e
  | some path => do
      match e.applyState (← loadSnapshot w path) with
      | (.error x, _) => .error (.stateNotApplied x)
      | (.ok (), e) => .ok e

/-- The execution that a request asks for. -/
def prepare (w : Surroundings) (r : Request) : Except Problem Execution := do
  let p ← loadProcess w r.definition
  let a ← (p.activity r.activity).mapError (.unknownActivity r.activity)
  let vars ← readVariables w
  let e := Execution.start ⟨a, none⟩ .empty (.ofVariables vars) ""
  let e := e.withConfig (if r.isStrict then .strict else .lenient)
  let e ← trigger e r.inbound
  resume w e r.state

/-! ### The step -/

/-- The answer of an operation and the execution after it, an error being that of the step. -/
def claim {ε α : Type} (problem : ε → Problem) (outcome : Except ε α × Execution) :
    Except Problem (α × Execution) :=
  match outcome with
  | (.error x, _) => .error (problem x)
  | (.ok v, e) => .ok (v, e)

def parseSignal : Option String → Except Problem (Option Json)
  | none => .ok none
  | some text =>
      match Json.parse text with
      | .ok v => .ok (some v)
      | .error _ => .error .malformedSignal

/-- Suspends the execution, completes it with a value, and gives what its receiver yields. -/
def exchange (e : Execution) (v : Json) : Except Problem (Json × Execution) := do
  let receivers := Receivers.create [] e.id
  let ((), e) ← claim .notPostponed (e.postpone 0)
  let (receiver, e) ← claim .refused e.complete
  match (receivers.deliver receiver (.ok (some v))).receive? receiver with
  | some (.completed (.ok result), _) => .ok (result.getD .null, e)
  | some (.completed (.error f), _) => .error (.failed f)
  | _ => .error (.refused (.abandoned e.id))

def suspended (e : Execution) (input : Json) : Except Problem Json := do
  let ((), e) ← claim .notPostponed (e.postpone 0)
  let (s, _) := e.state none
  .ok (.object [
    ("executionId", .str e.id),
    ("input", input),
    ("postponed", .bool true),
    ("form", (e.form?.map Form.state).getD .null),
    ("state", .obj s)])

def finished (e : Execution) (input : Json) : Except Problem Json := do
  let (output, e) ← claim .outputUnresolved e.output
  let (flows, e) ← claim .outboundUnresolved e.eligibleOutbound
  let (s, _) := e.state none
  .ok (.object [
    ("executionId", .str e.id),
    ("input", input),
    ("output", output),
    ("eligibleOutbound", .texts (flows.map (·.id))),
    ("state", .obj s)])

def carryOut (e : Execution) (signal : Option String) : Except Problem Json := do
  let (input, e) ← claim .inputUnresolved e.input
  match ← parseSignal signal with
  | some v => do
      let (result, e) ← exchange e v
      finished (e.setResult result) input
  | none =>
      if e.activity.form.isSome then suspended e input
      else finished (e.setResult input) input

/-- The report of the step that a request asks for. -/
def report (w : Surroundings) (r : Request) : Except Problem Json := do
  let e ← prepare w r
  carryOut e r.signal

end ProcessStep.Step
