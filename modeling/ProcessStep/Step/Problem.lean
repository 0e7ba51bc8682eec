import ProcessStep.Definition.Decoder
import ProcessStep.Execution.Completion
import ProcessStep.Process.Basic
import ProcessStep.Resolution.Error

/-!
Why a step has no report. A problem has a message and, below it, the messages of what caused it.
-/

namespace ProcessStep.Step

inductive Problem where
  | unreadableDefinition (path : String)
  | malformedDefinition (path : String) (cause : Definition.DecodeError)
  | invalidProcess (path : String) (cause : ProcessError)
  | unknownActivity (id : String) (cause : ProcessError)
  | unreadableVariables
  | malformedVariables
  | variablesNotObject (got : Json)
  | notInbound (flow activity : String)
  | unreadableState (path : String)
  | malformedState (path : String) (cause : Definition.DecodeError)
  | stateNotApplied (cause : ExecutionError)
  | inputUnresolved (cause : ResolutionError)
  | malformedSignal
  | notPostponed (cause : ResolutionError)
  /-- Completing the step went wrong. -/
  | refused (cause : ExecutionError)
  | failed (f : Failure)
  | outputUnresolved (cause : ResolutionError)
  | outboundUnresolved (cause : ResolutionError)

namespace Problem

def message : Problem → String
  | .unreadableDefinition path => "failed to read process file: " ++ path
  | .malformedDefinition path _ => "failed to parse process file: " ++ path
  | .invalidProcess path _ => "invalid process: " ++ path
  | .unknownActivity id _ => "activity '" ++ id ++ "' not found in process"
  | .unreadableVariables => "failed to read variables from stdin"
  | .malformedVariables => "failed to parse variables JSON from stdin"
  | .variablesNotObject got => "variables must be a JSON object, got " ++ got.compact
  | .notInbound flow activity => "'" ++ flow ++ "' is not an inbound flow of '" ++ activity ++ "'"
  | .unreadableState path => "failed to read state file: " ++ path
  | .malformedState path _ => "failed to parse state file: " ++ path
  | .stateNotApplied _ => "failed to apply persisted state"
  | .inputUnresolved _ => "failed to resolve input"
  | .malformedSignal => "failed to parse --signal JSON"
  | .notPostponed _ => "failed to postpone step"
  | .refused cause => cause.message
  | .failed f => "step failed: " ++ f.message
  | .outputUnresolved _ => "failed to resolve output"
  | .outboundUnresolved _ => "failed to evaluate outbound flows"

def cause? : Problem → Option String
  | .malformedDefinition _ cause => some cause.message
  | .invalidProcess _ cause => some cause.message
  | .unknownActivity _ cause => some cause.message
  | .malformedState _ cause => some cause.message
  | .stateNotApplied cause => some cause.message
  | .inputUnresolved cause => some cause.message
  | .notPostponed cause => some cause.message
  | .outputUnresolved cause => some cause.message
  | .outboundUnresolved cause => some cause.message
  | _ => none

end Problem

end ProcessStep.Step
