/-!
What can go wrong with an expression or a template, by kind. Only the failure of a service has
a text of its own.
-/

namespace ProcessStep.Expression

inductive Problem where
  | malformed
  | badEscape
  | invalidOperation
  | serviceFailed (service text : String)
  | undefinedValue
  | unknownFilter
  | unknownTest
  | unknownFunction
  | unknownMethod
  | tooManyArguments
  | missingArgument
  | cannotUnpack
  deriving DecidableEq, Repr

def Problem.message : Problem → String
  | .malformed => "syntax error"
  | .badEscape => "bad string escape"
  | .invalidOperation => "invalid operation"
  | .serviceFailed service text =>
      "invalid operation: service '" ++ service ++ "' failed: " ++ text
  | .undefinedValue => "undefined value"
  | .unknownFilter => "unknown filter"
  | .unknownTest => "unknown test"
  | .unknownFunction => "unknown function"
  | .unknownMethod => "unknown method"
  | .tooManyArguments => "too many arguments"
  | .missingArgument => "missing argument"
  | .cannotUnpack => "cannot unpack"

abbrev Outcome (α : Type) := Except Problem α

end ProcessStep.Expression
