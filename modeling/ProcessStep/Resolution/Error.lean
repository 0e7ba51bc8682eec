import ProcessStep.Expression.Problem

/-!
Why a value could not be resolved. Each error quotes the expression or template as it was given,
and the error of a parameter keeps the error it comes from.
-/

namespace ProcessStep

/-- What a rendered text is read as. -/
inductive FieldType where
  | string
  | long
  | number
  | boolean
  | json
  deriving DecidableEq, Repr

namespace FieldType

/-- The type of a tag; a tag that is not known stands for text. -/
def ofTag : String → FieldType
  | "long" => .long
  | "integer" => .long
  | "number" => .number
  | "double" => .number
  | "boolean" => .boolean
  | "json" => .json
  | "object" => .json
  | "array" => .json
  | _ => .string

def name : FieldType → String
  | .string => "string"
  | .long => "long"
  | .number => "number"
  | .boolean => "boolean"
  | .json => "json"

end FieldType

inductive ResolutionError where
  /-- The expression is not well formed. -/
  | compile (expression : String) (problem : Expression.Problem)
  /-- The expression has no value. -/
  | evaluate (expression : String) (problem : Expression.Problem)
  | render (template : String) (problem : Expression.Problem)
  /-- The value of the expression is not data. -/
  | conversion (expression : String)
  /-- The text is not of the type that was declared. -/
  | coercion (text : String) (expected : FieldType)
  | parameter (name : String) (cause : ResolutionError)
  deriving DecidableEq

def ResolutionError.message : ResolutionError → String
  | .compile e p => "failed to compile expression '" ++ e ++ "': " ++ p.message
  | .evaluate e p => "failed to evaluate expression '" ++ e ++ "': " ++ p.message
  | .render t p => "failed to render template '" ++ t ++ "': " ++ p.message
  | .conversion e => "expression '" ++ e ++ "' produced a value that is not valid JSON: *"
  | .coercion s t => "value '" ++ s ++ "' is not a valid " ++ t.name
  | .parameter name cause =>
      "parameter '" ++ name ++ "' could not be resolved: " ++ cause.message

end ProcessStep
