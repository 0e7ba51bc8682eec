import ProcessStep.Decimal.Reading
import ProcessStep.Json.Reader
import ProcessStep.Resolution.Error
import ProcessStep.Text.Blank
import ProcessStep.Text.Casing

/-!
Text as a value of a declared type. Templates render to text, and a form field says what the
text is read as. The empty text is no value, except where text is wanted; blanks around a
number or a truth value do not matter.
-/

namespace ProcessStep.FieldType

/-- Least and greatest whole numbers of the type `long`: -2^63 and 2^63 - 1. -/
def leastLong : Int := -9223372036854775808

def greatestLong : Int := 9223372036854775807

/-- An optional sign and decimal digits, when the number is in range. -/
def long? (s : List Char) : Option Int :=
  let (negative, digits) := Decimal.spanSign s
  if digits.isEmpty || !digits.all Decimal.isDigit then none
  else
    let size : Int := Decimal.ofDigits digits
    let n := if negative then -size else size
    if leastLong ≤ n && n ≤ greatestLong then some n else none

def number? (s : List Char) : Option Float :=
  (Decimal.ofText? s).filter fun x => !x.isNaN && !x.isInf

/-- A truth value by its name, in any case of the letters. -/
def boolean? (s : List Char) : Option Bool :=
  match Text.toSmall (String.ofList s) with
  | "true" => some true
  | "false" => some false
  | _ => none

/-- What the type makes of a text that is not empty. -/
def read? (t : FieldType) (s : String) : Option Json :=
  match t with
  | .string => some (.str s)
  | .long => (long? (Text.trim s.toList)).map .int
  | .number => (number? (Text.trim s.toList)).map .float
  | .boolean => (boolean? (Text.trim s.toList)).map .bool
  | .json =>
      match Json.parse s with
      | .ok v => some v
      | .error _ => none

/-- The text as a value of the type. -/
def coerce (t : FieldType) (s : String) : Except ResolutionError Json :=
  if s.isEmpty && t != .string then .ok .null
  else
    match t.read? s with
    | some v => .ok v
    | none => .error (.coercion s t)

end ProcessStep.FieldType
