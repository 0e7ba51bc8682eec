import ProcessStep.Expression.Arguments
import ProcessStep.Text.Casing

/-!
The tests that may follow `is`. Any other test is unknown; `filter`, `sameas` and `test` are left
out.
-/

namespace ProcessStep.Expression.Test

open Arguments

def alone (p : Value → Bool) (v : Value) (args : List Given) : Outcome Bool := do
  done args
  .ok (p v)

def against (p : Value → Value → Bool) (v : Value) (args : List Given) : Outcome Bool := do
  let (w, args) ← required (fun g => .ok g.toValue) args
  done args
  .ok (p v w)

def againstText (p : List Char → List Char → Bool) (v : Value) (args : List Given) :
    Outcome Bool := do
  let (s, args) ← required Given.toText args
  done args
  .ok (p v.toText.toList s.toList)

/-- A test of every character of a text; only texts have it. -/
def ofCharacters (p : Char → Bool) (v : Value) (args : List Given) : Outcome Bool := do
  let s ← (Given.value v).text
  done args
  .ok (s.toList.all p)

def hasParity (r : Int) (v : Value) : Bool :=
  match v with
  | .int n _ => Value.fits n && n % 2 = r
  | v => v.position?.any (· % 2 = r)

def isDivisible (v w : Value) : Bool :=
  match Value.exactOperands? v w with
  | some (.ints m n) => n ≠ 0 && m % n = 0
  | some (.floats x y) => Value.floatRemainder x y == 0
  | none => false

def compared (c : Comparison) : Value → Value → Bool := fun v w =>
  match c.apply v w with
  | .ok b => b
  | .error _ => false

def named? : String → Option (Value → List Given → Outcome Bool)
  | "defined" => some (alone (!·.isUndefined))
  | "undefined" => some (alone (·.isUndefined))
  | "none" => some (alone (·.kind = .none))
  | "true" => some (alone fun v => v matches .bool true)
  | "false" => some (alone fun v => v matches .bool false)
  | "boolean" => some (alone (·.kind = .bool))
  | "number" => some (alone (·.kind = .number))
  | "integer" => some (alone fun v => v matches .int _ _)
  | "int" => some (alone fun v => v matches .int _ _)
  | "float" => some (alone fun v => v.kind = .number && !(v matches .int _ _))
  | "string" => some (alone (·.kind = .text))
  | "sequence" => some (alone (·.kind = .sequence))
  | "mapping" => some (alone (·.kind = .map))
  | "iterable" => some (alone (·.isIterable))
  | "odd" => some (alone (hasParity 1))
  | "even" => some (alone (hasParity 0))
  | "divisibleby" => some (against isDivisible)
  | "eq" => some (against (compared .equal))
  | "equalto" => some (against (compared .equal))
  | "==" => some (against (compared .equal))
  | "ne" => some (against (compared .notEqual))
  | "!=" => some (against (compared .notEqual))
  | "lt" => some (against (compared .less))
  | "lessthan" => some (against (compared .less))
  | "<" => some (against (compared .less))
  | "le" => some (against (compared .lessEqual))
  | "<=" => some (against (compared .lessEqual))
  | "gt" => some (against (compared .greater))
  | "greaterthan" => some (against (compared .greater))
  | ">" => some (against (compared .greater))
  | "ge" => some (against (compared .greaterEqual))
  | ">=" => some (against (compared .greaterEqual))
  | "in" => some (against (compared .isIn))
  | "lower" => some (ofCharacters Text.isSmall)
  | "upper" => some (ofCharacters Text.isCapital)
  | "startingwith" => some (againstText fun s t => t.isPrefixOf s)
  | "endingwith" => some (againstText fun s t => t.isSuffixOf s)
  | "safe" => some (alone fun v => v matches .str _ true)
  | "escaped" => some (alone fun v => v matches .str _ true)
  | _ => none

def apply (name : String) (v : Value) (args : List Given) : Outcome Bool :=
  match named? name with
  | some test => test v args
  | none => .error .unknownTest

end ProcessStep.Expression.Test
