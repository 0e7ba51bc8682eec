import ProcessStep.Expression.Term

/-!
Templates as trees: text, outputs and statements.
-/

namespace ProcessStep.Template

open Expression (Term)

/-- What a value is assigned to: a name, a member of an object, or a list of targets for the items
of the value. -/
inductive Target where
  | name (s : String)
  | member (object : Term) (s : String)
  | each (targets : List Target)

inductive Piece where
  | plain (s : String)
  | output (t : Term)
  | choose (condition : Term) (yes no : List Piece)
  /-- The body once per item that passes the condition, or the other part if none does. -/
  | loop (target : Target) (source : Term) (condition : Option Term) (body other : List Piece)
  | assign (target : Target) (t : Term)
  /-- Assigns the text of the body after the filters. -/
  | capture (target : Target) (filters : List (String × List Expression.Argument))
      (body : List Piece)
  /-- Names that hold within the body only; each sees those before it. -/
  | within (bindings : List (Target × Term)) (body : List Piece)

end ProcessStep.Template
