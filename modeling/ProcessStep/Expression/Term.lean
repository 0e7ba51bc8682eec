import ProcessStep.Expression.Value

/-!
Terms: expressions as trees.
-/

namespace ProcessStep.Expression

inductive Operator where
  | add
  | subtract
  | concat
  | multiply
  | divide
  | floorDivide
  | modulo
  | power
  deriving DecidableEq, Repr

inductive Comparison where
  | equal
  | notEqual
  | less
  | lessEqual
  | greater
  | greaterEqual
  | isIn
  | isNotIn
  deriving DecidableEq, Repr

mutual

inductive Term where
  | const (v : Value)
  | name (s : String)
  | list (items : List Term)
  | map (entries : List (Term × Term))
  | member (t : Term) (s : String)
  | item (t key : Term)
  | slice (t : Term) (start stop step : Option Term)
  | call (f : Term) (args : List Argument)
  | filter (t : Term) (s : String) (args : List Argument)
  | test (t : Term) (s : String) (args : List Argument)
  | not (t : Term)
  | negate (t : Term)
  | binary (op : Operator) (l r : Term)
  | and (l r : Term)
  | or (l r : Term)
  /-- A chain of comparisons; each holds between neighbours. -/
  | compare (first : Term) (rest : List (Comparison × Term))
  | choose (condition yes : Term) (no : Option Term)

inductive Argument where
  | positional (t : Term)
  | named (s : String) (t : Term)
  /-- The items of a list as arguments. -/
  | spread (t : Term)
  /-- The entries of a map as named arguments. -/
  | spreadNamed (t : Term)

end

def Argument.isNamed : Argument → Bool
  | .named _ _ => true
  | .spreadNamed _ => true
  | _ => false

end ProcessStep.Expression
