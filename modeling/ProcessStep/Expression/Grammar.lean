import ProcessStep.Expression.Term
import ProcessStep.Expression.Token

/-!
The grammar of expressions, from the loosest to the tightest binding: the conditional, `or`,
`and`, `not`, comparisons, sums, joining of texts, products, powers, negation, and last what
follows an operand: attributes, items, calls, filters and tests. All binary operators group to
the left. Expressions may be nested only so deep.
-/

namespace ProcessStep.Expression.Grammar

/-- No phrase goes on with these tokens. -/
def stuck {α : Type} : List Token → Outcome α
  | .broken p :: _ => .error p
  | _ => .error .malformed

/-- How deep expressions, operands and the statements around them may be nested, counted
together. -/
def deepest : Nat := 150

/-- Binary operators by level, the loosest first. -/
def operator? : Nat → Token → Option (Term → Term → Term)
  | 0, .name "or" => some .or
  | 1, .name "and" => some .and
  | 2, .sign "+" => some (.binary .add)
  | 2, .sign "-" => some (.binary .subtract)
  | 3, .sign "~" => some (.binary .concat)
  | 4, .sign "*" => some (.binary .multiply)
  | 4, .sign "/" => some (.binary .divide)
  | 4, .sign "//" => some (.binary .floorDivide)
  | 4, .sign "%" => some (.binary .modulo)
  | 5, .sign "**" => some (.binary .power)
  | _, _ => none

def comparison? : List Token → Outcome (Option (Comparison × List Token))
  | .sign "==" :: ts => .ok (some (.equal, ts))
  | .sign "!=" :: ts => .ok (some (.notEqual, ts))
  | .sign "<" :: ts => .ok (some (.less, ts))
  | .sign "<=" :: ts => .ok (some (.lessEqual, ts))
  | .sign ">" :: ts => .ok (some (.greater, ts))
  | .sign ">=" :: ts => .ok (some (.greaterEqual, ts))
  | .name "in" :: ts => .ok (some (.isIn, ts))
  | .name "not" :: .name "in" :: ts => .ok (some (.isNotIn, ts))
  | .name "not" :: ts => stuck ts
  | _ => .ok none

def expect (s : String) : List Token → Outcome (List Token)
  | .sign t :: ts => if s = t then .ok ts else .error .malformed
  | ts => stuck ts

/-- The rest of the name of a filter or a test, which may have points in it. -/
def dottedName (s : String) : List Token → Outcome (String × List Token)
  | .sign "." :: .name t :: ts => dottedName (s ++ "." ++ t) ts
  | .sign "." :: ts => stuck ts
  | ts => .ok (s, ts)

/-- Text literals that stand one after the other are one. -/
def joinTexts (s : String) : List Token → String × List Token
  | .str t :: ts => joinTexts (s ++ t) ts
  | ts => (s, ts)

/-- The token begins the argument of a test that is written without parentheses. -/
def beginsArgument : Token → Bool
  | .name s => !(["and", "or", "else", "is"].contains s)
  | .str _ => true
  | .int _ => true
  | .float _ => true
  | .sign s => ["+", "-", "[", "\x7b"].contains s
  | _ => false

def mostArguments : Nat := 2000

def simpleCompare (first : Term) (rest : List (Comparison × Term)) : Term :=
  if rest.isEmpty then first else .compare first rest

mutual

def expression (fuel depth : Nat) (ts : List Token) : Outcome (Term × List Token) :=
  match fuel with
  | 0 => stuck []
  | fuel + 1 => if deepest ≤ depth then stuck [] else conditional fuel (depth + 1) ts

def conditional (fuel depth : Nat) (ts : List Token) : Outcome (Term × List Token) :=
  match fuel with
  | 0 => stuck []
  | fuel + 1 => do
      let (t, ts) ← leftToRight fuel 0 depth ts
      conditions fuel depth t ts

def conditions (fuel depth : Nat) (t : Term) (ts : List Token) : Outcome (Term × List Token) :=
  match fuel with
  | 0 => stuck []
  | fuel + 1 =>
      match ts with
      | .name "if" :: ts => do
          let (c, ts) ← leftToRight fuel 0 depth ts
          match ts with
          | .name "else" :: ts => do
              let (e, ts) ← conditional fuel depth ts
              conditions fuel depth (.choose c t (some e)) ts
          | ts => conditions fuel depth (.choose c t none) ts
      | ts => .ok (t, ts)

/-- Operands of a level and the operators of that level between them. -/
def leftToRight (fuel level depth : Nat) (ts : List Token) : Outcome (Term × List Token) :=
  match fuel with
  | 0 => stuck []
  | fuel + 1 => do
      let (t, ts) ← operand fuel level depth ts
      further fuel level depth t ts

def further (fuel level depth : Nat) (t : Term) (ts : List Token) : Outcome (Term × List Token) :=
  match fuel with
  | 0 => stuck []
  | fuel + 1 =>
      match ts with
      | [] => .ok (t, [])
      | o :: rest =>
          match operator? level o with
          | some make => do
              let (r, ts) ← operand fuel level depth rest
              further fuel level depth (make t r) ts
          | none => .ok (t, o :: rest)

def operand (fuel level depth : Nat) (ts : List Token) : Outcome (Term × List Token) :=
  match fuel with
  | 0 => stuck []
  | fuel + 1 =>
      if level = 1 then negation fuel depth ts
      else if level = 5 then postfixed fuel depth ts
      else leftToRight fuel (level + 1) depth ts

def negation (fuel depth : Nat) (ts : List Token) : Outcome (Term × List Token) :=
  match fuel with
  | 0 => stuck []
  | fuel + 1 =>
      match ts with
      | .name "not" :: ts => do
          let (t, ts) ← negation fuel depth ts
          .ok (.not t, ts)
      | ts => do
          let (t, ts) ← leftToRight fuel 2 depth ts
          let (rest, ts) ← comparisons fuel depth ts
          .ok (simpleCompare t rest, ts)

def comparisons (fuel depth : Nat) (ts : List Token) :
    Outcome (List (Comparison × Term) × List Token) :=
  match fuel with
  | 0 => stuck []
  | fuel + 1 => do
      match ← comparison? ts with
      | none => .ok ([], ts)
      | some (c, ts) => do
          let (t, ts) ← leftToRight fuel 2 depth ts
          let (rest, ts) ← comparisons fuel depth ts
          .ok ((c, t) :: rest, ts)

def postfixed (fuel depth : Nat) (ts : List Token) : Outcome (Term × List Token) :=
  match fuel with
  | 0 => stuck []
  | fuel + 1 => do
      let (t, ts) ← signed fuel depth ts
      let (t, ts) ← accesses fuel depth t ts
      pipes fuel depth t ts

def signed (fuel depth : Nat) (ts : List Token) : Outcome (Term × List Token) :=
  match fuel with
  | 0 => stuck []
  | fuel + 1 =>
      match ts with
      | .sign "-" :: ts => do
          let (t, ts) ← signed fuel depth ts
          .ok (.negate t, ts)
      | ts => if deepest ≤ depth then stuck [] else primary fuel (depth + 1) ts

def accesses (fuel depth : Nat) (t : Term) (ts : List Token) : Outcome (Term × List Token) :=
  match fuel with
  | 0 => stuck []
  | fuel + 1 =>
      match ts with
      | .sign "." :: .name s :: ts => accesses fuel depth (.member t s) ts
      | .sign "." :: .int n :: ts => accesses fuel depth (.item t (.const (.count n))) ts
      | .sign "." :: ts => stuck ts
      | .sign "[" :: ts => do
          let (start, ts) ← bound fuel depth ts
          match ts with
          | .sign ":" :: ts => do
              let (stop, ts) ← bound fuel depth ts
              let (step, ts) ← match ts with
                | .sign ":" :: ts => bound fuel depth ts
                | ts => .ok (none, ts)
              let ts ← expect "]" ts
              accesses fuel depth (.slice t start stop step) ts
          | ts =>
              match start with
              | none => stuck ts
              | some key => do
                  let ts ← expect "]" ts
                  accesses fuel depth (.item t key) ts
      | .sign "(" :: ts => do
          let (args, ts) ← arguments fuel depth 0 false ts
          accesses fuel depth (.call t args) ts
      | ts => .ok (t, ts)

/-- A bound of a slice, which may be left out. -/
def bound (fuel depth : Nat) (ts : List Token) : Outcome (Option Term × List Token) :=
  match fuel with
  | 0 => stuck []
  | fuel + 1 =>
      match ts with
      | .sign ":" :: _ => .ok (none, ts)
      | .sign "]" :: _ => .ok (none, ts)
      | ts => do
          let (t, ts) ← expression fuel depth ts
          .ok (some t, ts)

def pipes (fuel depth : Nat) (t : Term) (ts : List Token) : Outcome (Term × List Token) :=
  match fuel with
  | 0 => stuck []
  | fuel + 1 =>
      match ts with
      | .sign "|" :: .name s :: ts => do
          let (s, ts) ← dottedName s ts
          match ts with
          | .sign "(" :: ts => do
              let (args, ts) ← arguments fuel depth 0 false ts
              pipes fuel depth (.filter t s args) ts
          | ts => pipes fuel depth (.filter t s []) ts
      | .sign "|" :: ts => stuck ts
      | .name "is" :: .name "not" :: .name s :: ts => do
          let (s, ts) ← dottedName s ts
          let (args, ts) ← testArguments fuel depth ts
          pipes fuel depth (.not (.test t s args)) ts
      | .name "is" :: .name "not" :: ts => stuck ts
      | .name "is" :: .name s :: ts => do
          let (s, ts) ← dottedName s ts
          let (args, ts) ← testArguments fuel depth ts
          pipes fuel depth (.test t s args) ts
      | .name "is" :: ts => stuck ts
      | ts => .ok (t, ts)

/-- The arguments of a test: in parentheses, or a single operand, or none. -/
def testArguments (fuel depth : Nat) (ts : List Token) : Outcome (List Argument × List Token) :=
  match fuel with
  | 0 => stuck []
  | fuel + 1 =>
      match ts with
      | .sign "(" :: ts => arguments fuel depth 0 false ts
      | t :: rest =>
          if beginsArgument t then do
            let (a, ts) ← signed fuel depth (t :: rest)
            let (a, ts) ← accesses fuel depth a ts
            .ok ([.positional a], ts)
          else .ok ([], t :: rest)
      | [] => .ok ([], [])

/-- Arguments up to the closing parenthesis, `read` of them being read already; after a named one
all are named. -/
def arguments (fuel depth read : Nat) (named : Bool) (ts : List Token) :
    Outcome (List Argument × List Token) :=
  match fuel with
  | 0 => stuck []
  | fuel + 1 =>
      match ts with
      | .sign ")" :: ts => .ok ([], ts)
      | ts => do
          let ts ← if read = 0 then .ok ts else expect "," ts
          match ts with
          | .sign ")" :: ts => .ok ([], ts)
          | ts =>
              if mostArguments ≤ read then stuck []
              else do
                let (a, ts) ← argument fuel depth named ts
                let (args, ts) ← arguments fuel depth (read + 1) (named || a.isNamed) ts
                .ok (a :: args, ts)

/-- One argument; once there was a named one, no other is positional. -/
def argument (fuel depth : Nat) (named : Bool) (ts : List Token) :
    Outcome (Argument × List Token) :=
  match fuel with
  | 0 => stuck []
  | fuel + 1 =>
      match ts with
      | .sign "**" :: ts => do
          let (t, ts) ← expression fuel depth ts
          .ok (.spreadNamed t, ts)
      | .sign "*" :: ts => do
          let (t, ts) ← expression fuel depth ts
          .ok (.spread t, ts)
      | ts => do
          let (t, ts) ← expression fuel depth ts
          match t, ts with
          | .name s, .sign "=" :: ts => do
              let (t, ts) ← expression fuel depth ts
              .ok (.named s t, ts)
          | t, ts => if named then stuck [] else .ok (.positional t, ts)

/-- A name, a literal, or something in brackets. Where the text goes wrong right behind a first text
literal it ends there. -/
def primary (fuel depth : Nat) (ts : List Token) : Outcome (Term × List Token) :=
  match fuel with
  | 0 => stuck []
  | fuel + 1 =>
      match ts with
      | .name s :: ts =>
          if s = "true" || s = "True" then .ok (.const (.bool true), ts)
          else if s = "false" || s = "False" then .ok (.const (.bool false), ts)
          else if s = "none" || s = "None" then .ok (.const .none, ts)
          else .ok (.name s, ts)
      | .str s :: .broken _ :: _ => .ok (.const (.text s), [])
      | .str s :: ts =>
          let (s, ts) := joinTexts s ts
          .ok (.const (.text s), ts)
      | .int n :: ts => .ok (.const (.count n), ts)
      | .float x :: ts => .ok (.const (.float x), ts)
      | .sign "[" :: ts => do
          let (items, ts) ← items fuel depth "]" true ts
          .ok (.list items, ts)
      | .sign "\x7b" :: ts => do
          let (entries, ts) ← entries fuel depth true ts
          .ok (.map entries, ts)
      | .sign "(" :: .sign ")" :: ts => .ok (.list [], ts)
      | .sign "(" :: ts => do
          let (t, ts) ← expression fuel depth ts
          match ts with
          | .sign ")" :: ts => .ok (t, ts)
          | ts => do
              let (rest, ts) ← items fuel depth ")" false ts
              .ok (.list (t :: rest), ts)
      | ts => stuck ts

/-- Items up to a closing bracket; a comma may stand after the last one. -/
def items (fuel depth : Nat) (close : String) (first : Bool) (ts : List Token) :
    Outcome (List Term × List Token) :=
  match fuel with
  | 0 => stuck []
  | fuel + 1 =>
      match expect close ts with
      | .ok ts => .ok ([], ts)
      | .error _ => do
          let ts ← if first then .ok ts else expect "," ts
          match first, expect close ts with
          | false, .ok ts => .ok ([], ts)
          | _, _ => do
              let (t, ts) ← expression fuel depth ts
              let (rest, ts) ← items fuel depth close false ts
              .ok (t :: rest, ts)

def entries (fuel depth : Nat) (first : Bool) (ts : List Token) :
    Outcome (List (Term × Term) × List Token) :=
  match fuel with
  | 0 => stuck []
  | fuel + 1 =>
      match expect "\x7d" ts with
      | .ok ts => .ok ([], ts)
      | .error _ => do
          let ts ← if first then .ok ts else expect "," ts
          match first, expect "\x7d" ts with
          | false, .ok ts => .ok ([], ts)
          | _, _ => do
              let (k, ts) ← expression fuel depth ts
              let ts ← expect ":" ts
              let (v, ts) ← expression fuel depth ts
              let (rest, ts) ← entries fuel depth false ts
              .ok ((k, v) :: rest, ts)

end

def isCloser : Token → Bool
  | .closeOutput => true
  | .closeTag => true
  | _ => false

/-- The number of tokens up to the end of the marker that they are in. -/
def phraseLength (ts : List Token) : Nat :=
  (ts.takeWhile (!isCloser ·)).length

/-- No phrase is nested deeper than this many steps. -/
def enough (ts : List Token) : Nat :=
  24 * (phraseLength ts + 2)

end Grammar

/-- The term of an expression, which has to be one expression from its first character to its
last. -/
def Term.ofText (s : List Char) : Outcome Term := do
  let ts := tokens s
  match ← Grammar.expression (Grammar.enough ts) 0 ts with
  | (t, []) => .ok t
  | (_, ts) => Grammar.stuck ts

end ProcessStep.Expression
