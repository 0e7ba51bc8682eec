import ProcessStep.Environment
import ProcessStep.Expression.Filter
import ProcessStep.Expression.Grammar

/-!
The value of a term. A name stands for what the innermost frame that has it says, then for what
the scope says, then for a built-in function; otherwise it is undefined. Operands are evaluated
from left to right, and `and`, `or`, the conditional and chains of comparisons leave out what
they do not need.

The built-in functions are `range` and `dict`; `debug` and `namespace` are left out, and values other
than maps have no methods.
-/

namespace ProcessStep.Expression

/-- What names stand for, the innermost frame first, and the services that may be called. -/
structure Context where
  frames : List (Table Value)
  root : Table Value
  services : Services

namespace Context

def builtin? : String → Option Value
  | "range" => some (.builtin .range)
  | "dict" => some (.builtin .dict)
  | _ => none

def lookup? (c : Context) (name : String) : Option Value :=
  match c.frames.findSome? (Table.get? · name) with
  | some v => some v
  | none =>
      match Table.get? c.root name with
      | some v => some v
      | none => builtin? name

def serviceMap (s : Services) : Value :=
  .map (s.names.map fun name => (.text name, .service name))

def ofScope (s : Scope) : Context :=
  let extra : Table Value := s.extra.map fun (k, v) => (k, .ofJson v)
  { frames := []
    root := (extra.insert "variables" (.ofJson (.obj s.vars))).insert "services"
      (serviceMap s.services)
    services := s.services }

end Context

/-! ### Functions -/

/-- No list of numbers is longer. -/
def longestRange : Nat := 100000

/-- The numbers from `low` on in steps of `step`, before `high`. -/
def rangeItems (low high step : Int) : Outcome Value :=
  if step = 0 then .error .invalidOperation
  else
    let distance := if 0 < step then high - low else low - high
    let count := (distance.toNat + step.natAbs - 1) / step.natAbs
    if longestRange < count then .error .invalidOperation
    else .ok (.list .stream ((List.range count).map fun (i : Nat) => .int (low + i * step) .signed))

def Builtin.apply (f : Builtin) (args : List Given) : Outcome Value :=
  match f with
  | .range => do
      let (first, args) ← Arguments.required Given.position args
      let (second, args) ← Arguments.optional Given.position args
      let (step, args) ← Arguments.optional Given.position args
      Arguments.done args
      match second with
      | some high => rangeItems first high (step.getD 1)
      | none => rangeItems 0 first (step.getD 1)
  | .dict => do
      let (base, args) ← match args with
        | .value v :: rest => .ok (some v, rest)
        | args => .ok (none, args)
      let (entries, args) := Arguments.keywords args
      Arguments.done args
      match base with
      | none => .ok (Value.mapOf entries)
      | some v =>
          match v with
          | .undefined => .ok (Value.mapOf entries)
          | .none => .ok (Value.mapOf entries)
          | .map given => .ok (Value.mapOf (given ++ entries))
          | _ => .error .invalidOperation

namespace Context

/-- Arguments reach a service as data. -/
def callService (c : Context) (name : String) (args : List Given) : Outcome Value :=
  match args.mapM (·.toValue.toJson?) with
  | none => .error .invalidOperation
  | some data =>
      match Table.get? c.services name with
      | none => .error .invalidOperation
      | some service =>
          match service data with
          | .ok v => .ok (.ofJson v)
          | .error text => .error (.serviceFailed name text)

def call (c : Context) (f : Value) (args : List Given) : Outcome Value :=
  match f with
  | .service name => c.callService name args
  | .builtin b => b.apply args
  | _ => .error .invalidOperation

/-- The methods of a value are the functions under texts of a map. -/
def callMethod (c : Context) (v : Value) (name : String) (args : List Given) : Outcome Value :=
  match v with
  | .map entries =>
      match Value.keyed? entries (.text name) with
      | some f => c.call f args
      | none => .error .unknownMethod
  | _ => .error .unknownMethod

/-- A function by its name. No function has the name `super`, whatever it stands for. -/
def callName (c : Context) (name : String) (args : List Given) : Outcome Value :=
  if name = "super" then .error .invalidOperation
  else match c.lookup? name with
    | some f => c.call f args
    | none => .error .unknownFunction

end Context

inductive Positional where
  | value (v : Value)
  /-- Its items are the arguments. -/
  | spread (v : Value)

def Positional.values : Positional → Outcome (List Value)
  | .value v => .ok [v]
  | .spread v =>
      match v.iterate? with
      | some vs => .ok vs
      | none => .error .invalidOperation

/-- Adds the entries of a map to the named arguments; of equal names the last counts. -/
def addNamed (entries : List (Value × Value)) : Value → Outcome (List (Value × Value))
  | .map more => .ok (more.foldl (fun m e => Value.insertEntry m e.1 e.2) entries)
  | _ => .error .invalidOperation

/-- Evaluated arguments as they are given: the positional ones, and then all named ones, which
are maps, as one. -/
def givenArguments (positional : List Positional) (named : List Value) :
    Outcome (List Given) := do
  let entries ← named.foldlM addNamed []
  let values ← positional.mapM Positional.values
  .ok (values.flatten.map .value ++ if named.isEmpty then [] else [.named entries])

mutual

def Term.eval (c : Context) : Term → Outcome Value
  | .const v => .ok v
  | .name s => .ok ((c.lookup? s).getD .undefined)
  | .list items => do .ok (.sequence (← evalAll c items))
  | .map entries => do .ok (.mapOf (← evalEntries c entries))
  | .member t s => do (← t.eval c).member s
  | .item t key => do
      let v ← t.eval c
      let k ← key.eval c
      v.item k
  | .slice t start stop step => do
      let v ← t.eval c
      let start ← evalBound c start
      let stop ← evalBound c stop
      let step ← evalBound c step
      v.slice start stop step
  | .call (.name s) args => do
      let positional ← evalPositional c args
      c.callName s (← givenArguments positional (← evalNamed c args))
  | .call (.member t s) args => do
      let v ← t.eval c
      let positional ← evalPositional c args
      c.callMethod v s (← givenArguments positional (← evalNamed c args))
  | .call f args => do
      let v ← f.eval c
      let positional ← evalPositional c args
      c.call v (← givenArguments positional (← evalNamed c args))
  | .filter t s args => do
      let v ← t.eval c
      let positional ← evalPositional c args
      Filter.apply s v (← givenArguments positional (← evalNamed c args))
  | .test t s args => do
      let v ← t.eval c
      let positional ← evalPositional c args
      .ok (.bool (← Test.apply s v (← givenArguments positional (← evalNamed c args))))
  | .not t => do .ok (.bool !(← t.eval c).isTruthy)
  | .negate t => do (← t.eval c).negate
  | .binary op l r => do
      let a ← l.eval c
      let b ← r.eval c
      op.apply a b
  | .and l r => do if (← l.eval c).isTruthy then r.eval c else .ok (.bool false)
  | .or l r => do
      let a ← l.eval c
      if a.isTruthy then .ok a else r.eval c
  | .compare first rest => do
      let a ← first.eval c
      .ok (.bool (← evalComparisons c a rest))
  | .choose condition yes no => do
      if (← condition.eval c).isTruthy then yes.eval c
      else match no with
        | some t => t.eval c
        | none => .ok .undefined

def evalBound (c : Context) : Option Term → Outcome Value
  | none => .ok .none
  | some t => t.eval c

def evalAll (c : Context) : List Term → Outcome (List Value)
  | [] => .ok []
  | t :: rest => do
      let v ← t.eval c
      let vs ← evalAll c rest
      .ok (v :: vs)

def evalEntries (c : Context) : List (Term × Term) → Outcome (List (Value × Value))
  | [] => .ok []
  | (k, t) :: rest => do
      let k ← k.eval c
      let v ← t.eval c
      let vs ← evalEntries c rest
      .ok ((k, v) :: vs)

/-- Every comparison of a chain holds; the first that does not ends it. -/
def evalComparisons (c : Context) (a : Value) : List (Comparison × Term) → Outcome Bool
  | [] => .ok true
  | (op, t) :: rest => do
      let b ← t.eval c
      if ← op.apply a b then evalComparisons c b rest else .ok false

/-- The positional arguments, which are evaluated before the named ones. -/
def evalPositional (c : Context) : List Argument → Outcome (List Positional)
  | [] => .ok []
  | .positional t :: rest => do
      let v ← t.eval c
      let vs ← evalPositional c rest
      .ok (.value v :: vs)
  | .spread t :: rest => do
      let v ← t.eval c
      let vs ← evalPositional c rest
      .ok (.spread v :: vs)
  | .named _ _ :: rest => evalPositional c rest
  | .spreadNamed _ :: rest => evalPositional c rest

def evalNamed (c : Context) : List Argument → Outcome (List Value)
  | [] => .ok []
  | .named s t :: rest => do
      let v ← t.eval c
      let vs ← evalNamed c rest
      .ok (.map [(.text s, v)] :: vs)
  | .spreadNamed t :: rest => do
      let v ← t.eval c
      let vs ← evalNamed c rest
      .ok (v :: vs)
  | .positional _ :: rest => evalNamed c rest
  | .spread _ :: rest => evalNamed c rest

end

def evalArguments (c : Context) (args : List Argument) : Outcome (List Given) := do
  givenArguments (← evalPositional c args) (← evalNamed c args)

end ProcessStep.Expression
