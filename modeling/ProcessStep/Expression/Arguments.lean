import ProcessStep.Expression.Access

/-!
Arguments of filters, tests and functions. Named arguments come last and together; what takes
no named arguments takes them as one surplus argument. A reader takes what it needs from the
front of the arguments, and `none` left at the end is checked by `done`.
-/

namespace ProcessStep.Expression

inductive Given where
  | value (v : Value)
  | named (entries : List (Value × Value))

namespace Given

def toValue : Given → Value
  | .value v => v
  | .named entries => .map entries

def toText : Given → Outcome String
  | .value v => .ok v.toText
  | .named _ => .error .invalidOperation

def text (g : Given) : Outcome String :=
  match g.toValue with
  | .str s _ => .ok s
  | _ => .error .invalidOperation

def truth (g : Given) : Outcome Bool :=
  match g.toValue with
  | .bool b => .ok b
  | _ => .error .invalidOperation

def position (g : Given) : Outcome Int :=
  match g.toValue.position? with
  | some i => .ok i
  | none => .error .invalidOperation

end Given

namespace Arguments

def required {α : Type} (read : Given → Outcome α) : List Given → Outcome (α × List Given)
  | [] => .error .missingArgument
  | g :: rest => do .ok (← read g, rest)

/-- The next argument; undefined and none count as left out. -/
def optional {α : Type} (read : Given → Outcome α) : List Given → Outcome (Option α × List Given)
  | [] => .ok (none, [])
  | g :: rest =>
      if g.toValue.isAbsent then .ok (none, rest) else do .ok (some (← read g), rest)

def keywords : List Given → List (Value × Value) × List Given
  | .named entries :: rest => (entries, rest)
  | gs => ([], gs)

def keyword? (entries : List (Value × Value)) (name : String) : Option Value :=
  (Value.keyed? entries (.text name)).filter fun v => !v.isAbsent

def done : List Given → Outcome Unit
  | [] => .ok ()
  | _ => .error .tooManyArguments

def onlyNamed (entries : List (Value × Value)) (names : List String) : Outcome Unit :=
  if entries.all fun (k, _) => names.contains k.toText then .ok () else .error .tooManyArguments

end Arguments

end ProcessStep.Expression
