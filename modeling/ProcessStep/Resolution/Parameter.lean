import ProcessStep.Definition.Basic
import ProcessStep.Resolution.Expression

/-!
Values of parameters. An input parameter sees the fields of the message over the scope and the
whole message as `message`; an output parameter sees the fields of the result over the scope it
is given and the whole result as `result`. Fields of neither hide the variables or the services,
and no parameter sees another's value.
-/

namespace ProcessStep.Definition.Parameter

/-- The value of the first source that is given, or else the fallback. -/
def resolveSource (p : Parameter) (s : Scope) (fallback : Json) :
    Except ResolutionError Json :=
  match p.expression, p.template, p.literal with
  | some e, _, _ => s.resolve e
  | none, some t, _ => (s.render t).map .str
  | none, none, some v => .ok v
  | none, none, none => .ok fallback

/-- The value of the source, an error being that of the parameter. -/
def resolve (p : Parameter) (s : Scope) (fallback : Json) : Except ResolutionError Json :=
  (p.resolveSource s fallback).mapError (.parameter p.name)

def inputScope (m : Message) (s : Scope) : Scope :=
  let s := s.extend m.data
  { s with extra := s.extra.insert "message" (.obj m.data) }

/-- Without a source, the message's field of the parameter's name or else the variable. -/
def inputValue (p : Parameter) (m : Message) (s : Scope) : Except ResolutionError Json :=
  p.resolve (inputScope m s) (((m.get? p.name).or (s.vars.get? p.name)).getD .null)

def outputScope (result : Json) (s : Scope) : Scope :=
  let s := s.extend (result.fields?.getD [])
  { s with extra := s.extra.insert "result" result }

/-- Without a source, the result's field of the parameter's name. -/
def outputValue (p : Parameter) (result : Json) (s : Scope) : Except ResolutionError Json :=
  p.resolve (outputScope result s) ((result.field? p.name).getD .null)

/-- Values of parameters under their names, the last one of each name; the first error stops. -/
def collect (value : Parameter → Except ResolutionError Json) (read : Table Json) :
    List Parameter → Except ResolutionError (Table Json)
  | [] => .ok read
  | p :: rest => do
      let v ← value p
      collect value (read.insert p.name v) rest

theorem resolveSource_of_expression {p : Parameter} {e : String} (h : p.expression = some e)
    (s : Scope) (fallback : Json) : p.resolveSource s fallback = s.resolve e := by
  simp [resolveSource, h]

end ProcessStep.Definition.Parameter
