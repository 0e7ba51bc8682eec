import ProcessStep.Definition.Basic
import ProcessStep.Environment
import ProcessStep.Resolution.Coercion
import ProcessStep.Resolution.Expression

/-!
Forms that are filled in while a step waits. Every field may have a default value, rendered from
its template, and a value that was entered; an entered null is a value. Ids of fields may repeat:
values are entered into the first field of an id.
-/

namespace ProcessStep

structure FormField extends Definition.Field where
  /-- The rendered default. -/
  defaultValue : Option Json
  entered : Option Json

namespace FormField

def ofDefinition (d : Definition.Field) : FormField :=
  { d with defaultValue := none, entered := none }

/-- The field with the default that its template renders to, if it has one. -/
def renderDefault (s : Scope) (f : FormField) : Except ResolutionError FormField :=
  match f.default with
  | none => .ok f
  | some template => do
      let text ← s.render template
      let v ← (FieldType.ofTag f.type).coerce text
      .ok { f with defaultValue := some v }

/-- What was entered, or else the default, or else null. -/
def value (f : FormField) : Json :=
  (f.entered.or f.defaultValue).getD .null

def toJson (f : FormField) : Json :=
  .ofTable <| (Table.ofList [("id", Json.str f.id), ("type", .str f.type)])
    |>.insertSome "label" (f.label.map .str)
    |>.insertSome "defaultValue" f.defaultValue
    |>.insertSome "value" f.entered

end FormField

structure Form where
  key : Option String
  fields : List FormField

namespace Form

def ofDefinition (d : Definition.Form) : Form :=
  { key := d.key, fields := d.fields.map .ofDefinition }

/-- Renders the defaults one after the other, up to the first that fails. -/
def renderDefaults (s : Scope) : List FormField → Except ResolutionError Unit × List FormField
  | [] => (.ok (), [])
  | f :: rest =>
      match f.renderDefault s with
      | .error e => (.error e, f :: rest)
      | .ok f =>
          let (outcome, rest) := renderDefaults s rest
          (outcome, f :: rest)

def scope (input : Json) (env : Environment) : Scope :=
  env.scope [("input", input)]

/-- The form with its defaults rendered; after a failure the fields before it have theirs. -/
def init (f : Form) (input : Json) (env : Environment) : Except ResolutionError Unit × Form :=
  let (outcome, fields) := renderDefaults (scope input env) f.fields
  (outcome, { f with fields })

def field? (f : Form) (id : String) : Option FormField :=
  f.fields.find? (·.id = id)

/-- Enters a value into the first field of an id. -/
def enter (id : String) (v : Json) : List FormField → List FormField
  | [] => []
  | f :: rest => if f.id = id then { f with entered := some v } :: rest else f :: enter id v rest

/-- Enters a value and says whether there is such a field. -/
def setValue (f : Form) (id : String) (v : Json) : Bool × Form :=
  ((f.field? id).isSome, { f with fields := enter id v f.fields })

/-- The id and the value in an entry of a snapshot, if it has both. -/
def enteredValue? (v : Json) : Option (String × Json) := do
  let id ← (← v.field? "id").text?
  let value ← v.field? "value"
  some (id, value)

/-- The values to be entered that a snapshot holds, in their order. -/
def entries (snapshot : Json) : List (String × Json) :=
  (((snapshot.field? "fields").bind Json.items?).getD []).filterMap enteredValue?

/-- Enters values one after the other and counts those that a field took. -/
def setValues (f : Form) : List (String × Json) → Nat × Form
  | [] => (0, f)
  | (id, v) :: rest =>
      let (taken, f) := f.setValue id v
      let (count, f) := setValues f rest
      ((if taken then 1 else 0) + count, f)

/-- Enters the values of a snapshot; gives how many there was a field for. -/
def restore (f : Form) (snapshot : Json) : Nat × Form :=
  f.setValues (entries snapshot)

/-- The values under the ids of their fields. Of fields with the same id the last counts. -/
def values (f : Form) : Table Json :=
  Table.ofList (f.fields.map fun field => (field.id, field.value))

def state (f : Form) : Json :=
  .ofTable <| (Table.ofList [("fields", Json.arr (f.fields.map (·.toJson)))])
    |>.insertSome "key" (f.key.map .str)

@[simp] theorem ids_enter (id : String) (v : Json) (fs : List FormField) :
    (enter id v fs).map (·.id) = fs.map (·.id) := by
  induction fs with
  | nil => rfl
  | cons f fs ih =>
    unfold enter
    split
    · rfl
    · simp [ih]

end Form

end ProcessStep
