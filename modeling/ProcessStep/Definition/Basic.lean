import ProcessStep.Json.Basic

/-!
What a process definition says: activities with their parameters and forms, and the flows that
join them. Definitions are plain data and need not fit together; `LinkedProcess.link` checks that
they do.
-/

namespace ProcessStep.Definition

/-- A named value of an activity's input or output, and where the value comes from. The sources
are tried in the order of the fields; without any the name itself is looked up. -/
structure Parameter where
  name : String
  expression : Option String
  template : Option String
  literal : Option Json

namespace Parameter

def named (name : String) : Parameter :=
  { name, expression := none, template := none, literal := none }

def ofExpression (name expression : String) : Parameter :=
  { named name with expression := some expression }

def ofTemplate (name template : String) : Parameter :=
  { named name with template := some template }

def ofLiteral (name : String) (value : Json) : Parameter :=
  { named name with literal := some value }

end Parameter

/-- The parameters that make up an activity's input and its output. -/
structure Mapping where
  input : List Parameter
  output : List Parameter

namespace Mapping

def empty : Mapping := ⟨[], []⟩

def hasInput (m : Mapping) : Bool := !m.input.isEmpty

def hasOutput (m : Mapping) : Bool := !m.output.isEmpty

end Mapping

/-- A field of a form; `default` is a template for its default value. -/
structure Field where
  id : String
  label : Option String
  type : String
  default : Option String
  deriving DecidableEq

def Field.ofId (id : String) : Field :=
  { id, label := none, type := "string", default := none }

structure Form where
  key : Option String
  fields : List Field
  deriving DecidableEq

structure Activity where
  id : String
  type : String
  name : Option String
  mapping : Option Mapping
  form : Option Form

namespace Activity

def ofType (id type : String) : Activity :=
  { id, type, name := none, mapping := none, form := none }

def withMapping (a : Activity) (m : Mapping) : Activity :=
  { a with mapping := some m }

def withForm (a : Activity) (f : Form) : Activity :=
  { a with form := some f }

end Activity

structure Flow where
  id : String
  source : String
  target : String
  isDefault : Bool
  condition : Option String
  deriving DecidableEq

namespace Flow

def between (id source target : String) : Flow :=
  { id, source, target, isDefault := false, condition := none }

def asDefault (f : Flow) : Flow :=
  { f with isDefault := true }

def withCondition (f : Flow) (condition : String) : Flow :=
  { f with condition := some condition }

end Flow

structure Process where
  id : String
  name : String
  activities : List Activity
  flows : List Flow

end ProcessStep.Definition

namespace ProcessStep

/-- What becomes of flow ids in a snapshot that the activity does not have. -/
inductive RestorePolicy where
  /-- They are left out. -/
  | lenient
  /-- They are an error. -/
  | strict
  deriving DecidableEq, Repr

structure ExecutionConfig where
  restorePolicy : RestorePolicy
  deriving DecidableEq, Repr

namespace ExecutionConfig

def lenient : ExecutionConfig := ⟨.lenient⟩

def strict : ExecutionConfig := ⟨.strict⟩

end ExecutionConfig

/-- An outcome of a step other than a value. -/
structure Failure where
  message : String
  code : Option String
  deriving DecidableEq, Repr

end ProcessStep
