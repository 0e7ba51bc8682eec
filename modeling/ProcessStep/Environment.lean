import ProcessStep.Definition.Message
import ProcessStep.Text.Quoted

/-!
Environments and scopes. An environment holds the variables and services of a process, and the
iteration it is for; a scope is a snapshot of it with extra keys, in which expressions are
evaluated. No extra key given through `put` or `extend` hides the variables or the services.
-/

namespace ProcessStep

/-- A function that the host offers to expressions: a value, or the text of its failure. A service
is taken to answer alike whenever it is called with the same arguments, so what an expression comes
to depends on no other call. -/
abbrev Service := List Json → Except String Json

abbrev Services := Table Service

namespace Services

def names (s : Services) : List String := Table.keys s

end Services

/-- What expressions see: variables, services and extra keys. -/
structure Scope where
  vars : Table Json
  services : Services
  extra : Table Json

namespace Scope

/-- The names that always denote the variables and the services. -/
def isReserved (k : String) : Bool :=
  k = "variables" || k = "services"

/-- Writes an extra key; a reserved one is ignored. -/
def put (s : Scope) (k : String) (v : Json) : Scope :=
  if isReserved k then s else { s with extra := s.extra.insert k v }

def extend (s : Scope) (entries : List (String × Json)) : Scope :=
  entries.foldl (fun s e => s.put e.1 e.2) s

def serviceNames (s : Scope) : Json :=
  .texts s.services.names

/-- A top-level name as data; services are seen as the list of their names. -/
def get? (s : Scope) (k : String) : Option Json :=
  if k = "variables" then some (.obj s.vars)
  else if k = "services" then some s.serviceNames
  else s.extra.get? k

def toJson (s : Scope) : Json :=
  .ofTable ((s.extra.insert "variables" (.obj s.vars)).insert "services" s.serviceNames)

@[simp] theorem vars_put (s : Scope) (k : String) (v : Json) :
    (s.put k v).vars = s.vars := by
  unfold Scope.put; split <;> rfl

@[simp] theorem services_put (s : Scope) (k : String) (v : Json) :
    (s.put k v).services = s.services := by
  unfold Scope.put; split <;> rfl

theorem put_of_reserved {s : Scope} {k : String} (v : Json) (h : isReserved k = true) :
    s.put k v = s := by
  simp [Scope.put, h]

theorem extra_put {s : Scope} {k : String} (v : Json) (h : isReserved k = false) :
    (s.put k v).extra = s.extra.insert k v := by
  simp [Scope.put, h]

@[simp] theorem extend_cons (s : Scope) (e : String × Json) (es : List (String × Json)) :
    s.extend (e :: es) = (s.put e.1 e.2).extend es := rfl

@[simp] theorem vars_extend (s : Scope) (es : List (String × Json)) :
    (s.extend es).vars = s.vars := by
  induction es generalizing s with
  | nil => rfl
  | cons e es ih => simp [ih]

@[simp] theorem services_extend (s : Scope) (es : List (String × Json)) :
    (s.extend es).services = s.services := by
  induction es generalizing s with
  | nil => rfl
  | cons e es ih => simp [ih]

end Scope

structure Environment where
  vars : Table Json
  services : Services
  iteration : Option Iteration

namespace Environment

def ofVariables (vars : Table Json) : Environment :=
  { vars, services := [], iteration := none }

def setVariable (e : Environment) (name : String) (v : Json) : Environment :=
  { e with vars := e.vars.insert name v }

def valueOf? (e : Environment) (name : String) : Option Json :=
  e.vars.get? name

def register (e : Environment) (name : String) (s : Service) : Environment :=
  { e with services := Table.insert e.services name s }

def service? (e : Environment) (name : String) : Option Service :=
  Table.get? e.services name

/-- The extra keys of an iteration: `loop`, and `item` when it is for one. -/
def iterationKeys : Option Iteration → List (String × Json)
  | none => []
  | some i => ("loop", i.toJson) :: (i.item.map fun v => ("item", v)).toList

/-- A scope with the keys of the iteration and, over them, the given ones. -/
def scope (e : Environment) (extra : List (String × Json)) : Scope :=
  (Scope.extend ⟨e.vars, e.services, []⟩ (iterationKeys e.iteration)).extend extra

/-- The same variables and services for one round of a loop. -/
def forIteration (e : Environment) (i : Iteration) : Environment :=
  { e with iteration := some i }

@[simp] theorem vars_scope (e : Environment) (extra : List (String × Json)) :
    (e.scope extra).vars = e.vars := by
  simp [scope]

@[simp] theorem services_scope (e : Environment) (extra : List (String × Json)) :
    (e.scope extra).services = e.services := by
  simp [scope]

end Environment

end ProcessStep
