import ProcessStep.Json.Basic

/-!
Messages: the data that a flow carries to an activity, with the place of the execution in a loop
when the activity is carried out several times.
-/

namespace ProcessStep

/-- One round of a loop: its index, the item it is for, and how many rounds there are. -/
structure Iteration where
  index : Nat
  item : Option Json
  cardinality : Option Nat
  isSequential : Bool

namespace Iteration

def sequential (index : Nat) : Iteration :=
  { index, item := none, cardinality := none, isSequential := true }

def parallel (index : Nat) : Iteration :=
  { index, item := none, cardinality := none, isSequential := false }

def withItem (i : Iteration) (item : Json) : Iteration :=
  { i with item := some item }

/-- An iteration as data; what is absent is left out. -/
def toJson (i : Iteration) : Json :=
  .ofTable ((((Table.ofList
    [("index", .int i.index), ("isSequential", .bool i.isSequential)])
    |>.insertSome "item" i.item)
    |>.insertSome "cardinality" (i.cardinality.map fun (n : Nat) => .int n)))

end Iteration

structure Message where
  iteration : Option Iteration
  data : Table Json

namespace Message

def empty : Message := ⟨none, []⟩

/-- A message of the fields of an object; any other value but null is kept as a field `value`. -/
def ofJson : Json → Message
  | .obj fields => ⟨none, fields⟩
  | .null => empty
  | v => ⟨none, [("value", v)]⟩

def withIteration (m : Message) (i : Iteration) : Message :=
  { m with iteration := some i }

def get? (m : Message) (k : String) : Option Json :=
  m.data.get? k

/-- The message belongs to a round that is carried out beside the others. -/
def isParallel (m : Message) : Bool :=
  m.iteration.any (!·.isSequential)

/-- The iteration stands under `loop` beside the data; a field `loop` of the data goes first. -/
def toJson (m : Message) : Json :=
  .ofTable ((Table.insertSome [] "loop" (m.iteration.map Iteration.toJson)).extend m.data)

@[simp] theorem iteration_ofJson (v : Json) : (ofJson v).iteration = none := by
  cases v <;> rfl

@[simp] theorem data_withIteration (m : Message) (i : Iteration) :
    (m.withIteration i).data = m.data := rfl

end Message

end ProcessStep
