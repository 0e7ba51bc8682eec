import ProcessStep.Json.Printer

/-!
Snapshots: what is kept of an execution until it is resumed. A snapshot is a table; the
execution owns the keys `form`, `pendingOutbound` and `pendingInbound`, all others belong to the
activity or to whoever stored them.
-/

namespace ProcessStep

/-- What is wrong with a snapshot: it is no table, or flows are not listed by their ids. -/
inductive SnapshotProblem where
  | notObject (got : Json)
  | notFlowIds (key : String) (got : Json)

def SnapshotProblem.message : SnapshotProblem → String
  | .notObject got => "state must be an object, got " ++ got.compact
  | .notFlowIds key got => "'" ++ key ++ "' must be a list of flow ids, got " ++ got.compact

abbrev Snapshot := Table Json

namespace Snapshot

def formKey : String := "form"

def inboundKey : String := "pendingInbound"

def outboundKey : String := "pendingOutbound"

def ofJson : Json → Except SnapshotProblem Snapshot
  | .obj fields => .ok fields
  | v => .error (.notObject v)

/-- The entries of `other` go over those of the snapshot. -/
def merge (s other : Snapshot) : Snapshot :=
  Table.extend s other

def form? (s : Snapshot) : Option Json :=
  Table.get? s formKey

/-- The texts of a list that holds nothing else. -/
def allTexts? (v : Json) : Option (List String) := do
  let items ← v.items?
  items.mapM Json.text?

/-- The flow ids under a key, if there is such a key. -/
def flowIds (s : Snapshot) (key : String) : Except SnapshotProblem (Option (List String)) :=
  match Table.get? s key with
  | none => .ok none
  | some v =>
      match allTexts? v with
      | some ids => .ok (some ids)
      | none => .error (.notFlowIds key v)

def pendingInbound (s : Snapshot) : Except SnapshotProblem (Option (List String)) :=
  s.flowIds inboundKey

def pendingOutbound (s : Snapshot) : Except SnapshotProblem (Option (List String)) :=
  s.flowIds outboundKey

theorem flowIds_of_absent {s : Snapshot} {key : String} (h : Table.get? s key = none) :
    s.flowIds key = .ok none := by
  simp [flowIds, h]

end Snapshot

end ProcessStep
