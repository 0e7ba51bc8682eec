import ProcessStep.Execution.Basic

/-!
Flows at both sides of an execution: the inbound flows that it still waits for, the outbound
flows in the order in which they are considered, and the outbound flows that are taken once the
step is done. The default flow is taken only when no other is, wherever it stands in the order.
-/

namespace ProcessStep

open Definition (Flow)

namespace Execution

/-- The inbound flows without the one that started the execution. -/
def awaited (e : Execution) : List Flow :=
  match e.trigger with
  | some t => e.activity.inbound.filter (·.id ≠ t.id)
  | none => e.activity.inbound

/-- The outbound flows with defaults at the end. -/
def considered (e : Execution) : List Flow :=
  e.activity.outbound.filter (!·.isDefault) ++ e.activity.outbound.filter (·.isDefault)

/-- Inbound flows that are still pending, computed once. -/
def pendingInbound (e : Execution) : List Flow × Execution :=
  match e.knownInbound with
  | some fs => (fs, e)
  | none => (e.awaited, { e with knownInbound := some e.awaited })

def pendingOutbound (e : Execution) : List Flow × Execution :=
  match e.knownOutbound with
  | some fs => (fs, e)
  | none => (e.considered, { e with knownOutbound := some e.considered })

/-- A flow without a condition is selected, one with a condition if its value holds. -/
def isSelected (s : Scope) (f : Flow) : Except ResolutionError Bool :=
  match f.condition with
  | none => .ok true
  | some c => (s.resolve c).map Json.isTruthy

/-- The selected flows other than defaults. Every condition is evaluated. -/
def selected (s : Scope) : List Flow → Except ResolutionError (List Flow)
  | [] => .ok []
  | f :: rest =>
      if f.isDefault then selected s rest
      else do
        let isTaken ← isSelected s f
        let taken ← selected s rest
        .ok (if isTaken then f :: taken else taken)

/-- The last default flow in the order. -/
def fallback (fs : List Flow) : List Flow :=
  ((fs.filter (·.isDefault)).getLast?).toList

def choose (s : Scope) (fs : List Flow) : Except ResolutionError (List Flow) := do
  let taken ← selected s fs
  .ok (if taken.isEmpty then fallback fs else taken)

/-- Outbound flows to be taken. Without pending flows not even the output is resolved. -/
def eligibleOutbound (e : Execution) : Except ResolutionError (List Flow) × Execution :=
  match e.pendingOutbound with
  | ([], e) => (.ok [], e)
  | (fs, e) =>
      match e.contextOutput with
      | (.error x, e) => (.error x, e)
      | (.ok s, e) => (choose s fs, e)

theorem selected_cons_of_default {s : Scope} {f : Flow} (h : f.isDefault = true)
    (fs : List Flow) : selected s (f :: fs) = selected s fs := by
  simp [selected, h]

theorem pendingOutbound_of_known {e : Execution} {fs : List Flow}
    (h : e.knownOutbound = some fs) : e.pendingOutbound = (fs, e) := by
  simp [pendingOutbound, h]

theorem pendingInbound_of_known {e : Execution} {fs : List Flow}
    (h : e.knownInbound = some fs) : e.pendingInbound = (fs, e) := by
  simp [pendingInbound, h]

end Execution

end ProcessStep
