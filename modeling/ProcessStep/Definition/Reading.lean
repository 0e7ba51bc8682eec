import ProcessStep.Definition.Basic
import ProcessStep.Definition.Decoder
import ProcessStep.Definition.Message

/-!
The fields of every definition, with their defaults. A field with a default may be absent but
not null; for an optional field null and absence are the same.
-/

namespace ProcessStep.Definition

open Json (Break Node)
open Decoder (text truth natural any optional list)

def Parameter.record : Record Parameter where
  names := ["name", "expression", "template", "value"]
  required := ["name"]
  blank := .named ""
  assign o p k n :=
    match k with
    | "name" => do .ok { p with name := ← text o n }
    | "expression" => do .ok { p with expression := ← optional text o n }
    | "template" => do .ok { p with template := ← optional text o n }
    | _ => do .ok { p with literal := ← optional any o n }

def Mapping.record : Record Mapping where
  names := ["input", "output"]
  required := []
  blank := .empty
  assign o m k n :=
    match k with
    | "input" => do .ok { m with input := ← list Parameter.record.decoder o n }
    | _ => do .ok { m with output := ← list Parameter.record.decoder o n }

def Field.record : Record Field where
  names := ["id", "label", "type", "defaultValue"]
  required := ["id"]
  blank := .ofId ""
  assign o f k n :=
    match k with
    | "id" => do .ok { f with id := ← text o n }
    | "label" => do .ok { f with label := ← optional text o n }
    | "type" => do .ok { f with type := ← text o n }
    | _ => do .ok { f with default := ← optional text o n }

def Form.record : Record Form where
  names := ["key", "fields"]
  required := []
  blank := ⟨none, []⟩
  assign o f k n :=
    match k with
    | "key" => do .ok { f with key := ← optional text o n }
    | _ => do .ok { f with fields := ← list Field.record.decoder o n }

def Activity.record : Record Activity where
  names := ["id", "type", "name", "io", "form"]
  required := ["id", "type"]
  blank := .ofType "" ""
  assign o a k n :=
    match k with
    | "id" => do .ok { a with id := ← text o n }
    | "type" => do .ok { a with type := ← text o n }
    | "name" => do .ok { a with name := ← optional text o n }
    | "io" => do .ok { a with mapping := ← optional Mapping.record.decoder o n }
    | _ => do .ok { a with form := ← optional Form.record.decoder o n }

def Flow.record : Record Flow where
  names := ["id", "sourceRef", "targetRef", "isDefault", "condition"]
  required := ["id", "sourceRef", "targetRef"]
  blank := .between "" "" ""
  assign o f k n :=
    match k with
    | "id" => do .ok { f with id := ← text o n }
    | "sourceRef" => do .ok { f with source := ← text o n }
    | "targetRef" => do .ok { f with target := ← text o n }
    | "isDefault" => do .ok { f with isDefault := ← truth o n }
    | _ => do .ok { f with condition := ← optional text o n }

def Process.record : Record Process where
  names := ["id", "name", "activities", "sequenceFlows"]
  required := ["id", "activities"]
  blank := ⟨"", "", [], []⟩
  assign o p k n :=
    match k with
    | "id" => do .ok { p with id := ← text o n }
    | "name" => do .ok { p with name := ← text o n }
    | "activities" => do .ok { p with activities := ← list Activity.record.decoder o n }
    | _ => do .ok { p with flows := ← list Flow.record.decoder o n }

def processDecoder : Decoder Process := Process.record.decoder

def iterationRecord : Record Iteration where
  names := ["index", "item", "cardinality", "isSequential"]
  required := ["index"]
  blank := .parallel 0
  assign o i k n :=
    match k with
    | "index" => do .ok { i with index := ← natural o n }
    | "item" => do .ok { i with item := ← optional any o n }
    | "cardinality" => do .ok { i with cardinality := ← optional natural o n }
    | _ => do .ok { i with isSequential := ← truth o n }

def failureRecord : Record Failure where
  names := ["message", "code"]
  required := ["message"]
  blank := ⟨"", none⟩
  assign o f k n :=
    match k with
    | "message" => do .ok { f with message := ← text o n }
    | _ => do .ok { f with code := ← optional text o n }

/-- Members of a message: `loop` may come once and is read as an iteration, every other member
is data. -/
def visitMessage (o : Origin) (seen : Bool) (m : Message) :
    List (Option String × Node) → Except DecodeError Message
  | [] => .ok m
  | (none, n) :: _ => .error (.fault n.keyFault)
  | (some k, n) :: rest =>
      if k = "loop" then
        if seen then .error (.duplicateField k)
        else do
          let i ← optional iterationRecord.decoder o n
          visitMessage o true { m with iteration := i } rest
      else do
        let v ← any o n
        visitMessage o seen { m with data := m.data.insert k v } rest

def messageDecoder : Decoder Message
  | o, .obj members stop => do
      let m ← visitMessage o false .empty members
      finish stop m
  | _, n => .error (mismatch n)

def policyOfName? : String → Option RestorePolicy
  | "lenient" => some .lenient
  | "strict" => some .strict
  | _ => none

def policyNamed (name : String) : Except DecodeError RestorePolicy :=
  match policyOfName? name with
  | some p => .ok p
  | none => .error (.unknownVariant name)

/-- The content that may stand beside a variant's name: null only. -/
def unitContent (n : Node) : Except DecodeError Unit :=
  match n with
  | .null => .ok ()
  | n => .error (mismatch n)

/-- A policy is its name, or an object with its name over null. In a text, nothing else is read any
further. -/
def policyDecoder : Decoder RestorePolicy
  | _, .str name => policyNamed name
  | .value, .obj [(some name, n)] none => do
      let p ← policyNamed name
      unitContent n
      .ok p
  | .value, .obj _ _ => .error .wrongValue
  | .text, .obj ((some name, n) :: rest) stop => do
      let p ← policyNamed name
      unitContent n
      if rest.isEmpty then finish stop p else .error (.fault .malformed)
  | .text, .obj ((none, n) :: _) _ => .error (.fault n.keyFault)
  | .text, .obj [] stop => .error (.fault ((stop.map Break.fault).getD .malformed))
  | .text, .broken .ended => .error (.fault .cutShort)
  | .text, _ => .error (.fault .malformed)
  | .value, n => .error (mismatch n)

def configRecord : Record ExecutionConfig where
  names := ["restore_policy"]
  required := []
  blank := .lenient
  assign o _ _ n := do .ok ⟨← policyDecoder o n⟩

end ProcessStep.Definition
