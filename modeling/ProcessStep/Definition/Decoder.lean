import ProcessStep.Json.Node

/-!
Reading definitions out of data. A decoder visits a tree in its order and stops at the first
problem. A record may be written as an object or as a list of its fields in the order of their
declaration; `Record` is what the decoders of all records have in common.
-/

namespace ProcessStep.Definition

open Json (Break Fault Node)

inductive DecodeError where
  | fault (reason : Fault)
  | missingField (name : String)
  | duplicateField (name : String)
  | wrongType
  | wrongValue
  | wrongLength (length : Nat)
  | unknownVariant (name : String)
  deriving DecidableEq, Repr

def DecodeError.message : DecodeError → String
  | .fault .malformed => "Syntax"
  | .fault .cutShort => "Eof"
  | .missingField name => "missing field `" ++ name ++ "`"
  | .duplicateField name => "duplicate field `" ++ name ++ "`"
  | .wrongType => "invalid type"
  | .wrongValue => "invalid value"
  | .wrongLength n => "invalid length " ++ toString n
  | .unknownVariant name => "unknown variant `" ++ name ++ "`"

/-- Whether the tree stands for a value or for a text. In a text, what comes after the last
expected part is a fault of the text. -/
inductive Origin where
  | value
  | text
  deriving DecidableEq

abbrev Decoder (α : Type) := Origin → Node → Except DecodeError α

/-- The problem with a node of another kind than expected. -/
def mismatch : Node → DecodeError
  | .unreadable _ => .fault .malformed
  | .broken stop => .fault stop.fault
  | _ => .wrongType

/-- Ends at the break that follows what was read, if there is one. -/
def finish {α : Type} (stop : Option Break) (result : α) : Except DecodeError α :=
  match stop with
  | some stop => .error (.fault stop.fault)
  | none => .ok result

namespace Decoder

def text : Decoder String
  | _, .str s => .ok s
  | _, n => .error (mismatch n)

def truth : Decoder Bool
  | _, .bool b => .ok b
  | _, n => .error (mismatch n)

def natural : Decoder Nat
  | _, .int n => if n < 0 then .error .wrongValue else .ok n.toNat
  | _, n => .error (mismatch n)

def any : Decoder Json := fun _ n =>
  match n.toJson with
  | .ok v => .ok v
  | .error f => .error (.fault f)

/-- Null is the absence of a value. -/
def optional {α : Type} (d : Decoder α) : Decoder (Option α)
  | _, .null => .ok none
  | o, n => do
      let v ← d o n
      .ok (some v)

def each {α : Type} (d : Decoder α) (o : Origin) : List Node → Except DecodeError (List α)
  | [] => .ok []
  | n :: rest => do
      let v ← d o n
      let vs ← each d o rest
      .ok (v :: vs)

def list {α : Type} (d : Decoder α) : Decoder (List α)
  | o, .arr items stop => do
      let vs ← each d o items
      finish stop vs
  | _, n => .error (mismatch n)

def table : Decoder (Table Json)
  | _, .obj members stop =>
      match Node.toFields [] members with
      | .ok t => finish stop t
      | .error f => .error (.fault f)
  | _, n => .error (mismatch n)

/-- The value of a source, when the text, if it is one, ends with it. -/
def decode {α : Type} (d : Decoder α) : Json.Source → Except DecodeError α
  | .value v => d .value (.ofJson v)
  | .text root after => do
      let v ← d .text root
      finish after v

end Decoder

/-- How the fields of a record are read: `blank` has the defaults, and `assign` reads one field
whose name is among `names`, which are in the order of declaration. -/
structure Record (α : Type) where
  names : List String
  required : List String
  blank : α
  assign : Origin → α → String → Node → Except DecodeError α

namespace Record

variable {α : Type}

/-- Members in their order: an unknown one is passed over, a known one may come once. -/
def visit (r : Record α) (o : Origin) (seen : List String) (read : α) :
    List (Option String × Node) → Except DecodeError (List String × α)
  | [] => .ok (seen, read)
  | (none, n) :: _ => .error (.fault n.keyFault)
  | (some k, n) :: rest =>
      if r.names.contains k then
        if seen.contains k then .error (.duplicateField k)
        else do
          let read ← r.assign o read k n
          visit r o (k :: seen) read rest
      else match n.stop? with
        | some stop => .error (.fault stop.faultInPassing)
        | none => visit r o seen read rest

/-- Items as the fields in the order of declaration; gives the names that are left over and the
items that are. -/
def visitItems (r : Record α) (o : Origin) (read : α) :
    List String → List Node → Except DecodeError (α × List String × List Node)
  | k :: names, n :: items => do
      let read ← r.assign o read k n
      visitItems r o read names items
  | names, items => .ok (read, names, items)

def ofObject (r : Record α) (o : Origin) (members : List (Option String × Node))
    (stop : Option Break) : Except DecodeError α := do
  let (seen, read) ← r.visit o [] r.blank members
  match stop with
  | some stop => .error (.fault stop.fault)
  | none =>
      match r.required.find? (!seen.contains ·) with
      | some k => .error (.missingField k)
      | none => .ok read

/-- The first required field that is missing is named by its place. -/
def ofList (r : Record α) (o : Origin) (items : List Node) (stop : Option Break) :
    Except DecodeError α := do
  let (read, missing, extra) ← r.visitItems o r.blank r.names items
  match missing with
  | k :: names =>
      match stop, (k :: names).find? (r.required.contains ·) with
      | some stop, _ => .error (.fault stop.fault)
      | none, some k => .error (.wrongLength (r.names.idxOf k))
      | none, none => .ok read
  | [] =>
      match o, extra with
      | .value, _ :: _ => .error (.wrongLength items.length)
      | .text, _ :: _ => .error (.fault .malformed)
      | _, [] => finish stop read

def decoder (r : Record α) : Decoder α
  | o, .obj members stop => r.ofObject o members stop
  | o, .arr items stop => r.ofList o items stop
  | _, n => .error (mismatch n)

end Record

end ProcessStep.Definition
