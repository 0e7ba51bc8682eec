import ProcessStep.Json.Basic

/-!
What reading a text of data yields: a tree whose objects keep their members in the order of the
text, repeated keys among them, and that may break off. Where the text stops making sense the
tree has a break, and everything before it is still there, so that whoever visits the tree in
the order of the text meets its own complaint about a value before a later break of the text.
Some values are well formed as text but denote nothing; they can be passed over, not read. What
fault a break is depends on whether the value with the break is read or passed over.
-/

namespace ProcessStep.Json

/-- Why a text is no data: it goes wrong at some point, or it ends before the data do. -/
inductive Fault where
  | malformed
  | cutShort
  deriving DecidableEq, Repr

/-- Where a text breaks off: at something that cannot stand there, or at its end, which may be
within a word or a number. -/
inductive Break where
  | malformed
  | ended
  | endedInWord
  | endedInNumber
  deriving DecidableEq, Repr

namespace Break

def fault : Break → Fault
  | .malformed => .malformed
  | .ended => .cutShort
  | .endedInWord => .cutShort
  | .endedInNumber => .cutShort

/-- The fault for who passes over the value, to whom a number without its digits is malformed. -/
def faultInPassing : Break → Fault
  | .malformed => .malformed
  | .ended => .cutShort
  | .endedInWord => .cutShort
  | .endedInNumber => .malformed

end Break

inductive Node where
  | null
  | bool (value : Bool)
  | int (value : Int)
  | float (value : Float)
  | str (text : String)
  /-- The items, and the break after them if the list is not closed. An item that is missing
  behind a comma is broken. -/
  | arr (items : List Node) (stop : Option Break)
  /-- The members and the break after them. A key that denotes nothing is left out, and its value
  cannot be read; where the text breaks off before the end of a key that member is broken. -/
  | obj (members : List (Option String × Node)) (stop : Option Break)
  /-- A value that denotes nothing, and the break met in passing over it. -/
  | unreadable (stop : Option Break)
  | broken (stop : Break)

namespace Node

/-- Where the text of this value breaks off. -/
def stop? : Node → Option Break
  | .arr _ stop => stop
  | .obj _ stop => stop
  | .unreadable stop => stop
  | .broken stop => some stop
  | _ => none

/-- The fault of reading a member whose key denotes nothing or breaks off. -/
def keyFault : Node → Fault
  | .broken stop => stop.fault
  | _ => .malformed

mutual

/-- A value as the tree of a text that denotes it. -/
def ofJson : Json → Node
  | .null => .null
  | .bool b => .bool b
  | .int n => .int n
  | .float x => .float x
  | .str s => .str s
  | .arr items => .arr (ofItems items) none
  | .obj fields => .obj (ofFields fields) none

def ofItems : List Json → List Node
  | [] => []
  | v :: rest => ofJson v :: ofItems rest

def ofFields : List (String × Json) → List (Option String × Node)
  | [] => []
  | (k, v) :: rest => (some k, ofJson v) :: ofFields rest

end

/-- Ends a reading at a break, or gives what was read. -/
def finish {α : Type} (stop : Option Break) (result : α) : Except Fault α :=
  match stop with
  | some stop => .error stop.fault
  | none => .ok result

mutual

/-- The value that the tree denotes, or its first fault. Of a repeated key the last value
counts. -/
def toJson : Node → Except Fault Json
  | .null => .ok .null
  | .bool b => .ok (.bool b)
  | .int n => .ok (.int n)
  | .float x => .ok (.float x)
  | .str s => .ok (.str s)
  | .arr items stop => do
      let values ← toItems items
      finish stop (.arr values)
  | .obj members stop => do
      let fields ← toFields [] members
      finish stop (.obj fields)
  | .unreadable _ => .error .malformed
  | .broken stop => .error stop.fault

def toItems : List Node → Except Fault (List Json)
  | [] => .ok []
  | n :: rest => do
      let v ← toJson n
      let vs ← toItems rest
      .ok (v :: vs)

/-- Reads members one after the other into a table. -/
def toFields (read : Table Json) : List (Option String × Node) → Except Fault (Table Json)
  | [] => .ok read
  | (none, n) :: _ => .error n.keyFault
  | (some k, n) :: rest => do
      let v ← toJson n
      toFields (read.insert k v) rest

end

end Node

/-- Where a definition is read from: a value, or a text with what it says after that value. -/
inductive Source where
  | value (v : Json)
  | text (root : Node) (after : Option Break)

end ProcessStep.Json
