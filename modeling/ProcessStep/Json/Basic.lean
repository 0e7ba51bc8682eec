import ProcessStep.Table

/-!
Data values: null, truth values, whole and floating-point numbers, text, lists and objects. A
whole number stays apart from a floating-point number of the same size. Objects are tables, so
the order of their keys carries no meaning; `Canonical` says that every object of a value is
sorted.
-/

namespace ProcessStep

inductive Json where
  | null
  | bool (value : Bool)
  | int (value : Int)
  | float (value : Float)
  | str (text : String)
  | arr (items : List Json)
  | obj (fields : List (String × Json))
  deriving Inhabited

namespace Json

/-- The fields of an object, nothing for other values. -/
def fields? : Json → Option (Table Json)
  | .obj fields => some fields
  | _ => none

def items? : Json → Option (List Json)
  | .arr items => some items
  | _ => none

def text? : Json → Option String
  | .str s => some s
  | _ => none

def field? (v : Json) (k : String) : Option Json :=
  v.fields?.bind (·.get? k)

def ofTable (t : Table Json) : Json :=
  .obj t

/-- An object of the given fields, the last one of each key. -/
def object (fields : List (String × Json)) : Json :=
  .obj (Table.ofList fields)

def texts (xs : List String) : Json :=
  .arr (xs.map .str)

def ofText? (s : Option String) : Json :=
  match s with
  | some s => .str s
  | none => .null

/-- Least and greatest whole numbers of data: -2^63 and 2^64 - 1. -/
def leastInt : Int := -9223372036854775808

def greatestInt : Int := 18446744073709551615

/-- Null, false, zero, and empty text, lists and objects do not hold. -/
def isTruthy : Json → Bool
  | .null => false
  | .bool b => b
  | .int n => n != 0
  | .float x => x != 0
  | .str s => !s.isEmpty
  | .arr items => !items.isEmpty
  | .obj fields => !fields.isEmpty

/-- Every object in the value is sorted by its keys. -/
inductive Canonical : Json → Prop
  | null : Canonical .null
  | bool (b : Bool) : Canonical (.bool b)
  | int (n : Int) : Canonical (.int n)
  | float (x : Float) : Canonical (.float x)
  | str (s : String) : Canonical (.str s)
  | arr {items : List Json} (h : ∀ v ∈ items, Canonical v) : Canonical (.arr items)
  | obj {fields : List (String × Json)} (sorted : Table.Sorted fields)
      (h : ∀ e ∈ fields, Canonical e.2) : Canonical (.obj fields)

end Json

end ProcessStep
