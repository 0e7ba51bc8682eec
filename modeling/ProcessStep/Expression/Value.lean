import ProcessStep.Decimal.Layout
import ProcessStep.Json.Basic
import ProcessStep.Text.Quoted

/-!
Values of the expression language. Beside data there are the undefined value, which looking up
what is missing gives, and functions; a map may have keys of any kind. Data become values and
values data by `ofJson` and `toJson?`; not every value is data.
-/

namespace ProcessStep.Expression

/-- Functions that are there in every scope, unless a name hides them. -/
inductive Builtin where
  | range
  | dict
  deriving DecidableEq, Repr

def Builtin.name : Builtin → String
  | .range => "range"
  | .dict => "dict"

/-- How a list came about. Lists that operators and some filters produce step by step count as
no sequences. -/
inductive Shape where
  | sequence
  | stream
  /-- Two lists one after the other, and how many such lists lie in one another. -/
  | joined (depth : Nat)
  deriving DecidableEq, Repr

/-- How a whole number is held: without a sign in 64 bits, or 128 where it needs them, with a sign
in 64 or 128 bits, or with a sign in 128 bits always. Literals and data have no sign unless they
need it, calculations give one. It shows where a number meets the limit of its width. -/
inductive Width where
  | unsigned
  | signed
  | wide
  deriving DecidableEq, Repr

inductive Value where
  | undefined
  | none
  | bool (b : Bool)
  | int (n : Int) (width : Width)
  | float (x : Float)
  /-- What the text `nan` reads as, which is above all numbers. Where a calculation with numbers has
  no result it gives a `float`, which is below all numbers. -/
  | nan
  /-- A text; a safe one has its markup characters escaped already. -/
  | str (s : String) (isSafe : Bool)
  | list (shape : Shape) (items : List Value)
  /-- The list of some items several times over, which is not written out before all of them are
  wanted. -/
  | repetition (items : List Value) (times : Nat)
  /-- Entries in the order of their keys. -/
  | map (entries : List (Value × Value))
  | service (name : String)
  | builtin (f : Builtin)
  deriving Inhabited

namespace Value

def text (s : String) : Value := .str s false

def sequence (items : List Value) : Value := .list .sequence items

def timesItems (items : List Value) : Nat → List Value → List Value
  | 0, others => others
  | n + 1, others => timesItems items n (items ++ others)

/-- The items of a repetition. -/
def repeatedItems (items : List Value) (times : Nat) : List Value :=
  if items.isEmpty then [] else timesItems items times []

def count (n : Nat) : Value := .int n .unsigned

/-- A floating-point number with its sign changed, the undefined ones too. -/
def negated (x : Float) : Value :=
  if x.isNaN then .nan else .float (-x)

def isUndefined : Value → Bool
  | .undefined => true
  | _ => false

/-- Neither a value nor none: an optional argument that is left out. -/
def isAbsent : Value → Bool
  | .undefined => true
  | .none => true
  | _ => false

def text? : Value → Option String
  | .str s _ => some s
  | _ => Option.none

/-- The kinds of values in their order; whole and floating-point numbers are of one kind. -/
inductive Kind where
  | undefined
  | none
  | bool
  | number
  | text
  | sequence
  | map
  | stream
  | callable
  deriving DecidableEq, Repr

def kind : Value → Kind
  | .undefined => .undefined
  | .none => .none
  | .bool _ => .bool
  | .int _ _ => .number
  | .float _ => .number
  | .nan => .number
  | .str _ _ => .text
  | .list .sequence _ => .sequence
  | .list .stream _ => .stream
  | .list (.joined _) _ => .stream
  | .repetition _ _ => .stream
  | .map _ => .map
  | .service _ => .callable
  | .builtin _ => .callable

def Kind.rank : Kind → Nat
  | .undefined => 0
  | .none => 1
  | .bool => 2
  | .number => 3
  | .text => 4
  | .sequence => 5
  | .map => 6
  | .stream => 7
  | .callable => 8

/-! ### Truth and length -/

/-- Undefined, none, false, zero and what is empty do not hold. -/
def isTruthy : Value → Bool
  | .undefined => false
  | .none => false
  | .bool b => b
  | .int n _ => n != 0
  | .float x => x != 0
  | .nan => true
  | .str s _ => !s.isEmpty
  | .list _ items => !items.isEmpty
  | .repetition items times => !items.isEmpty && times != 0
  | .map entries => !entries.isEmpty
  | .service _ => true
  | .builtin _ => true

def length? : Value → Option Nat
  | .str s _ => some s.length
  | .list _ items => some items.length
  | .repetition items times => some (items.length * times)
  | .map entries => some entries.length
  | _ => Option.none

/-- What a loop goes through: the characters of a text, the items of a list, the keys of a map,
and nothing at all where there is no value. -/
def iterate? : Value → Option (List Value)
  | .undefined => some []
  | .none => some []
  | .str s _ => some (s.toList.map fun c => text c.toString)
  | .list _ items => some items
  | .repetition items times => some (repeatedItems items times)
  | .map entries => some (entries.map (·.1))
  | _ => Option.none

def isIterable (v : Value) : Bool :=
  [.undefined, .none, .text, .sequence, .map, .stream].contains v.kind

def listed? : Value → Option (List Value)
  | .list _ items => some items
  | .repetition items times => some (repeatedItems items times)
  | _ => Option.none

/-! ### Text of values -/

mutual

/-- The text of a value within a list or a map, where texts are quoted. -/
def inner : Value → String
  | .undefined => "undefined"
  | .none => "None"
  | .bool b => if b then "True" else "False"
  | .int n _ => toString n
  | .float x => Decimal.Layout.inner.text x
  | .nan => "NaN"
  | .str s _ => Text.quoted s
  | .list _ items => "[" ++ String.intercalate ", " (innerItems items) ++ "]"
  | .repetition items times =>
      "[" ++ String.intercalate ", " (List.replicate times (innerItems items)).flatten ++ "]"
  | .map entries => "\x7b" ++ String.intercalate ", " (innerEntries entries) ++ "\x7d"
  | .service name => name
  | .builtin f => f.name

def innerItems : List Value → List String
  | [] => []
  | v :: rest => inner v :: innerItems rest

def innerEntries : List (Value × Value) → List String
  | [] => []
  | (k, v) :: rest => (inner k ++ ": " ++ inner v) :: innerEntries rest

end

/-- The text that stands for a value in a template. -/
def toText : Value → String
  | .undefined => ""
  | .float x => Decimal.Layout.prose.text x
  | .str s _ => s
  | v => inner v

/-! ### Data -/

mutual

def ofJson : Json → Value
  | .null => .none
  | .bool b => .bool b
  | .int n => .int n (if n < 0 then .signed else .unsigned)
  | .float x => .float x
  | .str s => text s
  | .arr items => sequence (ofItems items)
  | .obj fields => .map (ofFields fields)

def ofItems : List Json → List Value
  | [] => []
  | v :: rest => ofJson v :: ofItems rest

def ofFields : List (String × Json) → List (Value × Value)
  | [] => []
  | (k, v) :: rest => (text k, ofJson v) :: ofFields rest

end

/-- The key of an object that a value becomes: texts, truth values and numbers do. -/
def toKey? : Value → Option String
  | .str s _ => some s
  | .bool b => some (if b then "true" else "false")
  | .int n _ => some (toString n)
  | .float x =>
      if x.isNaN || x.isInf then Option.none else some (Decimal.Layout.data.text x)
  | _ => Option.none

/-- Least and greatest whole numbers in calculations: -2^127 and 2^127 - 1. -/
def leastWhole : Int := -170141183460469231731687303715884105728

def greatestWhole : Int := 170141183460469231731687303715884105727

/-- The greatest number that a literal denotes: 2^128 - 1. -/
def greatestLiteral : Int := 340282366920938463463374607431768211455

/-- A whole number as data, if it is in range. -/
def intJson? (n : Int) : Option Json :=
  if Json.leastInt ≤ n && n ≤ Json.greatestInt then some (.int n) else Option.none

def floatJson (x : Float) : Json :=
  if x.isNaN || x.isInf then .null else .float x

mutual

/-- The value as data; what is undefined or not finite becomes null. -/
def toJson? : Value → Option Json
  | .undefined => some .null
  | .none => some .null
  | .bool b => some (.bool b)
  | .int n _ => intJson? n
  | .float x => some (floatJson x)
  | .nan => some .null
  | .str s _ => some (.str s)
  | .list _ items => (toItems? items).map .arr
  | .repetition items times =>
      if times = 0 then some (.arr [])
      else (toItems? items).map fun vs => .arr (List.replicate times vs).flatten
  | .map entries => (toFields? [] entries).map .obj
  | .service name => some (.str name)
  | .builtin f => some (.str f.name)

def toItems? : List Value → Option (List Json)
  | [] => some []
  | v :: rest => do
      let v ← toJson? v
      let vs ← toItems? rest
      some (v :: vs)

def toFields? (read : Table Json) : List (Value × Value) → Option (Table Json)
  | [] => some read
  | (k, v) :: rest => do
      let k ← toKey? k
      let v ← toJson? v
      toFields? (read.insert k v) rest

end

end Value

end ProcessStep.Expression
