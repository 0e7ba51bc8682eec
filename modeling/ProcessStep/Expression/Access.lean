import ProcessStep.Decimal.Reading
import ProcessStep.Expression.Operator

/-!
Parts of values: attributes, items and slices. What is missing is undefined, and only looking
into the undefined value is a problem. Positions count from the end when they are negative.
-/

namespace ProcessStep.Expression.Value

/-- A position among `length` places. -/
def place? (length : Nat) (key : Value) : Option Nat :=
  match key.position? with
  | some i =>
      if 0 ≤ i then some i.toNat
      else if i.natAbs ≤ length then some (length - i.natAbs)
      else Option.none
  | Option.none => Option.none

def part? (v key : Value) : Option Value :=
  match v with
  | .map entries => keyed? entries key
  | .list _ items => (place? items.length key).bind (items[·]?)
  | .repetition items times =>
      (place? (items.length * times) key).bind fun i =>
        if i < items.length * times then items[i % items.length]? else Option.none
  | .str s _ => (place? s.length key).bind fun i => s.toList[i]?.map fun c => text c.toString
  | _ => Option.none

/-- An item of a value; the undefined value has none, not even an undefined one. -/
def item (v key : Value) : Outcome Value :=
  match v.part? key with
  | some w => .ok w
  | Option.none => if v.isUndefined then .error .undefinedValue else .ok .undefined

/-- Attributes are the entries of maps under texts. -/
def member (v : Value) (name : String) : Outcome Value :=
  match v with
  | .map _ => item v (text name)
  | .undefined => .error .undefinedValue
  | _ => .ok .undefined

def splitPath (s : List Char) : List (List Char) :=
  match s with
  | [] => [[]]
  | '.' :: rest => [] :: splitPath rest
  | c :: rest =>
      match splitPath rest with
      | [] => [[c]]
      | first :: others => (c :: first) :: others

/-- A step of a path as a position: decimal digits, perhaps after a plus sign, for a number of 64
bits. -/
def pathPosition? (step : List Char) : Option Nat :=
  let digits := match step with
    | '+' :: digits => digits
    | digits => digits
  if digits.isEmpty || !digits.all Decimal.isDigit then Option.none
  else some (Decimal.ofDigits digits) |>.filter fun n => (n : Int) ≤ Json.greatestInt

/-- A path of attributes and positions, joined by points. -/
def path (v : Value) (p : String) : Outcome Value :=
  (splitPath p.toList).foldlM
    (fun v step =>
      match pathPosition? step with
      | some n => item v (count n)
      | Option.none => member v (String.ofList step))
    v

/-! ### Slices -/

def sliceBound (v : Value) : Outcome (Option Int) :=
  match v with
  | .none => .ok Option.none
  | v =>
      match v.position? with
      | some i => .ok (some i)
      | Option.none => .error .invalidOperation

/-- A position counted from the end if it is negative, at the beginning if it lies before it. -/
def fromEnd (length : Nat) (i : Int) : Nat :=
  (if i < 0 then i + length else i).toNat

def everyNth {α : Type} (step : Nat) (xs : List α) : List α :=
  (xs.zipIdx.filter fun (_, i) => i % step = 0).map (·.1)

/-- The places from `start` up to `stop`, the last one not included. -/
def windowUp (length : Nat) (start stop : Option Int) : Nat × Nat :=
  ((start.map (fromEnd length)).getD 0, (stop.map (fromEnd length)).getD length)

/-- The places from `start` down to `stop`, which itself is left out unless it is the beginning; the
lowest one first, and the one above the highest. -/
def windowDown (length : Nat) (start stop : Option Int) : Nat × Nat :=
  let first := min ((start.map (fromEnd length)).getD length) (length - 1)
  let last := (stop.map (fromEnd length)).getD 0
  (if last = 0 then 0 else last + 1, first + 1)

/-- A slice of something of the given length, of which `part low high` has the items at the places
from `low` to before `high`. -/
def sliceItems {α : Type} (length : Nat) (part : Nat → Nat → List α) (start stop : Option Int)
    (step : Int) : List α :=
  if 0 < step then
    let (low, high) := windowUp length start stop
    everyNth step.toNat (part low high)
  else
    let (low, high) := windowDown length start stop
    everyNth step.natAbs (part low high).reverse

def between {α : Type} (xs : List α) (low high : Nat) : List α :=
  (xs.take high).drop low

/-- Items of a repetition, of which only the rounds that they are in are written out. -/
def betweenRepeated (items : List Value) (times low high : Nat) : List Value :=
  let length := items.length
  let high := min high (length * times)
  if high ≤ low then []
  else
    let before := low / length
    between (repeatedItems items ((high + length - 1) / length - before))
      (low - before * length) (high - before * length)

def slice (v start stop step : Value) : Outcome Value := do
  let start ← sliceBound start
  let stop ← sliceBound stop
  let step := (← sliceBound step).getD 1
  if step = 0 then .error .invalidOperation
  else match v with
    | .undefined => .ok (sequence [])
    | .none => .ok (sequence [])
    | .str s _ =>
        .ok (text (String.ofList
          (sliceItems s.length (between s.toList) start stop step)))
    | .list _ items =>
        .ok (.list .stream (sliceItems items.length (between items) start stop step))
    | .repetition items times =>
        .ok (.list .stream
          (sliceItems (items.length * times) (betweenRepeated items times) start stop step))
    | _ => .error .invalidOperation

end ProcessStep.Expression.Value
