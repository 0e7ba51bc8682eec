import ProcessStep.Decimal.Shortest
import ProcessStep.Expression.Value

/-!
Equality and order of values. Numbers are compared by their size, whatever their form; in
equality truth values count as 0 and 1. Lists and maps are compared part by part. Values of
different kinds are in the order of their kinds.
-/

namespace ProcessStep.Expression.Value

/-! ### Numbers -/

inductive Numeric where
  | int (n : Int) (width : Width)
  | float (x : Float)
  | nan

def numeric? : Value → Option Numeric
  | .bool b => some (.int (if b then 1 else 0) .unsigned)
  | .int n w => some (.int n w)
  | .float x => some (.float x)
  | .nan => some .nan
  | _ => Option.none

/-- The order of floating-point numbers; one that is not defined is below all others. -/
def floatOrder (x y : Float) : Ordering :=
  if x.isNaN then (if y.isNaN then .eq else .lt)
  else if y.isNaN then .gt
  else if x < y then .lt
  else if y < x then .gt
  else .eq

/-- The whole number nearest to a finite number on the side of zero. -/
def truncated (x : Float) : Int :=
  let b := Decimal.Binary.ofFloat x
  let size : Nat :=
    if 0 ≤ b.exponent then b.mantissa * Nat.pow 2 b.exponent.toNat
    else b.mantissa / Nat.pow 2 (-b.exponent).toNat
  if x < 0 then -size else size

def isWhole (x : Float) : Bool :=
  !x.isNaN && !x.isInf && x.floor == x

def greatestHeld (n : Int) : Width → Int
  | .unsigned => if n ≤ Json.greatestInt then Json.greatestInt else greatestLiteral
  | .signed =>
      if Json.leastInt ≤ n && n < -Json.leastInt then -Json.leastInt - 1 else greatestWhole
  | .wide => greatestWhole

/-- The floating-point number that becomes this whole number again when it is held in the same
way. What lies above the greatest number becomes the greatest number. -/
def exactFloat? (n : Int) (w : Width) : Option Float :=
  let x := Float.ofInt n
  if min (truncated x) (greatestHeld n w) = n then some x else Option.none

def compareToFloat (n : Int) (w : Width) (x : Float) : Ordering :=
  match exactFloat? n w with
  | some y => floatOrder y x
  | Option.none =>
      if x.isNaN then .gt
      else if x.isInf then (if x < 0 then .gt else .lt)
      else compare n (truncated x)

/-- The number needs 128 bits without a sign. -/
def isLong (n : Int) (w : Width) : Bool :=
  w = .unsigned && Json.greatestInt < n

/-- The number with the same 128 bits when the first of them is a sign. -/
def withSign (n : Int) : Int :=
  if greatestWhole < n then n + 2 * leastWhole else n

/-- Two whole numbers as they meet in an operation. -/
def together (m : Int) (v : Width) (n : Int) (w : Width) : Int × Int :=
  if isLong m v && isLong n w then (withSign m, withSign n) else (m, n)

def Numeric.compare : Numeric → Numeric → Ordering
  | .nan, .nan => .eq
  | .nan, _ => .gt
  | _, .nan => .lt
  | .int m v, .int n w => let (m, n) := together m v n w; Ord.compare m n
  | .int m v, .float y => compareToFloat m v y
  | .float x, .int n w => (compareToFloat n w x).swap
  | .float x, .float y => floatOrder x y

def Numeric.equal : Numeric → Numeric → Bool
  | .int m _, .int n _ => m = n
  | .int m v, .float y => (exactFloat? m v).any (· == y)
  | .float x, .int n w => (exactFloat? n w).any (· == x)
  | .float x, .float y => x == y
  | _, _ => false

/-! ### All values -/

mutual

def spread : Value → Value
  | .list p items => .list p (spreadItems items)
  | .repetition items times => .list .stream (repeatedItems (spreadItems items) times)
  | .map entries => .map (spreadEntries entries)
  | v => v

def spreadItems : List Value → List Value
  | [] => []
  | v :: rest => spread v :: spreadItems rest

def spreadEntries : List (Value × Value) → List (Value × Value)
  | [] => []
  | (k, v) :: rest => (spread k, spread v) :: spreadEntries rest

end

/-- The value as it is compared with another one, for which no more than one item beyond the
length of the other one counts. -/
def spreadBeside (v other : Value) : Value :=
  match v with
  | .repetition items times =>
      spread (.repetition items (min times ((other.length?.getD 0) + 1)))
  | v => spread v

def kindOrder (a b : Value) : Ordering :=
  compare a.kind.rank b.kind.rank

mutual

/-- The order of values without repetitions. Services are alike, and above the other functions. -/
def spreadOrder : Value → Value → Ordering
  | .str s _, .str t _ => compare s t
  | .list p xs, .list q ys =>
      (kindOrder (.list p []) (.list q [])).then (orderItems xs ys)
  | .map xs, .map ys => orderEntries xs ys
  | .service _, .service _ => .eq
  | .service _, .builtin _ => .gt
  | .builtin _, .service _ => .lt
  | a, b =>
      (kindOrder a b).then
        (match a.numeric?, b.numeric? with
          | some m, some n => m.compare n
          | _, _ => compare a.toText b.toText)

def orderItems : List Value → List Value → Ordering
  | [], [] => .eq
  | [], _ :: _ => .lt
  | _ :: _, [] => .gt
  | x :: xs, y :: ys => (spreadOrder x y).then (orderItems xs ys)

def orderEntries : List (Value × Value) → List (Value × Value) → Ordering
  | [], [] => .eq
  | [], _ :: _ => .lt
  | _ :: _, [] => .gt
  | (k, x) :: xs, (l, y) :: ys =>
      ((spreadOrder k l).then (spreadOrder x y)).then (orderEntries xs ys)

end

/-- The total order of values: by their kinds, and within a kind by size, by text, or part by
part. -/
def order (a b : Value) : Ordering :=
  spreadOrder (a.spreadBeside b) (b.spreadBeside a)

def less (a b : Value) : Bool := order a b == .lt

/-! ### Maps -/

def keyed? (entries : List (Value × Value)) (k : Value) : Option Value :=
  match entries with
  | [] => Option.none
  | (k', v) :: rest => if order k' k == .eq then some v else keyed? rest k

/-- Writes a value under a key; a key that is already there stays as it is. -/
def insertEntry (entries : List (Value × Value)) (k v : Value) : List (Value × Value) :=
  match entries with
  | [] => [(k, v)]
  | (k', v') :: rest =>
      match order k k' with
      | .lt => (k, v) :: (k', v') :: rest
      | .eq => (k', v) :: rest
      | .gt => (k', v') :: insertEntry rest k v

def mapOf (entries : List (Value × Value)) : Value :=
  .map (entries.foldl (fun m e => insertEntry m e.1 e.2) [])

mutual

def spreadEqual : Value → Value → Bool
  | .undefined, .undefined => true
  | .none, .none => true
  | .str s _, .str t _ => s = t
  | .list _ xs, .list _ ys => equalItems xs ys
  | .map xs, .map ys => xs.length = ys.length && equalEntries xs ys
  | .service _, .service _ => true
  | .builtin f, .builtin g => f = g
  | a, b =>
      match a.numeric?, b.numeric? with
      | some m, some n => m.equal n
      | _, _ => false

def equalItems : List Value → List Value → Bool
  | [], [] => true
  | x :: xs, y :: ys => spreadEqual x y && equalItems xs ys
  | _, _ => false

/-- Every entry is in the other map with an equal value. -/
def equalEntries : List (Value × Value) → List (Value × Value) → Bool
  | [], _ => true
  | (k, x) :: xs, ys =>
      (match keyed? ys k with
        | some y => spreadEqual x y
        | Option.none => false) && equalEntries xs ys

end

/-- Equality: numbers by size, lists item by item, maps key by key. Services are all alike. -/
def equal (a b : Value) : Bool :=
  spreadEqual (a.spreadBeside b) (b.spreadBeside a)

end ProcessStep.Expression.Value
