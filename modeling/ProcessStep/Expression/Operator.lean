import ProcessStep.Expression.Order
import ProcessStep.Expression.Problem
import ProcessStep.Expression.Term

/-!
What the operators do. Whole numbers are calculated exactly within 128 bits, and one
floating-point operand makes the calculation one of floating-point numbers; truth values count
as 0 and 1. Every other mixture of operands is an invalid operation, other than joining of
texts and lists and repeating them.
-/

namespace ProcessStep.Expression

namespace Value

/-! ### Whole numbers -/

/-- The range of whole numbers in calculations. -/
def fits (n : Int) : Bool :=
  leastWhole ≤ n && n ≤ greatestWhole

def whole (n : Int) : Outcome Value :=
  if fits n then .ok (.int n .signed) else .error .invalidOperation

def fitsPosition (n : Int) : Bool :=
  Json.leastInt ≤ n && n < -Json.leastInt

/-- A value as a whole number of 64 bits, for positions and counts. A floating-point number just
above the greatest one counts as the greatest. -/
def position? : Value → Option Int
  | .bool b => some (if b then 1 else 0)
  | .int n _ => some n |>.filter fitsPosition
  | .float x =>
      if isWhole x then
        let n := truncated x
        some (if n = -Json.leastInt then n - 1 else n) |>.filter fitsPosition
      else Option.none
  | _ => Option.none

/-- A count: a whole number of 64 bits without a sign. -/
def count? : Value → Option Nat
  | .int n _ => if 0 ≤ n && n ≤ Json.greatestInt then some n.toNat else Option.none
  | v => (v.position?.filter (0 ≤ ·)).map Int.toNat

/-! ### Floating-point numbers -/

def trunc (x : Float) : Float :=
  if x < 0 then x.ceil else x.floor

/-- The number `n · 2^e` for an `n` that may have more binary digits than needed. -/
def scaledFloat (n : Nat) (e : Int) : Float :=
  let surplus := n.log2 - 60
  (Float.ofNat (n >>> surplus)).scaleB (e + surplus)

/-- The remainder of the division toward zero, exact and with the sign of the dividend. -/
def floatRemainder (x y : Float) : Float :=
  if x.isNaN || y.isNaN || x.isInf || y == 0 then 0 / 0
  else if y.isInf then x
  else
    let a := Decimal.Binary.ofFloat x
    let b := Decimal.Binary.ofFloat y
    let e := min a.exponent b.exponent
    let m := a.mantissa * Nat.pow 2 (a.exponent - e).toNat
    let n := b.mantissa * Nat.pow 2 (b.exponent - e).toNat
    let r := scaledFloat (m % n) e
    if Decimal.signBit ≤ x.toBits.toNat then -r else r

/-- The quotient that goes with a remainder that is never negative. -/
def euclideanQuotient (x y : Float) : Float :=
  let q := trunc (x / y)
  if floatRemainder x y < 0 then (if y > 0 then q - 1 else q + 1) else q

def Numeric.toFloat : Numeric → Float
  | .int n _ => Float.ofInt n
  | .float x => x
  | .nan => 0 / 0

/-! ### Arithmetic -/

/-- Two operands of a calculation, after the wider form of the two. -/
inductive Operands where
  | ints (m n : Int)
  | floats (x y : Float)

/-- Two whole operands, which have to be in the range of calculations. -/
def wholeOperands? (m : Int) (v : Width) (n : Int) (w : Width) : Option Operands :=
  let (m, n) := together m v n w
  if fits m && fits n then some (.ints m n) else Option.none

def operands? (a b : Value) : Option Operands :=
  match a.numeric?, b.numeric? with
  | some (.int m v), some (.int n w) => wholeOperands? m v n w
  | some m, some n => some (.floats m.toFloat n.toFloat)
  | _, _ => Option.none

def Numeric.exactFloat? : Numeric → Option Float
  | .int n w => Value.exactFloat? n w
  | m => some m.toFloat

/-- Two operands as `operands?` gives them, unless a whole number loses digits by it. -/
def exactOperands? (a b : Value) : Option Operands :=
  match a.numeric?, b.numeric? with
  | some (.int m v), some (.int n w) => wholeOperands? m v n w
  | some m, some n => do some (.floats (← m.exactFloat?) (← n.exactFloat?))
  | _, _ => Option.none

def isNan : Value → Bool
  | .nan => true
  | .float x => x.isNaN
  | _ => false

/-- The result of a calculation. Where it is not a number because an operand is not, it is what the
first such operand is. -/
def ofCalculation (a b : Value) (x : Float) : Value :=
  match x.isNaN, isNan a, a, b with
  | true, true, .nan, _ => .nan
  | true, false, _, .nan => .nan
  | _, _, _, _ => .float x

def calculate (ints : Int → Int → Outcome Value) (floats : Float → Float → Float) (a b : Value) :
    Outcome Value :=
  match operands? a b with
  | some (.ints m n) => ints m n
  | some (.floats x y) => .ok (ofCalculation a b (floats x y))
  | Option.none => .error .invalidOperation

/-- How many joined lists may lie in one another. -/
def deepestJoin : Nat := 32

def joinDepth : Value → Nat
  | .list (.joined depth) _ => depth
  | _ => 0

/-- Two lists one after the other. Where that would lie too deep it is written out as a
sequence. -/
def joinLists (a b : Value) (xs ys : List Value) : Value :=
  let depth := max a.joinDepth b.joinDepth + 1
  .list (if depth ≤ deepestJoin then .joined depth else .sequence) (xs ++ ys)

def add (a b : Value) : Outcome Value :=
  match a.listed?, b.listed? with
  | some xs, some ys => .ok (joinLists a b xs ys)
  | _, _ =>
      match a, b with
      | .str s _, .str t _ => .ok (text (s ++ t))
      | a, b => calculate (fun m n => whole (m + n)) (· + ·) a b

def subtract : Value → Value → Outcome Value :=
  calculate (fun m n => whole (m - n)) (· - ·)

def longestRepetition : Nat := 100000000

def timesText (s : String) (n : Nat) : String :=
  if n = 0 then ""
  else
    let half := timesText s (n / 2)
    if n % 2 = 0 then half ++ half else half ++ half ++ s
termination_by n
decreasing_by omega

/-- A text or a list several times over. The number of items has to be one of 64 bits. -/
def repeated (v : Value) (times : Value) : Outcome Value :=
  let repeatedList (items : List Value) (n : Nat) : Outcome Value :=
    if Json.greatestInt < items.length * n then .error .invalidOperation
    else .ok (.repetition items n)
  match v, times.count? with
  | .str s _, some n =>
      if longestRepetition < s.utf8ByteSize * n then .error .invalidOperation
      else .ok (text (if s.isEmpty then "" else timesText s n))
  | .list _ items, some n => repeatedList items n
  | .repetition items m, some n => repeatedList items (m * n)
  | _, _ => .error .invalidOperation

def multiply (a b : Value) : Outcome Value :=
  match a, b with
  | .str s x, b => repeated (.str s x) b
  | a, .str s x => repeated (.str s x) a
  | .list p xs, b => repeated (.list p xs) b
  | .repetition xs n, b => repeated (.repetition xs n) b
  | a, .list p xs => repeated (.list p xs) a
  | a, .repetition xs n => repeated (.repetition xs n) a
  | a, b => calculate (fun m n => whole (m * n)) (· * ·) a b

/-- Division always gives a floating-point number. -/
def divide (a b : Value) : Outcome Value :=
  match a.numeric?, b.numeric? with
  | some m, some n => .ok (ofCalculation a b (m.toFloat / n.toFloat))
  | _, _ => .error .invalidOperation

def floorDivide : Value → Value → Outcome Value :=
  calculate (fun m n => if n = 0 then .error .invalidOperation else whole (m / n))
    euclideanQuotient

/-- The remainder of whole numbers is never negative, that of others has the sign of the
dividend. Where the quotient is out of range there is no remainder either. -/
def modulo : Value → Value → Outcome Value :=
  calculate
    (fun m n =>
      if n = 0 || !fits (m / n) then .error .invalidOperation else whole (m % n))
    floatRemainder

/-- Powers with a negative exponent are no whole numbers, and beyond 127 factors only 0, 1 and
-1 have powers in range. -/
def wholePower (m n : Int) : Outcome Value :=
  if n < 0 || 4294967296 ≤ n then .error .invalidOperation
  else if n ≤ 127 then whole (m.pow n.toNat)
  else if m.natAbs ≤ 1 then whole (if m = -1 && n % 2 = 0 then 1 else m)
  else .error .invalidOperation

def power : Value → Value → Outcome Value :=
  calculate wholePower Float.pow

/-- The least number without a sign that needs 128 bits for its negation is left as it is. -/
def negate : Value → Outcome Value
  | .int n w => if n = -leastWhole && isLong n w then .ok (.int n w) else whole (-n)
  | .float x => .ok (negated x)
  | .nan => .ok (.float (0 / 0))
  | _ => .error .invalidOperation

def concat (a b : Value) : Value :=
  text (a.toText ++ b.toText)

/-! ### Comparison -/

def isWithin (s t : List Char) : Bool :=
  s.isPrefixOf t || match t with
    | [] => false
    | _ :: rest => isWithin s rest

/-- A text is in another one, an item in a list and a key in a map; nothing is in the undefined
value. -/
def isIn (v container : Value) : Outcome Bool :=
  match container with
  | .undefined => .ok false
  | .str t _ => .ok (isWithin v.toText.toList t.toList)
  | .list _ items => .ok (items.any (equal · v))
  | .repetition items times => .ok (times != 0 && items.any (equal · v))
  | .map entries => .ok (keyed? entries v).isSome
  | .service _ => .ok false
  | .builtin _ => .ok false
  | _ => .error .invalidOperation

end Value

def Operator.apply : Operator → Value → Value → Outcome Value
  | .add => Value.add
  | .subtract => Value.subtract
  | .concat => fun a b => .ok (a.concat b)
  | .multiply => Value.multiply
  | .divide => Value.divide
  | .floorDivide => Value.floorDivide
  | .modulo => Value.modulo
  | .power => Value.power

def Comparison.apply : Comparison → Value → Value → Outcome Bool
  | .equal, a, b => .ok (a.equal b)
  | .notEqual, a, b => .ok (!a.equal b)
  | .less, a, b => .ok (a.order b == .lt)
  | .lessEqual, a, b => .ok (a.order b != .gt)
  | .greater, a, b => .ok (a.order b == .gt)
  | .greaterEqual, a, b => .ok (a.order b != .lt)
  | .isIn, a, b => a.isIn b
  | .isNotIn, a, b => do .ok (!(← a.isIn b))

end ProcessStep.Expression
