/-!
The shortest decimal of a binary floating-point number: of all decimals that round to the
number, those with the fewest digits, and of these the nearest; of two equally near ones a
`Tie` decides. A finite number is `m · 2^q`;
the reals that round to it form an interval around it, with its ends when `m` is even. For
each digit count in turn the two neighbours of the number on that decimal grid are tried, in
exact arithmetic, since whenever the interval holds a grid point it holds one of these two.
-/

namespace ProcessStep.Decimal

/-- A positive finite binary number, `mantissa · 2^exponent`. -/
structure Binary where
  mantissa : Nat
  exponent : Int

/-- How many fractions there are, 2^52: the mantissa of a normal number is at least this. -/
def Binary.fractions : Nat := 4503599627370496

def Binary.ofBits (bits : Nat) : Binary :=
  let fraction := bits % fractions
  let exponent : Nat := bits / fractions % 2048
  if exponent = 0 then ⟨fraction, -1074⟩ else ⟨fraction + fractions, (exponent : Int) - 1075⟩

def Binary.ofFloat (x : Float) : Binary :=
  .ofBits x.toBits.toNat

/-- A decimal number, `coefficient · 10^exponent`. -/
structure Scaled where
  coefficient : Nat
  exponent : Int
  deriving DecidableEq, Repr

structure Ratio where
  num : Nat
  den : Nat

def Ratio.scaled (n b : Nat) (e : Int) : Ratio :=
  if 0 ≤ e then ⟨n * b.pow e.toNat, 1⟩ else ⟨n, b.pow (-e).toNat⟩

def Ratio.le (a b : Ratio) : Bool :=
  a.num * b.den ≤ b.num * a.den

def Ratio.lt (a b : Ratio) : Bool :=
  a.num * b.den < b.num * a.den

/-- The reals that round to a binary number: the ends lie half way to its neighbours, and the
lower neighbour of a power of two is only half as far. -/
structure Interval where
  low : Ratio
  high : Ratio
  closed : Bool

def Binary.interval (x : Binary) : Interval where
  low :=
    let below := if x.mantissa = fractions && x.exponent ≠ -1074 then 1 else 2
    .scaled (4 * x.mantissa - below) 2 (x.exponent - 2)
  high := .scaled (4 * x.mantissa + 2) 2 (x.exponent - 2)
  closed := x.mantissa % 2 = 0

def Interval.contains (i : Interval) (r : Ratio) : Bool :=
  if i.closed then i.low.le r && r.le i.high else i.low.lt r && r.lt i.high

/-- The greatest `e` with `10^e ≤ x`, for positive `x`: an estimate from the binary exponent is
at most one too small. -/
def Binary.magnitude (x : Binary) : Int :=
  let estimate := ((x.mantissa.log2 : Int) + x.exponent) * 30103 / 100000
  let value := Ratio.scaled x.mantissa 2 x.exponent
  let tooSmall := (Ratio.scaled 1 10 (estimate + 1)).le value
  let tooLarge := value.lt (Ratio.scaled 1 10 estimate)
  if tooSmall then estimate + 1 else if tooLarge then estimate - 1 else estimate

/-- Which of two decimals is taken that are equally near: the one with an even last digit, or the
greater one. -/
inductive Tie where
  | even
  | up
  deriving DecidableEq, Repr

/-- The multiple of `10^grid` nearest to the number among its two neighbours there that round
to it, if any does. -/
def Binary.onGrid? (x : Binary) (tie : Tie) (grid : Int) : Option Scaled :=
  let value := Ratio.scaled x.mantissa 2 x.exponent
  let unit := Ratio.scaled 1 10 grid
  let k := value.num * unit.den / (value.den * unit.num)
  let below := hits k unit
  let above := hits (k + 1) unit
  let nearerBelow :=
    2 * value.num * unit.den < (2 * k + 1) * unit.num * value.den
      || (2 * value.num * unit.den = (2 * k + 1) * unit.num * value.den
        && tie = .even && k % 2 = 0)
  if below && (nearerBelow || !above) then some ⟨k, grid⟩
  else if above then some ⟨k + 1, grid⟩
  else none
where
  hits (k : Nat) (unit : Ratio) : Bool := x.interval.contains ⟨k * unit.num, unit.den⟩

/-- Zeros at the end of the coefficient go into the exponent; `fuel` bounds their number. -/
def Scaled.strip : Nat → Scaled → Scaled
  | 0, d => d
  | fuel + 1, d =>
      if d.coefficient ≠ 0 && d.coefficient % 10 = 0 then
        strip fuel ⟨d.coefficient / 10, d.exponent + 1⟩
      else d

/-- The shortest decimal of a positive number. Seventeen digits always suffice. -/
def Binary.shortest (x : Binary) (tie : Tie) : Scaled :=
  if x.mantissa = 0 then ⟨0, 0⟩
  else
    let top := x.magnitude
    let found := (List.range 17).findSome? fun (n : Nat) => x.onGrid? tie (top - n)
    (found.getD ⟨x.mantissa, x.exponent⟩).strip 20

end ProcessStep.Decimal
