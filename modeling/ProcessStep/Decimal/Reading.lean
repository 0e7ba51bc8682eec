/-!
Decimal text as a floating-point number. `ofText?` takes the usual spellings and rounds once,
to the nearest number; `ofScaled?` is the reading of a coefficient and an exponent that data
use, where the coefficient is rounded first and then scaled by a power of ten.
-/

namespace ProcessStep.Decimal

def isDigit (c : Char) : Bool :=
  '0' ≤ c && c ≤ '9'

def digitValue (c : Char) : Nat :=
  c.toNat - '0'.toNat

def ofDigits (ds : List Char) : Nat :=
  ds.foldl (fun n c => n * 10 + digitValue c) 0

/-- The digits at the front of a text, and what follows them. -/
def spanDigits (s : List Char) : List Char × List Char :=
  (s.takeWhile isDigit, s.dropWhile isDigit)

/-- An optional sign: whether it is a minus, and what follows it. -/
def spanSign : List Char → Bool × List Char
  | '-' :: rest => (true, rest)
  | '+' :: rest => (false, rest)
  | s => (false, s)

def signed (negative : Bool) (x : Float) : Float :=
  if negative then -x else x

/-- `coefficient · 10^exponent` rounded to the nearest number; exponents that leave the range in
any case are not multiplied out. -/
def nearest (coefficient : Nat) (exponent : Int) : Float :=
  if coefficient = 0 then 0
  else
    let size := (Nat.toDigits 10 coefficient).length + exponent
    if 310 < size then 1 / 0
    else if size < -330 then 0
    else Float.ofScientific coefficient (exponent < 0) exponent.natAbs

/-- The exponent part of a number: a letter, an optional sign and digits; without it, zero. -/
def exponent? : List Char → Option Int
  | [] => some 0
  | c :: rest =>
      if c = 'e' || c = 'E' then
        let (negative, digits) := spanSign rest
        if digits.isEmpty || !digits.all isDigit then none
        else some (if negative then -ofDigits digits else ofDigits digits)
      else none

/-- Names of the numbers that are not finite, in any case of their letters. -/
def ofName? (s : List Char) : Option Float :=
  let name := s.map Char.toLower
  if name = "inf".toList || name = "infinity".toList then some (1 / 0)
  else if name = "nan".toList then some (0 / 0)
  else none

/-- An optional sign, then a name or digits with an optional point and exponent; a digit must
stand on one side of the point. -/
def ofText? (s : List Char) : Option Float :=
  let (negative, body) := spanSign s
  match ofName? body with
  | some x => some (signed negative x)
  | none =>
      let (whole, rest) := spanDigits body
      let (fraction, rest) := match rest with
        | '.' :: rest => spanDigits rest
        | _ => ([], rest)
      if whole.isEmpty && fraction.isEmpty then none
      else (exponent? rest).map fun e =>
        signed negative (nearest (ofDigits (whole ++ fraction)) (e - fraction.length))

/-- A power of ten within the range of exponents of finite numbers. -/
def powerOfTen (n : Nat) : Float :=
  Float.ofScientific 1 false n

/-- The coefficient is rounded, then multiplied or divided by a power of ten; below the range
it is scaled down in steps. Nothing when the result is infinite. -/
def ofScaled? (coefficient : Nat) (exponent : Int) : Option Float :=
  go 4 (Float.ofNat coefficient) exponent
where
  go : Nat → Float → Int → Option Float
    | 0, _, _ => some 0
    | steps + 1, x, e =>
        if e.natAbs ≤ 308 then
          if 0 ≤ e then
            let y := x * powerOfTen e.toNat
            if y.isInf then none else some y
          else some (x / powerOfTen e.natAbs)
        else if x == 0 then some x
        else if 0 ≤ e then none
        else go steps (x / powerOfTen 308) (e + 308)

end ProcessStep.Decimal
