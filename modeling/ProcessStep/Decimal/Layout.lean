import ProcessStep.Decimal.Shortest

/-!
How a floating-point number is written: always with the digits of its shortest decimal, with at
least one digit after the point in positional notation, and in scientific notation where a
layout asks for it.
-/

namespace ProcessStep.Decimal

/-- How numbers are written: which decimal exponents are positional, the others being
scientific; what stands before a positive exponent; and which decimal a tie takes. -/
structure Layout where
  positional : Int → Bool
  plus : List Char
  tie : Tie

/-- Data keep positional notation for decimal exponents from -5 to 15. -/
def Layout.data : Layout where
  positional e := -5 ≤ e && e ≤ 15
  plus := ['+']
  tie := .even

def Layout.prose : Layout where
  positional _ := true
  plus := []
  tie := .up

/-- Within lists and maps, decimal exponents from -4 to 15 are positional. -/
def Layout.inner : Layout where
  positional e := -4 ≤ e && e ≤ 15
  plus := []
  tie := .up

def digitChars (n : Nat) : List Char :=
  Nat.toDigits 10 n

/-- Digits with a point after the first `e + 1` of them, zeros filled in on either side. -/
def positionalText (digits : List Char) (e : Int) : List Char :=
  if e < 0 then '0' :: '.' :: List.replicate (-e - 1).toNat '0' ++ digits
  else
    let whole := digits.take (e.toNat + 1)
    let rest := digits.drop (e.toNat + 1)
    whole ++ List.replicate (e.toNat + 1 - digits.length) '0' ++ '.' ::
      (if rest.isEmpty then ['0'] else rest)

/-- One digit, the others after a point if there are any, and the exponent after its sign. -/
def scientificText (plus digits : List Char) (e : Int) : List Char :=
  digits.take 1 ++ (if digits.length ≤ 1 then [] else '.' :: digits.drop 1) ++
    'e' :: (if e < 0 then ['-'] else plus) ++ digitChars e.natAbs

def Layout.magnitudeText (layout : Layout) (d : Scaled) : List Char :=
  let digits := digitChars d.coefficient
  let e := d.exponent + digits.length - 1
  if layout.positional e then positionalText digits e else scientificText layout.plus digits e

/-- The bit of the sign, 2^63; the bits below it are the magnitude. -/
def signBit : Nat := 9223372036854775808

/-- The text of a number that is neither infinite nor undefined. -/
def Layout.finiteText (layout : Layout) (x : Float) : List Char :=
  (if signBit ≤ x.toBits.toNat then ['-'] else []) ++
    layout.magnitudeText ((Binary.ofBits (x.toBits.toNat % signBit)).shortest layout.tie)

/-- The text of any number; those that are not finite have names. -/
def Layout.text (layout : Layout) (x : Float) : String :=
  if x.isNaN then "NaN"
  else if x.isInf then (if x < 0 then "-inf" else "inf")
  else String.ofList (layout.finiteText x)

end ProcessStep.Decimal
