/-!
Sets of code points as short lists: intervals, arithmetic progressions, and progressions that
are moved as a whole to another place.
-/

namespace ProcessStep.Text

/-- The code points from `first` to `last`, both included. -/
structure Span where
  first : Nat
  last : Nat

def Span.contains (s : Span) (n : Nat) : Bool :=
  s.first ≤ n && n ≤ s.last

/-- The code points `first`, `first + step`, … up to `last`. -/
structure Run where
  first : Nat
  last : Nat
  step : Nat

def Run.contains (r : Run) (n : Nat) : Bool :=
  r.first ≤ n && n ≤ r.last && (n - r.first) % r.step == 0

/-- The members of `source` are sent, in order and at the same distances, to places that begin
at `target`. -/
structure Shift where
  source : Run
  target : Nat

def Shift.image? (s : Shift) (n : Nat) : Option Nat :=
  if s.source.contains n then some (s.target + (n - s.source.first)) else none

end ProcessStep.Text
