import Whirlwind.Fraction.Basic

/-!
# The shortest decimal text of a fraction

A fraction is written with the fewest decimal places that read back as the
same fraction, and of those with the decimal nearest to it, the greater one if
two are as near.  There is no exponent: a small fraction has zeros after its
point, and zero has no point.
-/

namespace Whirlwind.Fraction

/--
The decimals that read back as one magnitude, as bounds on its value in
quarters of a unit.  The bounds themselves read back when the significand is
even.
-/
structure Interval where
  value : Nat
  lower : Nat
  upper : Nat
  closed : Bool

/-- How many quarters of a unit make one. -/
def quarters : Nat :=
  1 <<< (unitPower + 2)

/--
Half the distance to the neighbouring codes on both sides.  Below a power of
two the codes are twice as dense.
-/
def interval (code : Nat) : Interval :=
  let step := 1 <<< scale code
  let value := 4 * units code
  let below :=
    if significand code = exponentWeight ∧ 0 < scale code then step
    else 2 * step
  ⟨value, value - below, value + 2 * step, code % 2 = 0⟩

namespace Interval

/-- Whether a decimal with the given digits and places is in the interval. -/
def contains (interval : Interval) (places digits : Nat) : Bool :=
  let decimal := digits * quarters
  let lower := interval.lower * Nat.pow 10 places
  let upper := interval.upper * Nat.pow 10 places
  if interval.closed then lower ≤ decimal && decimal ≤ upper
  else lower < decimal && decimal < upper

/--
The decimal of a number of places that is in the interval, if there is one:
the nearer neighbour of the value, which is the greater one if both are as
near, or else the other one.
-/
def decimal? (interval : Interval) (places : Nat) : Option (Nat × Nat) :=
  let scaled := interval.value * Nat.pow 10 places
  let floor := scaled / quarters
  let upward := quarters ≤ 2 * (scaled % quarters)
  let nearer := if upward then floor + 1 else floor
  let farther := if upward then floor else floor + 1
  if interval.contains places nearer then some (places, nearer)
  else if interval.contains places farther then some (places, farther)
  else none

end Interval

/--
The places and digits of the shortest decimal.  A magnitude has no more binary
places than its unit, so as many decimal places write it exactly.
-/
def shortest (code : Nat) : Nat × Nat :=
  match (List.range unitPower).findSome? (interval code).decimal? with
  | some decimal => decimal
  | none => (unitPower, units code * Nat.pow 5 unitPower)

/-- A decimal with its point, if it has places after it. -/
def decimalText (places digits : Nat) : String :=
  let written := Nat.toDigits 10 digits
  let padded :=
    List.replicate (places + 1 - written.length) '0' ++ written
  let whole := padded.take (padded.length - places)
  let fractional := padded.drop (padded.length - places)
  String.ofList (if places = 0 then whole else whole ++ '.' :: fractional)

/-- The shortest decimal text, with a minus sign on negative zero too. -/
def toText (fraction : Fraction) : String :=
  let magnitude := shortest fraction.code
  let text := decimalText magnitude.1 magnitude.2
  if fraction.negative then "-" ++ text else text

end Whirlwind.Fraction
