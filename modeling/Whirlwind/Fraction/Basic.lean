/-!
# Fractions in double precision

The arithmetic unit regards a word as a fraction between -1 and 1, and the
notation writes such fractions in decimal.  A fraction is held as a sign and
an encoded magnitude in the 64-bit floating-point format: units of the
smallest positive number, so that the code of a magnitude grows with it.

`Fraction.roundedRatio` finds the code nearest to a ratio; a tie goes to the
even code.  Its main fact, `roundedRatio_lt`, is that a ratio at least one
unit of precision below one has a code below that of one.
-/

namespace Whirlwind

namespace Fraction

/-- The smallest positive number is one over this power of two. -/
def unitPower : Nat :=
  1074

/-- The weight of a code's exponent field, which is above bit 51. -/
def exponentWeight : Nat :=
  1 <<< 52

/-- The code of one. -/
def oneCode : Nat :=
  1023 * exponentWeight

end Fraction

/-- A signed number below one in magnitude, as its sign and code. -/
structure Fraction where
  negative : Bool
  code : Nat
  code_lt : code < Fraction.oneCode := by decide
  deriving DecidableEq, Repr

namespace Fraction

/-- The same magnitude with the other sign; zero has two signs as well. -/
def negate (fraction : Fraction) : Fraction :=
  { fraction with negative := !fraction.negative }

/-- The 64-bit pattern: the sign bit in front of the code. -/
def bits (fraction : Fraction) : Nat :=
  (if fraction.negative then 1 <<< 63 else 0) + fraction.code

/-- The significand of a magnitude, which is less than twice the weight. -/
def significand (code : Nat) : Nat :=
  if code < exponentWeight then code
  else exponentWeight + code % exponentWeight

/-- The power of two, counted in units, that a significand is scaled by. -/
def scale (code : Nat) : Nat :=
  code / exponentWeight - 1

/-- The magnitude of a code in units. -/
def units (code : Nat) : Nat :=
  significand code <<< scale code

/-- The whole number nearest to a ratio; of two, the even one. -/
def nearest (numerator denominator : Nat) : Nat :=
  let floor := numerator / denominator
  let remainder := numerator % denominator
  if 2 * remainder < denominator then floor
  else if 2 * remainder > denominator then floor + 1
  else floor + floor % 2

/-- A bound on a ratio that is a whole number bounds the nearest number too. -/
theorem nearest_le {numerator denominator bound : Nat}
    (positive : 0 < denominator)
    (small : numerator ≤ bound * denominator) :
    nearest numerator denominator ≤ bound := by
  have quotient_le : numerator / denominator ≤ bound :=
    Nat.div_le_of_le_mul (by rw [Nat.mul_comm]; exact small)
  have split := Nat.div_add_mod numerator denominator
  simp only [nearest]
  rcases Nat.lt_or_ge (numerator / denominator) bound with below | above
  · split
    · omega
    · split <;> omega
  · have same : numerator / denominator = bound := by omega
    have exact_ratio : numerator % denominator = 0 := by
      rw [same, Nat.mul_comm] at split
      omega
    simp [exact_ratio, positive, same]

/--
The code nearest to a ratio.  The ratio is taken in units, shifted until its
whole part fits a significand, and rounded there; a significand that rounds up
to the next power of two carries into the exponent field by itself.
-/
def roundedRatio (numerator denominator : Nat) : Nat :=
  let scaled := numerator <<< unitPower
  let shift := (scaled / denominator).log2 - 52
  shift * exponentWeight + nearest scaled (denominator <<< shift)

/-- A ratio one unit of precision below one, or less, rounds below one. -/
theorem roundedRatio_lt {numerator denominator : Nat}
    (positive : 0 < denominator)
    (small : numerator <<< 53 ≤ 0x1fffffffffffff * denominator) :
    roundedRatio numerator denominator < oneCode := by
  replace small : numerator * 2 ^ 53 ≤ (2 ^ 53 - 1) * denominator := by
    rwa [Nat.shiftLeft_eq] at small
  have below : numerator < denominator := by
    have : numerator * 2 ^ 53 < denominator * 2 ^ 53 := by omega
    exact Nat.lt_of_mul_lt_mul_right this
  have quotient_lt :
      numerator * 2 ^ unitPower / denominator < 2 ^ unitPower := by
    apply Nat.div_lt_of_lt_mul
    exact Nat.mul_lt_mul_of_pos_right below (Nat.two_pow_pos _)
  have log_le :
      (numerator * 2 ^ unitPower / denominator).log2 ≤ 1073 := by
    by_cases zero : numerator * 2 ^ unitPower / denominator = 0
    · simp [zero]
    · have log_lt := (Nat.log2_lt zero).2 quotient_lt
      have power_eq : unitPower = 1074 := rfl
      omega
  simp only [roundedRatio, Nat.shiftLeft_eq]
  generalize quotient_eq :
    numerator * 2 ^ unitPower / denominator = quotient at *
  have quotient_lt_pow : quotient < 2 ^ (quotient.log2 + 1) :=
    Nat.lt_log2_self
  rcases Nat.lt_or_ge (quotient.log2 - 52) 1021 with low | high
  · have bound :
        nearest (numerator * 2 ^ unitPower)
          (denominator * 2 ^ (quotient.log2 - 52)) ≤ 2 ^ 53 := by
      apply nearest_le (Nat.mul_pos positive (Nat.two_pow_pos _))
      have scaled_lt :
          numerator * 2 ^ unitPower < 2 ^ (quotient.log2 + 1) * denominator := by
        rw [← Nat.div_lt_iff_lt_mul positive, quotient_eq]
        exact quotient_lt_pow
      have power_le :
          2 ^ (quotient.log2 + 1) ≤ 2 ^ 53 * 2 ^ (quotient.log2 - 52) := by
        rw [← Nat.pow_add]
        exact Nat.pow_le_pow_right (by decide) (by omega)
      calc
        numerator * 2 ^ unitPower
            ≤ 2 ^ (quotient.log2 + 1) * denominator := Nat.le_of_lt scaled_lt
        _ ≤ 2 ^ 53 * 2 ^ (quotient.log2 - 52) * denominator :=
            Nat.mul_le_mul_right _ power_le
        _ = 2 ^ 53 * (denominator * 2 ^ (quotient.log2 - 52)) := by
            rw [Nat.mul_assoc, Nat.mul_comm denominator]
    simp only [oneCode, exponentWeight, Nat.shiftLeft_eq] at *
    omega
  · obtain ⟨rest, power_eq⟩ : ∃ rest, unitPower = 53 + rest := ⟨1021, rfl⟩
    have limit_eq : unitPower = 1074 := rfl
    have shift_eq : quotient.log2 - 52 = rest := by omega
    rw [shift_eq]
    have bound :
        nearest (numerator * 2 ^ unitPower) (denominator * 2 ^ rest) ≤
          2 ^ 53 - 1 := by
      apply nearest_le (Nat.mul_pos positive (Nat.two_pow_pos _))
      calc
        numerator * 2 ^ unitPower = numerator * 2 ^ 53 * 2 ^ rest := by
            rw [power_eq, Nat.pow_add, Nat.mul_assoc]
        _ ≤ (2 ^ 53 - 1) * denominator * 2 ^ rest :=
            Nat.mul_le_mul_right _ small
        _ = (2 ^ 53 - 1) * (denominator * 2 ^ rest) := Nat.mul_assoc _ _ _
    simp only [oneCode, exponentWeight, Nat.shiftLeft_eq] at *
    omega

/-- The fraction nearest to a ratio, unless it rounds to one or more. -/
def ofRatio? (negative : Bool) (numerator denominator : Nat) :
    Option Fraction :=
  if below : roundedRatio numerator denominator < oneCode then
    some ⟨negative, roundedRatio numerator denominator, below⟩
  else
    none

end Fraction

end Whirlwind
