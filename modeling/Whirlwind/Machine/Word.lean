import Whirlwind.Fraction.Basic
import Whirlwind.Machine.RangeError

/-!
# Memory words

A word has 16 bits and holds a number in one's complement: the top bit is the
sign, and a negative number is the bitwise complement of its magnitude.  So
there are two zeros, of which all ones is the negative one.  Read as a
fraction, the same word has its binary point to the right of the sign bit.
-/

namespace Whirlwind

/-- One word of core memory. -/
structure Word where
  bits : UInt16
  deriving DecidableEq, Repr

namespace Word

/-- The top bit alone. -/
def signBit : UInt16 :=
  0o100000

/-- The largest magnitude. -/
def magnitudeLimit : Nat :=
  0o77777

/-- The word of all ones. -/
def negativeZero : Word :=
  ⟨0o177777⟩

/-- Whether the top bit is set, as it is in every pattern from it upwards. -/
def isNegative (word : Word) : Bool :=
  signBit ≤ word.bits

/-- Whether a word is the negative one of the two zeros. -/
def isNegativeZero (word : Word) : Bool :=
  word = negativeZero

/-- The size of the number in a word, its sign left aside. -/
def magnitude (word : Word) : Nat :=
  if word.isNegative then (~~~word.bits).toNat else word.bits.toNat

theorem magnitude_le (word : Word) : word.magnitude ≤ magnitudeLimit := by
  have size := word.bits.toNat_lt
  simp only [magnitude, isNegative, signBit, magnitudeLimit,
    decide_eq_true_eq, UInt16.le_iff_toNat_le, UInt16.toNat_not]
  split <;> simp_all <;> omega

/-- The number in a word; both zeros are zero. -/
def toInteger (word : Word) : Int64 :=
  let size := Int64.ofNat word.magnitude
  if word.isNegative then -size else size

/-- The fraction in a word. -/
def toFraction (word : Word) : Fraction where
  negative := word.isNegative
  code := Fraction.roundedRatio word.magnitude signBit.toNat
  code_lt := by
    apply Fraction.roundedRatio_lt (by decide)
    have small := word.magnitude_le
    simp only [magnitudeLimit] at small
    have sign : signBit.toNat = 0o100000 := rfl
    omega

/-- The word that holds an integer, which is never negative zero. -/
def ofInteger (number : Int64) : Except RangeError Word :=
  if (magnitudeLimit : Int) < number.toInt then .error (.tooLarge number)
  else if number.toInt < -(magnitudeLimit : Int) then
    .error (.tooSmall number)
  else
    let size := UInt16.ofNat number.toInt.natAbs
    .ok ⟨if number.toInt < 0 then ~~~size else size⟩

/-- The six octal digits of a word. -/
def toOctal (word : Word) : String :=
  Text.paddedOctal 6 word.bits.toNat

/-- The octal digits of a word, named as one. -/
def inspect (word : Word) : String :=
  "Word(0o" ++ word.toOctal ++ ")"

end Word

end Whirlwind
