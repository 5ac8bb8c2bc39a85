/-!
# Integers

Values are 64-bit signed integers.  Arithmetic is done without bounds and its
result is a value only if it is in range.  Digit strings are read the same way.
-/

namespace Whirlwind.Integer

/-- The least value. -/
def least : Int :=
  -0x8000000000000000

/-- The greatest value. -/
def greatest : Int :=
  0x7fffffffffffffff

/-- The value that is equal to an integer, if the integer is in range. -/
def ofInt? (number : Int) : Option Int64 :=
  if least ≤ number ∧ number ≤ greatest then some (Int64.ofInt number)
  else none

theorem toInt_of_ofInt? {number : Int} {value : Int64}
    (inside : ofInt? number = some value) : value.toInt = number := by
  simp only [ofInt?] at inside
  split at inside
  · next range =>
      obtain rfl := Option.some.inj inside
      simp only [least, greatest] at range
      exact Int64.toInt_ofInt_of_le range.1 (by omega)
  · cases inside

theorem ofInt?_toInt (value : Int64) : ofInt? value.toInt = some value := by
  have lower := value.le_toInt
  have upper := value.toInt_lt
  have range : least ≤ value.toInt ∧ value.toInt ≤ greatest := by
    simp only [least, greatest]
    omega
  simp [ofInt?, range]

/-- What a digit counts in bases up to sixteen. -/
def digitValue? (digit : Char) : Option Nat :=
  if digit.isDigit then some (digit.toNat - '0'.toNat)
  else if 'a' ≤ digit ∧ digit ≤ 'f' then some (digit.toNat - 'a'.toNat + 10)
  else if 'A' ≤ digit ∧ digit ≤ 'F' then some (digit.toNat - 'A'.toNat + 10)
  else none

/-- Whether a character is a digit of a base. -/
def isDigitOf (base : Nat) (digit : Char) : Bool :=
  match digitValue? digit with
  | some value => value < base
  | none => false

/-- The number that digits stand for, read on from a number. -/
def numeralFrom (base number : Nat) (digits : List Char) : Nat :=
  digits.foldl
    (fun number digit => base * number + (digitValue? digit).getD 0) number

/-- The number that a non-empty run of digits of a base stands for. -/
def numeral? (base : Nat) (digits : List Char) : Option Nat :=
  if !digits.isEmpty && digits.all (isDigitOf base) then
    some (numeralFrom base 0 digits)
  else
    none

end Whirlwind.Integer
