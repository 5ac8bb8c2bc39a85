import Mathlib.Data.Int.Bitwise
import Mathlib.Data.Nat.Digits.Defs
import Whirlwind.Machine.Integer

/-!
# Integers without bounds

What the values of 64 bits have to do with integers: a number is a value if it
is in range, the bitwise operators are those of two's complement without an end,
and digits stand for the number that they are the digits of.
-/

namespace Whirlwind.Integer

/-- A number that is a value. -/
def InRange (number : Int) : Prop :=
  least ≤ number ∧ number ≤ greatest

instance (number : Int) : Decidable (InRange number) :=
  inferInstanceAs (Decidable (_ ∧ _))

theorem inRange_toInt (value : Int64) : InRange value.toInt := by
  have inside := ofInt?_toInt value
  unfold ofInt? at inside
  split at inside
  · next range => exact range
  · cases inside

/-- The bits of a negative number leave out what it lies below minus one. -/
theorem toInt_of_msb {width : Nat} {bits : BitVec width}
    (negative : bits.msb = true) :
    bits.toInt = Int.negSucc (~~~bits).toNat := by
  have below := bits.isLt
  rw [BitVec.toInt_eq_msb_cond, if_pos negative, BitVec.toNat_not,
    Int.negSucc_eq]
  omega

theorem toInt_of_not_msb {width : Nat} {bits : BitVec width}
    (positive : bits.msb = false) : bits.toInt = Int.ofNat bits.toNat :=
  BitVec.toInt_eq_toNat_of_msb positive

theorem ldiff_toNat {width : Nat} (left right : BitVec width) :
    Nat.ldiff left.toNat right.toNat = (left &&& ~~~right).toNat := by
  apply Nat.eq_of_testBit_eq
  intro place
  rw [Nat.testBit_ldiff, BitVec.testBit_toNat, BitVec.testBit_toNat,
    BitVec.testBit_toNat, BitVec.getLsbD_and, BitVec.getLsbD_not]
  by_cases inside : place < width
  · simp [inside]
  · simp [BitVec.getLsbD_of_ge _ _ (Nat.le_of_not_lt inside)]

/-- The common bits of two values are those of the integers. -/
theorem toInt_and (left right : Int64) :
    (left &&& right).toInt = Int.land left.toInt right.toInt := by
  rw [← Int64.toInt_toBitVec, ← Int64.toInt_toBitVec, ← Int64.toInt_toBitVec,
    Int64.toBitVec_and]
  cases leftSign : left.toBitVec.msb <;> cases rightSign : right.toBitVec.msb
  · rw [toInt_of_not_msb leftSign, toInt_of_not_msb rightSign,
      toInt_of_not_msb (by simp [leftSign]), BitVec.toNat_and]
    rfl
  · rw [toInt_of_not_msb leftSign, toInt_of_msb rightSign,
      toInt_of_not_msb (by simp [leftSign]), Int.land, ldiff_toNat,
      BitVec.not_not]
    rfl
  · rw [toInt_of_msb leftSign, toInt_of_not_msb rightSign,
      toInt_of_not_msb (by simp [rightSign]), Int.land, ldiff_toNat,
      BitVec.not_not, BitVec.and_comm]
    rfl
  · rw [toInt_of_msb leftSign, toInt_of_msb rightSign,
      toInt_of_msb (by simp [leftSign, rightSign]), Int.land, BitVec.not_and,
      BitVec.toNat_or]

/-- The bits set in one of two values or in both are those of the integers. -/
theorem toInt_or (left right : Int64) :
    (left ||| right).toInt = Int.lor left.toInt right.toInt := by
  rw [← Int64.toInt_toBitVec, ← Int64.toInt_toBitVec, ← Int64.toInt_toBitVec,
    Int64.toBitVec_or]
  cases leftSign : left.toBitVec.msb <;> cases rightSign : right.toBitVec.msb
  · rw [toInt_of_not_msb leftSign, toInt_of_not_msb rightSign,
      toInt_of_not_msb (by simp [leftSign, rightSign]), BitVec.toNat_or]
    rfl
  · rw [toInt_of_not_msb leftSign, toInt_of_msb rightSign,
      toInt_of_msb (by simp [rightSign]), Int.lor, ldiff_toNat,
      BitVec.not_or, BitVec.and_comm]
  · rw [toInt_of_msb leftSign, toInt_of_not_msb rightSign,
      toInt_of_msb (by simp [leftSign]), Int.lor, ldiff_toNat,
      BitVec.not_or]
  · rw [toInt_of_msb leftSign, toInt_of_msb rightSign,
      toInt_of_msb (by simp [leftSign]), Int.lor, BitVec.not_or,
      BitVec.toNat_and]

/-- The number that digits of a base stand for, the highest digit first. -/
def valueOf (base : Nat) (digits : List Char) : Nat :=
  Nat.ofDigits base
    (digits.map fun digit => (digitValue? digit).getD 0).reverse

theorem numeralFrom_eq_valueOf (base number : Nat) (digits : List Char) :
    numeralFrom base number digits =
      valueOf base digits + base ^ digits.length * number := by
  induction digits generalizing number with
  | nil => simp [numeralFrom, valueOf]
  | cons digit digits ih =>
      have step : numeralFrom base number (digit :: digits) =
          numeralFrom base (base * number + (digitValue? digit).getD 0)
            digits := rfl
      rw [step, ih, valueOf, valueOf, List.map_cons, List.reverse_cons,
        Nat.ofDigits_append, List.length_reverse, List.length_map,
        Nat.ofDigits_singleton, List.length_cons]
      ring

@[simp]
theorem numeralFrom_zero (base : Nat) (digits : List Char) :
    numeralFrom base 0 digits = valueOf base digits := by
  rw [numeralFrom_eq_valueOf, Nat.mul_zero, Nat.add_zero]

/-- Digits of a base, of which there is one at least. -/
def IsNumeral (base : Nat) (digits : List Char) : Prop :=
  digits ≠ [] ∧ ∀ digit ∈ digits, isDigitOf base digit = true

theorem isNumeral_iff {base : Nat} {digits : List Char} :
    IsNumeral base digits ↔
      (!digits.isEmpty && digits.all (isDigitOf base)) = true := by
  simp [IsNumeral]

instance (base : Nat) (digits : List Char) :
    Decidable (IsNumeral base digits) :=
  decidable_of_iff' _ isNumeral_iff

/-- A numeral is read as the number that its digits stand for. -/
theorem numeral?_eq (base : Nat) (digits : List Char) :
    numeral? base digits =
      if IsNumeral base digits then some (valueOf base digits) else none := by
  simp only [numeral?, numeralFrom_zero, isNumeral_iff]

/-- Digits of a base stay below the power of the base that they number. -/
theorem valueOf_lt {base : Nat} {digits : List Char} (several : 1 < base)
    (numeral : IsNumeral base digits) :
    valueOf base digits < base ^ digits.length := by
  have small : ∀ value ∈
      (digits.map fun digit => (digitValue? digit).getD 0).reverse,
      value < base := by
    intro value member
    rcases List.mem_map.1 (List.mem_reverse.1 member) with
      ⟨digit, inside, rfl⟩
    have counts := numeral.2 digit inside
    unfold isDigitOf at counts
    split at counts
    · next found =>
      rw [found]
      exact of_decide_eq_true counts
    · cases counts
  have below := Nat.ofDigits_lt_base_pow_length several small
  rwa [List.length_reverse, List.length_map] at below

/-- The digits of base ten are the decimal digits. -/
theorem isDigitOf_ten (character : Char) :
    isDigitOf 10 character = character.isDigit := by
  unfold isDigitOf digitValue?
  cases digit : character.isDigit with
  | true =>
      have codes := Char.isDigit_iff_toNat.1 digit
      simp only [Char.reduceToNat] at codes
      simp only [if_true, Char.reduceToNat, decide_eq_true_eq]
      omega
  | false =>
      simp only [Bool.false_eq_true, if_false]
      split
      · next value found =>
        split_ifs at found <;> simp_all <;> omega
      · rfl

end Whirlwind.Integer
