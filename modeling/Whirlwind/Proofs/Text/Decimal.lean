import Whirlwind.Proofs.Machine.Integer
import Whirlwind.Proofs.Token.Shape
import Whirlwind.Text.Numeral

/-!
# Decimal digits

A number that is not negative is written in decimal digits without superfluous
zeros, and read back from them.  Other digits can stand for it as well, but they
start with a zero.  No two numbers are written alike (`Text.decimal_injective`).
-/

namespace Whirlwind

/-! ## Reading digits -/

namespace Integer

theorem numeralFrom_ten {digits : List Char}
    (digit : ∀ character ∈ digits, character.isDigit = true) (number : Nat) :
    numeralFrom 10 number digits = Nat.ofDigitChars 10 digits number := by
  induction digits generalizing number with
  | nil => rfl
  | cons first rest ih =>
      rw [List.forall_mem_cons] at digit
      rw [Nat.ofDigitChars_cons, ← ih digit.2]
      simp [numeralFrom, digitValue?, digit.1]

/-- Decimal digits stand for a number. -/
@[simp]
theorem numeral?_ten_eq_some_iff {digits : List Char} {number : Nat} :
    numeral? 10 digits = some number ↔
      digits ≠ [] ∧ (∀ character ∈ digits, character.isDigit = true) ∧
        number = Nat.ofDigitChars 10 digits 0 := by
  have classes : isDigitOf 10 = Char.isDigit := funext isDigitOf_ten
  simp only [numeral?, classes, Bool.and_eq_true, Bool.not_eq_true',
    List.isEmpty_eq_false_iff, List.all_eq_true, Option.ite_none_right_eq_some,
    Option.some.injEq, and_assoc]
  constructor
  · rintro ⟨visible, digit, rfl⟩
    exact ⟨visible, digit, numeralFrom_ten digit 0⟩
  · rintro ⟨visible, digit, rfl⟩
    exact ⟨visible, digit, numeralFrom_ten digit 0⟩

end Integer

/-! ## Writing digits -/

namespace Text

theorem isDigit_of_isAlpha {character : Char}
    (letter : character.isAlpha = true) : character.isDigit = false := by
  change (decide (character.val ≥ 65 ∧ character.val ≤ 90) ||
    (decide (character.val ≥ 97) && decide (character.val ≤ 122))) = true
    at letter
  show (decide (character.val ≥ 48) && decide (character.val ≤ 57)) = false
  simp only [Bool.or_eq_true, Bool.and_eq_true, decide_eq_true_eq, ge_iff_le,
    UInt32.le_iff_toNat_le, UInt32.reduceToNat] at letter
  simp only [Bool.and_eq_false_iff, decide_eq_false_iff_not, ge_iff_le,
    UInt32.le_iff_toNat_le, UInt32.reduceToNat]
  omega

theorem digitChar_toNat {character : Char}
    (digit : character.isDigit = true) :
    (character.toNat - '0'.toNat).digitChar = character := by
  have codes := Char.isDigit_iff_toNat.1 digit
  simp only [Char.reduceToNat] at codes ⊢
  apply Char.toNat_inj.1
  rw [Nat.toNat_digitChar_of_lt_ten (by omega)]
  omega

/-- Digits that are read on from a number are written behind it. -/
theorem toDigits_ofDigitChars {digits : List Char}
    (digit : ∀ character ∈ digits, character.isDigit = true) {number : Nat}
    (positive : 0 < number) :
    Nat.toDigits 10 (Nat.ofDigitChars 10 digits number) =
      Nat.toDigits 10 number ++ digits := by
  induction digits generalizing number with
  | nil => simp
  | cons first rest ih =>
      rw [List.forall_mem_cons] at digit
      have codes := Char.isDigit_iff_toNat.1 digit.1
      simp only [Char.reduceToNat] at codes
      have small : first.toNat - '0'.toNat < 10 := by
        simp only [Char.reduceToNat]
        omega
      rw [Nat.ofDigitChars_cons, ih digit.2 (by omega),
        ← Nat.toDigits_append_toDigits (by decide) positive small,
        Nat.toDigits_of_lt_base small, digitChar_toNat digit.1,
        List.append_assoc, List.singleton_append]

/-- Only zero is written with a zero in front. -/
theorem eq_zero_of_head_toDigits {number : Nat}
    (starts : (Nat.toDigits 10 number).head? = some '0') : number = 0 := by
  induction number using Nat.strongRecOn with
  | ind number ih =>
      by_cases small : number < 10
      · rw [Nat.toDigits_of_lt_base small, List.head?_singleton,
          Option.some.injEq] at starts
        exact Nat.digitChar_eq_zero.1 starts
      · rw [Nat.toDigits_of_base_le (by decide) (by omega),
          List.head?_append, Option.or_of_isSome (by simp)] at starts
        have := ih (number / 10) (by omega) starts
        omega

/-- Digits are those of their number if there are no superfluous zeros. -/
theorem toDigits_ofDigitChars_eq_self_iff {digits : List Char}
    (visible : digits ≠ [])
    (digit : ∀ character ∈ digits, character.isDigit = true) :
    Nat.toDigits 10 (Nat.ofDigitChars 10 digits 0) = digits ↔
      digits = ['0'] ∨ digits.head? ≠ some '0' := by
  constructor
  · intro same
    by_cases starts : digits.head? = some '0'
    · have zero := eq_zero_of_head_toDigits (same ▸ starts)
      rw [zero] at same
      exact Or.inl same.symm
    · exact Or.inr starts
  · rintro (rfl | other)
    · rfl
    · rcases List.exists_cons_of_ne_nil visible with ⟨first, rest, rfl⟩
      rw [List.forall_mem_cons] at digit
      have codes := Char.isDigit_iff_toNat.1 digit.1
      have apart : first.toNat ≠ '0'.toNat := by
        intro code
        exact other (congrArg some (Char.toNat_inj.1 code))
      simp only [Char.reduceToNat] at codes apart
      have small : first.toNat - '0'.toNat < 10 := by
        simp only [Char.reduceToNat]
        omega
      have positive : 0 < first.toNat - '0'.toNat := by
        simp only [Char.reduceToNat]
        omega
      rw [Nat.ofDigitChars_cons, Nat.mul_zero, Nat.zero_add,
        toDigits_ofDigitChars digit.2 positive, Nat.toDigits_of_lt_base small,
        digitChar_toNat digit.1, List.singleton_append]

/-! ## Signed numbers -/

theorem decimal_eq {number : Int64} (positive : 0 ≤ number.toInt) :
    (decimal number).toList = Nat.toDigits 10 number.toInt.toNat := by
  have shown : decimal number = number.toInt.toNat.repr := by
    show number.toInt.repr = _
    rw [Int.repr_eq_if, if_pos positive]
  rw [shown, Nat.repr_eq_ofList_toDigits, String.toList_ofList]

theorem isNumber_decimal {number : Int64} (positive : 0 ≤ number.toInt) :
    IsNumber Char.isDigit (decimal number) := by
  constructor
  · intro empty
    have nothing := decimal_eq positive
    rw [empty] at nothing
    exact Nat.toDigits_ne_nil nothing.symm
  · rw [decimal_eq positive]
    exact fun character member =>
      Nat.isDigit_of_mem_toDigits (by decide) (by decide) member

theorem decimal_eq_of_neg {number : Int64} (negative : number.toInt < 0) :
    (decimal number).toList =
      '-' :: Nat.toDigits 10 (-number.toInt).toNat := by
  have shown : decimal number = "-" ++ (-number.toInt).toNat.repr := by
    show number.toInt.repr = _
    rw [Int.repr_eq_if, if_neg (by omega)]
  rw [shown, String.toList_append, Nat.repr_eq_ofList_toDigits,
    String.toList_ofList]
  simp

/-- A number is written in digits, perhaps with a sign. -/
theorem isDigit_or_sign_of_mem_decimal {number : Int64} {character : Char}
    (member : character ∈ (decimal number).toList) :
    character.isDigit = true ∨ character = '-' := by
  rcases lt_or_ge number.toInt 0 with negative | positive
  · rw [decimal_eq_of_neg negative] at member
    rcases List.mem_cons.1 member with sign | digit
    · exact Or.inr sign
    · exact Or.inl
        (Nat.isDigit_of_mem_toDigits (by decide) (by decide) digit)
  · exact Or.inl ((isNumber_decimal positive).2 character member)

theorem toDigits_injective {first second : Nat}
    (same : Nat.toDigits 10 first = Nat.toDigits 10 second) :
    first = second := by
  have value := congrArg (Nat.ofDigitChars 10 · 0) same
  simpa only [Nat.ofDigitChars_ten_toDigits] using value

/-- Numbers of different signs are written differently. -/
theorem decimal_ne_of_signs {positive negative : Int64}
    (above : 0 ≤ positive.toInt) (below : negative.toInt < 0) :
    (decimal positive).toList ≠ (decimal negative).toList := by
  intro same
  rw [decimal_eq_of_neg below] at same
  have digit := (isNumber_decimal above).2 '-'
    (by rw [same]; exact List.mem_cons_self)
  exact absurd digit (by decide)

theorem decimal_injective {first second : Int64}
    (same : decimal first = decimal second) : first = second := by
  have written := congrArg String.toList same
  apply Int64.toInt_inj.1
  rcases lt_or_ge first.toInt 0 with below | above <;>
    rcases lt_or_ge second.toInt 0 with belowSecond | aboveSecond
  · rw [decimal_eq_of_neg below, decimal_eq_of_neg belowSecond] at written
    have value := toDigits_injective (List.cons.inj written).2
    omega
  · exact absurd written.symm (decimal_ne_of_signs aboveSecond below)
  · exact absurd written (decimal_ne_of_signs above belowSecond)
  · rw [decimal_eq above, decimal_eq aboveSecond] at written
    have value := toDigits_injective written
    omega

/-- Only zero is written as a zero. -/
@[simp]
theorem decimal_eq_zero_iff {number : Int64} :
    decimal number = "0" ↔ number = 0 := by
  have zero : decimal 0 = "0" := by decide
  rw [← zero]
  exact ⟨decimal_injective, fun same => same ▸ rfl⟩

/-- A number is read back from its decimal digits. -/
theorem numeral?_decimal {number : Int64} (positive : 0 ≤ number.toInt) :
    Integer.numeral? 10 (decimal number).toList = some number.toInt.toNat := by
  rcases isNumber_decimal positive with ⟨visible, digits⟩
  refine Integer.numeral?_ten_eq_some_iff.2 ⟨by simpa using visible, digits, ?_⟩
  rw [decimal_eq positive, Nat.ofDigitChars_ten_toDigits]

end Text

end Whirlwind
