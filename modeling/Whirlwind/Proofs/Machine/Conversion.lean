import Whirlwind.Machine.Address
import Whirlwind.Machine.Word

/-!
# Integers that fit

An integer of 64 bits fits a word or an address if it is in range, and then
nothing of it is lost.  A word is made of the integer that it holds and of no
other one, unless it is negative zero, which no integer is made to
(`Word.ofInteger_eq_ok_iff`).  To negate what a word holds all its bits are
complemented.
-/

namespace Whirlwind

namespace Word

variable {number : Int64} {word : Word}

/-- The word with all bits of another one complemented. -/
def complement (word : Word) : Word :=
  ⟨~~~word.bits⟩

theorem isNegative_iff : word.isNegative = true ↔ 0o100000 ≤ word.bits.toNat := by
  rw [isNegative, decide_eq_true_eq, UInt16.le_iff_toNat_le]
  rfl

@[simp]
theorem isNegativeZero_iff :
    word.isNegativeZero = true ↔ word.bits.toNat = 0o177777 := by
  rcases word with ⟨bits⟩
  rw [isNegativeZero, decide_eq_true_eq, negativeZero, mk.injEq,
    ← UInt16.toNat_inj]
  rfl

theorem toNat_complement (word : Word) :
    word.complement.bits.toNat = 0o177777 - word.bits.toNat :=
  UInt16.toNat_not word.bits

/-- What a word holds, as an integer without bounds. -/
theorem toInt_toInteger (word : Word) :
    word.toInteger.toInt =
      if word.isNegative then (word.bits.toNat : Int) - 0o177777
      else word.bits.toNat := by
  have size : (Int64.ofNat word.magnitude).toInt = word.magnitude := by
    have small := word.magnitude_le
    apply Int64.toInt_ofNat_of_lt
    simp only [magnitudeLimit] at small
    omega
  have below := word.bits.toNat_lt
  have complemented : (~~~word.bits).toNat = 0o177777 - word.bits.toNat :=
    toNat_complement word
  rw [toInteger]
  split
  · next negative =>
    rw [Int64.toInt_neg, size, magnitude, if_pos negative, complemented]
    rw [Int.bmod_eq_of_le (by omega) (by omega)]
    omega
  · next positive => rw [size, magnitude, if_neg positive]

theorem toInt_toInteger_lt_zero_iff :
    word.toInteger.toInt < 0 ↔
      word.isNegative = true ∧ word.isNegativeZero = false := by
  have below := word.bits.toNat_lt
  simp only [toInt_toInteger, isNegative_iff, ← Bool.not_eq_true,
    isNegativeZero_iff]
  split <;> omega

/-- No word holds more than its magnitude has room for. -/
theorem toInt_toInteger_bounds (word : Word) :
    -0o77777 ≤ word.toInteger.toInt ∧ word.toInteger.toInt ≤ 0o77777 := by
  have below := word.bits.toNat_lt
  simp only [toInt_toInteger, isNegative_iff]
  split <;> omega

theorem toInt_neg_of_bounds (low : -0o77777 ≤ number.toInt)
    (high : number.toInt ≤ 0o77777) : (-number).toInt = -number.toInt := by
  rw [Int64.toInt_neg, Int.bmod_eq_of_le (by omega) (by omega)]

/-- The complement of a word holds the negation of what the word holds. -/
theorem toInteger_complement (word : Word) :
    word.complement.toInteger = -word.toInteger := by
  have below := word.bits.toNat_lt
  have complemented := toNat_complement word
  have bounds := word.toInt_toInteger_bounds
  rw [← Int64.toInt_inj, toInt_neg_of_bounds bounds.1 bounds.2]
  simp only [toInt_toInteger, isNegative_iff, complemented]
  split <;> split <;> omega

/-- The complement of a word is negative zero if and only if it is zero. -/
theorem isNegativeZero_complement_iff :
    word.complement.isNegativeZero = true ↔ word.bits.toNat = 0 := by
  have below := word.bits.toNat_lt
  rw [isNegativeZero_iff, toNat_complement]
  omega

/-- Words that hold the same integer are the same, negative zero aside. -/
theorem eq_of_toInteger_eq {other : Word}
    (same : word.toInteger = other.toInteger)
    (plain : word.isNegativeZero = false)
    (otherPlain : other.isNegativeZero = false) : word = other := by
  have below := word.bits.toNat_lt
  have otherBelow := other.bits.toNat_lt
  rw [← Bool.not_eq_true, isNegativeZero_iff] at plain otherPlain
  rw [← Int64.toInt_inj] at same
  simp only [toInt_toInteger, isNegative_iff] at same
  have bits : word.bits.toNat = other.bits.toNat := by
    split at same <;> split at same <;> omega
  rcases word with ⟨bits⟩
  rcases other with ⟨otherBits⟩
  exact congrArg mk (UInt16.toNat_inj.1 bits)

/-! ## Words made of integers -/

/-- What comes of making a word of an integer. -/
inductive ComesOf (number : Int64) : Except RangeError Word → Prop
  | tooLarge (high : 0o77777 < number.toInt) :
      ComesOf number (.error (.tooLarge number))
  | tooSmall (low : number.toInt < -0o77777) :
      ComesOf number (.error (.tooSmall number))
  | word {word : Word} (low : -0o77777 ≤ number.toInt)
      (high : number.toInt ≤ 0o77777) (held : word.toInteger = number)
      (plain : word.isNegativeZero = false) : ComesOf number (.ok word)

theorem comesOf_ofInteger (number : Int64) :
    ComesOf number (ofInteger number) := by
  unfold ofInteger
  split
  · next high => exact .tooLarge high
  split
  · next low => exact .tooSmall low
  next bounded above =>
  simp only [magnitudeLimit, Int.not_lt] at bounded above
  have size : (UInt16.ofNat number.toInt.natAbs).toNat =
      number.toInt.natAbs := by
    apply UInt16.toNat_ofNat_of_lt
    show _ < 65536
    omega
  have complemented :
      (~~~UInt16.ofNat number.toInt.natAbs).toNat =
        0o177777 - number.toInt.natAbs := by
    rw [UInt16.toNat_not, size]
    rfl
  refine .word above bounded ?_ ?_
  · rw [← Int64.toInt_inj, toInt_toInteger]
    simp only [isNegative_iff]
    split <;> split <;> omega
  · rw [← Bool.not_eq_true, isNegativeZero_iff]
    dsimp only
    split <;> omega

theorem exists_ofInteger_iff :
    (∃ word, ofInteger number = .ok word) ↔
      -0o77777 ≤ number.toInt ∧ number.toInt ≤ 0o77777 := by
  have comes := comesOf_ofInteger number
  generalize ofInteger number = result at comes ⊢
  cases comes with
  | tooLarge high | tooSmall low => exact iff_of_false nofun (by omega)
  | word low high => exact iff_of_true ⟨_, rfl⟩ ⟨low, high⟩

@[simp]
theorem ofInteger_eq_tooLarge_iff :
    ofInteger number = .error (.tooLarge number) ↔
      0o77777 < number.toInt := by
  have comes := comesOf_ofInteger number
  generalize ofInteger number = result at comes ⊢
  cases comes with
  | tooLarge high => exact iff_of_true rfl high
  | tooSmall low | word low high => exact iff_of_false nofun (by omega)

@[simp]
theorem ofInteger_eq_tooSmall_iff :
    ofInteger number = .error (.tooSmall number) ↔
      number.toInt < -0o77777 := by
  have comes := comesOf_ofInteger number
  generalize ofInteger number = result at comes ⊢
  cases comes with
  | tooSmall low => exact iff_of_true rfl low
  | tooLarge high | word low high => exact iff_of_false nofun (by omega)

/-- A word is made of the integer that it holds, unless it is negative zero. -/
@[simp]
theorem ofInteger_eq_ok_iff :
    ofInteger number = .ok word ↔
      word.toInteger = number ∧ word.isNegativeZero = false := by
  have sound : ∀ {other : Word}, ofInteger number = .ok other →
      other.toInteger = number ∧ other.isNegativeZero = false := by
    intro other made
    have comes := comesOf_ofInteger number
    rw [made] at comes
    cases comes with
    | word low high held plain => exact ⟨held, plain⟩
  refine ⟨sound, ?_⟩
  rintro ⟨rfl, plain⟩
  rcases exists_ofInteger_iff.2 word.toInt_toInteger_bounds with ⟨other, made⟩
  rcases sound made with ⟨held, otherPlain⟩
  rw [made, eq_of_toInteger_eq held otherPlain plain]

/-- The negation of an integer other than zero is made to the complement. -/
theorem ofInteger_neg (made : ofInteger number = .ok word)
    (visible : number ≠ 0) : ofInteger (-number) = .ok word.complement := by
  rcases ofInteger_eq_ok_iff.1 made with ⟨rfl, plain⟩
  refine ofInteger_eq_ok_iff.2 ⟨toInteger_complement word, ?_⟩
  rw [← Bool.not_eq_true, isNegativeZero_complement_iff]
  intro zero
  apply visible
  rw [← Int64.toInt_inj, toInt_toInteger, zero]
  simp only [isNegative_iff, zero]
  rfl

end Word

namespace Address

variable {number : Int64} {address : Address}

theorem toInt_toInteger (address : Address) :
    address.toInteger.toInt = address.number := by
  have small := address.number_le
  exact Int64.toInt_ofNat_of_lt (by omega)

/-- What comes of making an address of an integer. -/
inductive ComesOf (number : Int64) : Except RangeError Address → Prop
  | tooSmall (low : number.toInt < 0) :
      ComesOf number (.error (.tooSmall number))
  | tooLarge (high : 0o3777 < number.toInt) :
      ComesOf number (.error (.tooLarge number))
  | address {address : Address} (place : number.toInt = address.number) :
      ComesOf number (.ok address)

theorem comesOf_ofInteger (number : Int64) :
    ComesOf number (ofInteger number) := by
  unfold ofInteger
  split
  · next low => exact .tooSmall low
  next natural =>
  split
  · exact .address (Int.toNat_of_nonneg (Int.not_lt.1 natural)).symm
  · exact .tooLarge (by omega)

theorem exists_ofInteger_iff :
    (∃ address, ofInteger number = .ok address) ↔
      0 ≤ number.toInt ∧ number.toInt ≤ 0o3777 := by
  have comes := comesOf_ofInteger number
  generalize ofInteger number = result at comes ⊢
  cases comes with
  | tooSmall low | tooLarge high => exact iff_of_false nofun (by omega)
  | @address address place =>
      have small := address.number_le
      exact iff_of_true ⟨_, rfl⟩ (by omega)

@[simp]
theorem ofInteger_eq_tooSmall_iff :
    ofInteger number = .error (.tooSmall number) ↔ number.toInt < 0 := by
  have comes := comesOf_ofInteger number
  generalize ofInteger number = result at comes ⊢
  cases comes with
  | tooSmall low => exact iff_of_true rfl low
  | tooLarge high | address place => exact iff_of_false nofun (by omega)

@[simp]
theorem ofInteger_eq_tooLarge_iff :
    ofInteger number = .error (.tooLarge number) ↔ 0o3777 < number.toInt := by
  have comes := comesOf_ofInteger number
  generalize ofInteger number = result at comes ⊢
  cases comes with
  | tooLarge high => exact iff_of_true rfl high
  | tooSmall low => exact iff_of_false nofun (by omega)
  | @address address place =>
      have small := address.number_le
      exact iff_of_false nofun (by omega)

/-- An address is made of its number, and of no other integer. -/
@[simp]
theorem ofInteger_eq_ok_iff :
    ofInteger number = .ok address ↔ address.toInteger = number := by
  have small := address.number_le
  have comes := comesOf_ofInteger number
  rw [← Int64.toInt_inj, toInt_toInteger]
  generalize ofInteger number = result at comes ⊢
  cases comes with
  | tooSmall low | tooLarge high => exact iff_of_false nofun (by omega)
  | @address other place =>
      rcases address with ⟨here, inside⟩
      rcases other with ⟨there, reached⟩
      simp only [Except.ok.injEq, mk.injEq] at place ⊢
      omega

end Address

/--
An integer is made to a word if it is at most `0o77777` in size, and to an
address if it is one of `0` to `0o3777`; otherwise the error says on which side
it is out of range.  A word or an address gives the integer back that it was
made of.  The sign of a word is that of the integer, the word of a negated
integer is the complement, and every word but negative zero is made of what it
holds.
-/
theorem conversions_exact :
    (∀ number : Int64,
      ((∃ word, Word.ofInteger number = .ok word) ↔
        -0o77777 ≤ number.toInt ∧ number.toInt ≤ 0o77777) ∧
      (Word.ofInteger number = .error (.tooLarge number) ↔
        0o77777 < number.toInt) ∧
      (Word.ofInteger number = .error (.tooSmall number) ↔
        number.toInt < -0o77777) ∧
      ∀ word, Word.ofInteger number = .ok word →
        word.toInteger = number ∧
        (word.isNegative = true ↔ number.toInt < 0) ∧
        word.isNegativeZero = false ∧
        (number ≠ 0 → Word.ofInteger (-number) = .ok word.complement)) ∧
    (∀ word : Word, Word.ofInteger word.toInteger = .ok word ↔
      word.isNegativeZero = false) ∧
    ∀ number : Int64,
      ((∃ address, Address.ofInteger number = .ok address) ↔
        0 ≤ number.toInt ∧ number.toInt ≤ 0o3777) ∧
      (Address.ofInteger number = .error (.tooSmall number) ↔
        number.toInt < 0) ∧
      (Address.ofInteger number = .error (.tooLarge number) ↔
        0o3777 < number.toInt) ∧
      ∀ address, Address.ofInteger number = .ok address ↔
        address.toInteger = number := by
  refine ⟨fun number => ⟨Word.exists_ofInteger_iff,
    Word.ofInteger_eq_tooLarge_iff, Word.ofInteger_eq_tooSmall_iff, ?_⟩, ?_,
    fun number => ⟨Address.exists_ofInteger_iff,
      Address.ofInteger_eq_tooSmall_iff, Address.ofInteger_eq_tooLarge_iff,
      fun _ => Address.ofInteger_eq_ok_iff⟩⟩
  · intro word made
    rcases Word.ofInteger_eq_ok_iff.1 made with ⟨rfl, plain⟩
    refine ⟨rfl, ?_, plain, Word.ofInteger_neg made⟩
    rw [Word.toInt_toInteger_lt_zero_iff, and_iff_left plain]
  · intro word
    rw [Word.ofInteger_eq_ok_iff, and_iff_right rfl]

/-- The least integer of a word, and the word of its negation. -/
theorem conversions_exact_least :
    Word.ofInteger (-0o77777) = .ok ⟨0o100000⟩ ∧
      (-0o77777 : Int64) ≠ 0 ∧
      (⟨0o100000⟩ : Word).toInteger = -0o77777 ∧
      Word.ofInteger 0o77777 = .ok ⟨0o77777⟩ := by
  have made : Word.ofInteger (-0o77777) = .ok ⟨0o100000⟩ := rfl
  have visible : (-0o77777 : Int64) ≠ 0 := by decide
  rcases (conversions_exact.1 (-0o77777)).2.2.2 _ made with
    ⟨held, _, _, complements⟩
  exact ⟨made, visible, held, complements visible⟩

end Whirlwind
