import Mathlib.Algebra.Order.Field.Basic
import Mathlib.Algebra.Order.Field.Rat
import Mathlib.Algebra.Order.Group.Unbundled.Abs
import Mathlib.Algebra.Order.Ring.Abs
import Mathlib.Data.Nat.Log
import Mathlib.Tactic.FieldSimp
import Mathlib.Tactic.Linarith
import Mathlib.Tactic.NormNum
import Mathlib.Tactic.Ring
import Whirlwind.Fraction.Basic

/-!
# The nearest fraction

The code of a ratio is that of the magnitude nearest to it; of two magnitudes
that are as near it is the even one (`Fraction.isNearest_roundedRatio`).  Only
one code is (`Fraction.IsNearest.unique`), and it is below that of one exactly
for the numbers that are nearer to the last magnitude below one than to one
itself (`Fraction.IsNearest.lt_oneCode_iff`).
-/

namespace Whirlwind.Fraction

variable {code other : Nat} {number : ℚ}

/-- The magnitude of a code. -/
def magnitude (code : Nat) : ℚ :=
  units code / 2 ^ unitPower

/-- A code is that of the magnitude nearest to a number; of two that are as
near, it is the even one. -/
structure IsNearest (code : Nat) (number : ℚ) : Prop where
  least : ∀ other, |magnitude code - number| ≤ |magnitude other - number|
  even : ∀ other, other ≠ code →
    |magnitude other - number| = |magnitude code - number| → Even code

/-! ## Codes -/

theorem exponentWeight_pos : 0 < exponentWeight :=
  Nat.two_pow_pos 52

theorem even_exponentWeight : Even exponentWeight := by
  decide

/-- A code is its scale in the exponent field and its significand. -/
theorem scale_add_significand (code : Nat) :
    scale code * exponentWeight + significand code = code := by
  have split := Nat.div_add_mod' code exponentWeight
  unfold scale significand
  split
  · next small => simp [Nat.div_eq_of_lt small]
  · next large =>
    have one : 1 ≤ code / exponentWeight :=
      Nat.div_pos (Nat.le_of_not_lt large) exponentWeight_pos
    rw [Nat.sub_mul, Nat.one_mul]
    have enough := Nat.mul_le_mul_right exponentWeight one
    omega

theorem significand_lt (code : Nat) :
    significand code < 2 * exponentWeight := by
  have rest := Nat.mod_lt code exponentWeight_pos
  unfold significand
  split <;> omega

/-- Only the significands of the least scale can be small. -/
theorem le_significand (scaled : scale code ≠ 0) :
    exponentWeight ≤ significand code := by
  unfold significand
  split
  · next small => simp [scale, Nat.div_eq_of_lt small] at scaled
  · exact Nat.le_add_right _ _

theorem units_eq (code : Nat) :
    units code = significand code * 2 ^ scale code :=
  Nat.shiftLeft_eq _ _

/-- A significand that is as great as the next scale's least one carries. -/
theorem units_add {shift amount : Nat} (most : amount ≤ 2 * exponentWeight)
    (least : shift = 0 ∨ exponentWeight ≤ amount) :
    units (shift * exponentWeight + amount) = amount * 2 ^ shift := by
  have quotient : (shift * exponentWeight + amount) / exponentWeight =
      shift + amount / exponentWeight := by
    rw [Nat.mul_comm, Nat.mul_add_div exponentWeight_pos]
  have remainder : (shift * exponentWeight + amount) % exponentWeight =
      amount % exponentWeight := by
    rw [Nat.mul_comm, Nat.mul_add_mod]
  rw [units_eq, significand, scale, quotient, remainder]
  rcases Nat.lt_or_ge amount exponentWeight with small | large
  · rcases least with rfl | enough
    · simp [small, Nat.div_eq_of_lt small]
    · omega
  rw [if_neg (by omega)]
  rcases Nat.lt_or_eq_of_le most with below | rfl
  · have one : amount / exponentWeight = 1 :=
      Nat.div_eq_of_lt_le (by omega) (by omega)
    have left := Nat.div_add_mod amount exponentWeight
    rw [one, Nat.mul_one] at left
    rw [one, left, Nat.add_sub_cancel]
  · rw [Nat.mul_div_left 2 exponentWeight_pos, Nat.mul_mod_left,
      Nat.add_zero, Nat.add_sub_assoc (by decide), Nat.pow_add]
    ring

theorem units_lt_units_succ (code : Nat) : units code < units (code + 1) := by
  have next : code + 1 =
      scale code * exponentWeight + (significand code + 1) := by
    rw [← Nat.add_assoc, scale_add_significand]
  have least : scale code = 0 ∨ exponentWeight ≤ significand code + 1 := by
    by_cases scaled : scale code = 0
    · exact Or.inl scaled
    · exact Or.inr (Nat.le_succ_of_le (le_significand scaled))
  rw [next, units_add (significand_lt code) least, units_eq]
  exact Nat.mul_lt_mul_of_pos_right (Nat.lt_succ_self _) (Nat.two_pow_pos _)

theorem units_strictMono : StrictMono units :=
  strictMono_nat_of_lt_succ units_lt_units_succ

theorem magnitude_strictMono : StrictMono magnitude := fun one other less => by
  have positive : (0 : ℚ) < 2 ^ unitPower := by positivity
  have greater : (units one : ℚ) < units other :=
    Nat.cast_lt.2 (units_strictMono less)
  exact div_lt_div_of_pos_right greater positive

/-! ## One code at most -/

/-- Between two even codes lies another one. -/
theorem IsNearest.not_lt (nearest : IsNearest code number)
    (again : IsNearest other number) : ¬ code < other := by
  intro less
  have same : |magnitude other - number| = |magnitude code - number| :=
    le_antisymm (again.least code) (nearest.least other)
  have evenCode := nearest.even other (Nat.ne_of_gt less) same
  have evenOther := again.even code (Nat.ne_of_lt less) same.symm
  have between : code + 1 < other := by
    rcases evenCode with ⟨half, rfl⟩
    rcases evenOther with ⟨otherHalf, rfl⟩
    omega
  have first := magnitude_strictMono (Nat.lt_succ_self code)
  have second := magnitude_strictMono between
  have least := nearest.least (code + 1)
  rcases abs_cases (magnitude code - number) with ⟨here, _⟩ | ⟨here, _⟩ <;>
    rcases abs_cases (magnitude other - number) with ⟨there, _⟩ | ⟨there, _⟩ <;>
    rcases abs_cases (magnitude (code + 1) - number) with
      ⟨within, _⟩ | ⟨within, _⟩ <;>
    rw [here, there] at same <;>
    rw [here, within] at least <;>
    linarith

theorem IsNearest.unique (nearest : IsNearest code number)
    (again : IsNearest other number) : code = other :=
  Nat.le_antisymm (Nat.le_of_not_lt (again.not_lt nearest))
    (Nat.le_of_not_lt (nearest.not_lt again))

/-! ## Rounding -/

/-- A number of units of a size lies in front of another one by a unit, or it is
that number, or it lies behind. -/
theorem mul_cases (multiple floor denominator : Nat) :
    multiple * denominator + denominator ≤ floor * denominator ∨
      multiple = floor ∨ multiple = floor + 1 ∨
        floor * denominator + 2 * denominator ≤ multiple * denominator := by
  rcases Nat.lt_trichotomy multiple floor with less | same | greater
  · have steps := Nat.mul_le_mul_right denominator less
    rw [Nat.succ_mul] at steps
    exact Or.inl steps
  · exact Or.inr (Or.inl same)
  rcases Nat.lt_or_eq_of_le greater with further | next
  · have steps := Nat.mul_le_mul_right denominator further
    rw [Nat.succ_mul, Nat.succ_mul] at steps
    omega
  · exact Or.inr (Or.inr (Or.inl next.symm))

/-- No multiple is nearer to a number than the nearest one, and if another one
is as near, the nearest one is even. -/
theorem abs_nearest_le (numerator : Nat) {denominator : Nat}
    (positive : 0 < denominator) (multiple : Nat) :
    |((nearest numerator denominator * denominator : Nat) : ℤ) - numerator| ≤
        |((multiple * denominator : Nat) : ℤ) - numerator| ∧
      (multiple ≠ nearest numerator denominator →
        |((multiple * denominator : Nat) : ℤ) - numerator| =
          |((nearest numerator denominator * denominator : Nat) : ℤ) -
            numerator| →
        Even (nearest numerator denominator)) := by
  have split := Nat.div_add_mod' numerator denominator
  have rest := Nat.mod_lt numerator positive
  have cases := mul_cases multiple (numerator / denominator) denominator
  simp only [Int.abs_eq_natAbs, Nat.cast_le, Nat.cast_inj, Nat.even_iff]
  generalize floor_eq : numerator / denominator = floor at *
  unfold nearest
  rw [floor_eq]
  dsimp only
  split_ifs with below above
  · rcases cases with less | rfl | rfl | greater
    all_goals
      try rw [Nat.succ_mul]
      omega
  · rcases cases with less | rfl | rfl | greater
    all_goals
      rw [Nat.succ_mul]
      omega
  · rcases Nat.mod_two_eq_zero_or_one floor with even | odd
    · rw [even, Nat.add_zero]
      rcases cases with less | rfl | rfl | greater
      all_goals
        try rw [Nat.succ_mul]
        omega
    · rw [odd]
      rcases cases with less | rfl | rfl | greater
      all_goals
        rw [Nat.succ_mul]
        omega

/-- The magnitude of a code is as far from a ratio as its units say. -/
theorem abs_magnitude_sub {numerator denominator : Nat}
    (positive : 0 < denominator) (code : Nat) :
    |magnitude code - (numerator : ℚ) / denominator| =
      ((|((units code * denominator : Nat) : ℤ) -
          (numerator * 2 ^ unitPower : Nat)| : ℤ) : ℚ) /
        (denominator * 2 ^ unitPower) := by
  have some : (0 : ℚ) < denominator := Nat.cast_pos.2 positive
  have power : (0 : ℚ) < 2 ^ unitPower := by positivity
  have scaled : magnitude code - (numerator : ℚ) / denominator =
      (((units code * denominator : Nat) : ℤ) -
        (numerator * 2 ^ unitPower : Nat) : ℤ) /
          (denominator * 2 ^ unitPower) := by
    unfold magnitude
    push_cast
    generalize (2 : ℚ) ^ unitPower = unit at *
    field_simp
  rw [scaled, abs_div, abs_of_pos (mul_pos some power), Int.cast_abs]

theorem le_nearest {numerator denominator bound : Nat}
    (positive : 0 < denominator) (large : bound * denominator ≤ numerator) :
    bound ≤ nearest numerator denominator := by
  have floor : bound ≤ numerator / denominator :=
    (Nat.le_div_iff_mul_le positive).2 large
  unfold nearest
  dsimp only
  split_ifs <;> omega

/-- What a ratio is rounded to: a multiple of a power of two that is a unit of
precision of numbers as great as the ratio. -/
structure Rounds (numerator denominator shift : Nat) : Prop where
  code : roundedRatio numerator denominator = shift * exponentWeight +
    nearest (numerator * 2 ^ unitPower) (denominator * 2 ^ shift)
  most : nearest (numerator * 2 ^ unitPower) (denominator * 2 ^ shift) ≤
    2 * exponentWeight
  least : shift = 0 ∨ exponentWeight * (denominator * 2 ^ shift) ≤
    numerator * 2 ^ unitPower

theorem exists_rounds (numerator : Nat) {denominator : Nat}
    (positive : 0 < denominator) :
    ∃ shift, Rounds numerator denominator shift := by
  have weight : exponentWeight = 2 ^ 52 := Nat.one_shiftLeft 52
  refine ⟨(numerator * 2 ^ unitPower / denominator).log2 - 52, ?_, ?_, ?_⟩
  · simp only [roundedRatio, Nat.shiftLeft_eq]
  all_goals
    generalize numerator * 2 ^ unitPower = scaled
    have below : scaled < 2 ^ ((scaled / denominator).log2 + 1) * denominator :=
      (Nat.div_lt_iff_lt_mul positive).1 Nat.lt_log2_self
    generalize log_eq : (scaled / denominator).log2 = log at below
  · refine nearest_le (Nat.mul_pos positive (Nat.two_pow_pos _)) ?_
    have power : 2 ^ (log + 1) ≤ 2 * exponentWeight * 2 ^ (log - 52) := by
      rw [weight, ← Nat.pow_succ', ← Nat.pow_add]
      exact Nat.pow_le_pow_right (by decide) (by omega)
    calc
      scaled ≤ 2 ^ (log + 1) * denominator := Nat.le_of_lt below
      _ ≤ 2 * exponentWeight * 2 ^ (log - 52) * denominator :=
        Nat.mul_le_mul_right _ power
      _ = 2 * exponentWeight * (denominator * 2 ^ (log - 52)) := by ring
  · rcases Nat.lt_or_ge 52 log with large | small
    · have filled : scaled / denominator ≠ 0 := by
        intro empty
        rw [empty] at log_eq
        simp [← log_eq] at large
      have least := Nat.log2_self_le filled
      rw [log_eq, Nat.le_div_iff_mul_le positive] at least
      refine Or.inr ?_
      calc
        exponentWeight * (denominator * 2 ^ (log - 52)) =
            2 ^ (52 + (log - 52)) * denominator := by
          rw [weight, Nat.pow_add]
          ring
        _ ≤ scaled := by rwa [Nat.add_sub_cancel' (Nat.le_of_lt large)]
    · exact Or.inl (Nat.sub_eq_zero_of_le small)

namespace Rounds

variable {numerator denominator shift : Nat}

theorem units_eq (rounds : Rounds numerator denominator shift)
    (positive : 0 < denominator) :
    units (roundedRatio numerator denominator) =
      nearest (numerator * 2 ^ unitPower) (denominator * 2 ^ shift) *
        2 ^ shift := by
  rw [rounds.code]
  refine units_add rounds.most (rounds.least.imp_right fun large => ?_)
  exact le_nearest (Nat.mul_pos positive (Nat.two_pow_pos _)) large

/-- A code of a lesser scale has fewer units than the ratio. -/
theorem units_mul_lt {other : Nat} (positive : 0 < denominator)
    (finer : scale other < shift) :
    units other * denominator < exponentWeight * (denominator * 2 ^ shift) := by
  have power : 2 * 2 ^ scale other ≤ 2 ^ shift := by
    rw [← Nat.pow_succ']
    exact Nat.pow_le_pow_right (by decide) finer
  have small : units other < exponentWeight * 2 ^ shift := by
    calc
      units other = significand other * 2 ^ scale other := Fraction.units_eq other
      _ < 2 * exponentWeight * 2 ^ scale other :=
        Nat.mul_lt_mul_of_pos_right (significand_lt other) (Nat.two_pow_pos _)
      _ = exponentWeight * (2 * 2 ^ scale other) := by ring
      _ ≤ exponentWeight * 2 ^ shift := Nat.mul_le_mul_left _ power
  calc
    units other * denominator < exponentWeight * 2 ^ shift * denominator :=
      Nat.mul_lt_mul_of_pos_right small positive
    _ = exponentWeight * (denominator * 2 ^ shift) := by ring

/-- No code is nearer in units, and only an even one has another one beside it
that is as near. -/
theorem abs_le (rounds : Rounds numerator denominator shift)
    (positive : 0 < denominator) (other : Nat) :
    |((units (roundedRatio numerator denominator) * denominator : Nat) : ℤ) -
          (numerator * 2 ^ unitPower : Nat)| ≤
        |((units other * denominator : Nat) : ℤ) -
          (numerator * 2 ^ unitPower : Nat)| ∧
      (other ≠ roundedRatio numerator denominator →
        |((units other * denominator : Nat) : ℤ) -
            (numerator * 2 ^ unitPower : Nat)| =
          |((units (roundedRatio numerator denominator) *
            denominator : Nat) : ℤ) - (numerator * 2 ^ unitPower : Nat)| →
        Even (roundedRatio numerator denominator)) := by
  have size : 0 < denominator * 2 ^ shift :=
    Nat.mul_pos positive (Nat.two_pow_pos shift)
  have spread (multiple : Nat) : multiple * 2 ^ shift * denominator =
      multiple * (denominator * 2 ^ shift) := by ring
  rw [rounds.units_eq positive, spread]
  rcases Nat.lt_or_ge (scale other) shift with finer | coarser
  · -- The units of a finer code end where those of this scale begin.
    have large := rounds.least.resolve_left (by omega)
    have small := units_mul_lt positive finer
    have near := (abs_nearest_le (numerator * 2 ^ unitPower) size
      exponentWeight).1
    simp only [Int.abs_eq_natAbs] at near ⊢
    constructor
    · omega
    · intro _ same
      omega
  · have units_other : units other =
        significand other * 2 ^ (scale other - shift) * 2 ^ shift := by
      rw [Fraction.units_eq, Nat.mul_assoc, ← Nat.pow_add,
        Nat.sub_add_cancel coarser]
    have near := abs_nearest_le (numerator * 2 ^ unitPower) size
      (significand other * 2 ^ (scale other - shift))
    rw [units_other, spread]
    refine ⟨near.1, fun apart same => ?_⟩
    rw [rounds.code]
    refine (even_exponentWeight.mul_left shift).add (near.2 (fun equal => ?_) same)
    rw [equal, ← rounds.units_eq positive] at units_other
    exact apart (units_strictMono.injective units_other)

end Rounds

/-- A ratio is rounded to the code of the magnitude nearest to it. -/
theorem isNearest_roundedRatio (numerator : Nat) {denominator : Nat}
    (positive : 0 < denominator) :
    IsNearest (roundedRatio numerator denominator)
      ((numerator : ℚ) / denominator) := by
  rcases exists_rounds numerator positive with ⟨shift, rounds⟩
  have size : (0 : ℚ) < denominator * 2 ^ unitPower :=
    mul_pos (Nat.cast_pos.2 positive) (by positivity)
  refine ⟨fun other => ?_, fun other apart same => ?_⟩
  · rw [abs_magnitude_sub positive, abs_magnitude_sub positive,
      div_le_div_iff_of_pos_right size, Int.cast_le]
    exact (rounds.abs_le positive other).1
  · rw [abs_magnitude_sub positive, abs_magnitude_sub positive,
      div_left_inj' (ne_of_gt size), Int.cast_inj] at same
    exact (rounds.abs_le positive other).2 apart same

/-! ## Below one -/

theorem magnitude_oneCode : magnitude oneCode = 1 := by
  have code : oneCode = 1022 * exponentWeight + exponentWeight := by decide
  have weight : exponentWeight = 2 ^ 52 := Nat.one_shiftLeft 52
  have power : unitPower = 52 + 1022 := rfl
  have units_one : units oneCode = 2 ^ unitPower := by
    rw [code, units_add (Nat.le_mul_of_pos_left _ (by decide))
      (Or.inr (Nat.le_refl _)), power, Nat.pow_add, weight]
  rw [magnitude, units_one, Nat.cast_pow, Nat.cast_ofNat]
  exact div_self (by positivity)

/-- The last magnitude below one is one unit of precision below it. -/
theorem magnitude_last : magnitude (oneCode - 1) = 1 - 1 / 2 ^ 53 := by
  have code : oneCode - 1 =
      1021 * exponentWeight + (2 * exponentWeight - 1) := by decide
  have power : unitPower = 53 + 1021 := rfl
  have most : 2 * exponentWeight - 1 = 2 ^ 53 - 1 := by decide
  have units_last : units (oneCode - 1) = (2 ^ 53 - 1) * 2 ^ 1021 := by
    rw [code, units_add (Nat.sub_le _ _) (Or.inr (by decide)), most]
  rw [magnitude, units_last, power, pow_add, Nat.cast_mul, Nat.cast_pow,
    Nat.cast_ofNat, mul_div_mul_right _ _ (by positivity)]
  norm_num

/-- A number whose nearest magnitude is below one is not as near to one. -/
theorem IsNearest.lt_of_lt_oneCode (nearest : IsNearest code number)
    (below : code < oneCode) : number < 1 - 1 / 2 ^ 54 := by
  have odd : ¬ Even (oneCode - 1) := by decide
  by_contra large
  have most : magnitude code ≤ magnitude (oneCode - 1) :=
    magnitude_strictMono.monotone (Nat.le_sub_one_of_lt below)
  have least := nearest.least oneCode
  rw [magnitude_last] at most
  norm_num at most large
  have before : |magnitude code - number| = number - magnitude code := by
    rw [abs_of_nonpos (by linarith), neg_sub]
  have inside : number ≤ 1 := by
    by_contra beyond
    rw [before, magnitude_oneCode, abs_of_nonpos (by linarith)] at least
    linarith
  have behind : |magnitude oneCode - number| = 1 - number := by
    rw [magnitude_oneCode, abs_of_nonneg (sub_nonneg.2 inside)]
  rw [before, behind] at least
  -- Only the number in the middle is left, and that goes to the even code.
  have same : magnitude code = magnitude (oneCode - 1) := by
    rw [magnitude_last]
    norm_num
    linarith
  have last := magnitude_strictMono.injective same
  have even := nearest.even oneCode (by omega) (by rw [before, behind]; linarith)
  rw [last] at even
  exact odd even

theorem IsNearest.lt_oneCode (nearest : IsNearest code number)
    (small : number < 1 - 1 / 2 ^ 54) : code < oneCode := by
  by_contra above
  have enough : magnitude oneCode ≤ magnitude code :=
    magnitude_strictMono.monotone (Nat.le_of_not_lt above)
  have least := nearest.least (oneCode - 1)
  rw [magnitude_oneCode] at enough
  rw [magnitude_last] at least
  rcases abs_cases (magnitude code - number) with ⟨here, _⟩ | ⟨here, _⟩ <;>
    rcases abs_cases (1 - 1 / 2 ^ 53 - number) with
      ⟨there, _⟩ | ⟨there, _⟩ <;>
    rw [here, there] at least <;>
    norm_num at * <;>
    linarith

/-- The numbers that are read as less than one. -/
theorem IsNearest.lt_oneCode_iff (nearest : IsNearest code number) :
    code < oneCode ↔ number < 1 - 1 / 2 ^ 54 :=
  ⟨nearest.lt_of_lt_oneCode, nearest.lt_oneCode⟩

/-! ## Fractions -/

section

variable {negative : Bool} {numerator denominator : Nat} {fraction : Fraction}

/-- The fraction of a ratio has the sign it is given and the nearest magnitude. -/
theorem ofRatio?_eq_some_iff (positive : 0 < denominator) :
    ofRatio? negative numerator denominator = some fraction ↔
      fraction.negative = negative ∧
        IsNearest fraction.code ((numerator : ℚ) / denominator) := by
  have rounds := isNearest_roundedRatio numerator positive
  rcases fraction with ⟨sign, code, code_lt⟩
  unfold ofRatio?
  constructor
  · intro found
    split at found
    · rcases Option.some.inj found with ⟨rfl, rfl⟩
      exact ⟨rfl, rounds⟩
    · cases found
  · rintro ⟨rfl, nearest⟩
    rcases nearest.unique rounds with rfl
    exact dif_pos code_lt

/-- A ratio has no fraction if it is nearer to one than to any magnitude below,
or is as near. -/
theorem ofRatio?_eq_none_iff (positive : 0 < denominator) :
    ofRatio? negative numerator denominator = none ↔
      1 - 1 / 2 ^ 54 ≤ (numerator : ℚ) / denominator := by
  rw [← not_lt, ← (isNearest_roundedRatio numerator positive).lt_oneCode_iff]
  unfold ofRatio?
  split <;> simp_all

end

end Whirlwind.Fraction
