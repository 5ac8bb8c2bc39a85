import Whirlwind.Proofs.Eval.Exact
import Whirlwind.Proofs.Fraction.Nearest

/-!
# Dots

A dot is read in one of three ways.  Between a zero or one and five characters
it joins the octal digits of a word, behind a signed zero or one it is the point
of a fraction, and else it joins names.  The first two readings are for a dot
that stands alone: in a longer chain the digits are names like any others, and
however the chain is nested its name is that of its leaves in order
(`Expr.evaluate_dot_iff`).
-/

namespace Whirlwind.Expr

/-- What dots join, from left to right, whatever the nesting. -/
def leaves : Expr → List Expr
  | .binary .dot left right => left.leaves ++ right.leaves
  | leaf => [leaf]

/-- The text of a name or a digit string, which dots can join. -/
def nameText? : Expr → Option String
  | .identifier name => some name
  | .digits text => some text
  | _ => none

/-- The texts of the leaves, joined by dots. -/
def dottedName (tree : Expr) : String :=
  ".".intercalate (tree.leaves.filterMap nameText?)

/-- A zero or one in front of a dot, and five characters behind it. -/
structure WritesWord (left right : Expr) (high low : String) : Prop where
  high_eq : left = .digits high
  low_eq : right = .digits low
  bit : high = "0" ∨ high = "1"
  five : low.length = 5

/-- A zero or one with a sign in front of a dot, and a digit string behind. -/
structure WritesFraction (left right : Expr) (sign : UnaryOp)
    (whole digits : String) : Prop where
  whole_eq : left = .unary sign (.digits whole)
  digits_eq : right = .digits digits
  signed : sign = .plus ∨ sign = .minus
  bit : whole = "0" ∨ whole = "1"

/-- The number that digits with a point in them write. -/
def decimalValue (whole digits : String) : ℚ :=
  Integer.valueOf 10 (whole.toList ++ digits.toList) / 10 ^ digits.length

/-- What a signed number with a point is read as: the nearest fraction, unless
that is none but one itself. -/
inductive ReadsFraction (sign : UnaryOp) (whole digits : String) :
    Except EvalError Value → Prop
  | nearest {fraction : Fraction}
      (decimal : ∀ digit ∈ digits.toList, digit.isDigit = true)
      (small : decimalValue whole digits < 1 - 1 / 2 ^ 54)
      (signed : fraction.negative = decide (sign = .minus))
      (near : Fraction.IsNearest fraction.code
        (decimalValue whole digits)) :
      ReadsFraction sign whole digits (.ok (.fraction fraction))
  | tooLarge (decimal : ∀ digit ∈ digits.toList, digit.isDigit = true)
      (large : 1 - 1 / 2 ^ 54 ≤ decimalValue whole digits) :
      ReadsFraction sign whole digits
        (.error (.fractionTooLarge (whole ++ "." ++ digits)))
  | improper (mixed : ¬∀ digit ∈ digits.toList, digit.isDigit = true) :
      ReadsFraction sign whole digits
        (.error (.improperNumber (whole ++ "." ++ digits)))

/-- What a dot between two expressions is read as. -/
inductive ReadsDot (left right : Expr) : Except EvalError Value → Prop
  | word {high low : String} {number : Int64}
      (writes : WritesWord left right high low)
      (octal : Integer.IsNumeral 8 (high.toList ++ low.toList))
      (exact : number.toInt =
        Integer.valueOf 8 (high.toList ++ low.toList)) :
      ReadsDot left right (.ok (.plain number))
  | noOctal {high low : String} (writes : WritesWord left right high low)
      (mixed : ¬Integer.IsNumeral 8 (high.toList ++ low.toList)) :
      ReadsDot left right (.error (.badDigit (high ++ low) 8))
  | fraction {sign : UnaryOp} {whole digits : String}
      {result : Except EvalError Value}
      (writes : WritesFraction left right sign whole digits)
      (reads : ReadsFraction sign whole digits result) :
      ReadsDot left right result
  | name (noWord : ∀ high low, ¬WritesWord left right high low)
      (named : ∀ leaf ∈ (binary .dot left right).leaves,
        leaf.nameText? ≠ none) :
      ReadsDot left right (.ok (.string (binary .dot left right).dottedName))
  | noName {leaf : Expr}
      (noFraction : ∀ sign whole digits,
        ¬WritesFraction left right sign whole digits)
      (member : leaf ∈ (binary .dot left right).leaves)
      (other : leaf.nameText? = none) :
      ReadsDot left right
        (.error (.badQualifiedName (listing (.binary .dot left right))))

/-! ## Names -/

@[simp]
theorem leaves_ne_nil (tree : Expr) : tree.leaves ≠ [] := by
  fun_induction leaves tree with
  | case1 left right ihLeft ihRight => simp [ihLeft]
  | case2 leaf => simp

@[simp]
theorem leaves_dot (left right : Expr) :
    (binary .dot left right).leaves = left.leaves ++ right.leaves :=
  rfl

/-- The names of two trees, each of which has a leaf, are joined by a dot. -/
theorem dottedName_dot {left right : Expr}
    (namedLeft : ∀ leaf ∈ left.leaves, leaf.nameText? ≠ none)
    (namedRight : ∀ leaf ∈ right.leaves, leaf.nameText? ≠ none) :
    (binary .dot left right).dottedName =
      left.dottedName ++ "." ++ right.dottedName := by
  have filled : ∀ tree : Expr,
      (∀ leaf ∈ tree.leaves, leaf.nameText? ≠ none) →
        tree.leaves.filterMap nameText? ≠ [] := by
    intro tree named empty
    rcases List.exists_mem_of_ne_nil _ tree.leaves_ne_nil with ⟨leaf, member⟩
    exact named leaf member (List.filterMap_eq_nil_iff.1 empty leaf member)
  rw [dottedName, leaves_dot, List.filterMap_append,
    String.intercalate_append_of_ne_nil (filled left namedLeft)
      (filled right namedRight)]
  rfl

/-- A tree whose leaves are all names and digit strings has a name. -/
theorem qualifiedName?_of_named {tree : Expr}
    (named : ∀ leaf ∈ tree.leaves, leaf.nameText? ≠ none) :
    Eval.qualifiedName? tree = some tree.dottedName := by
  fun_induction Eval.qualifiedName? tree with
  | case1 name => simp [dottedName, leaves, nameText?]
  | case2 text => simp [dottedName, leaves, nameText?]
  | case3 left right ihLeft ihRight =>
      rw [leaves_dot, List.forall_mem_append] at named
      rw [ihLeft named.1, ihRight named.2, dottedName_dot named.1 named.2]
      rfl
  | case4 tree noName noDigits noDot =>
      have alone : tree.leaves = [tree] := by rw [leaves]; exact noDot
      have other : tree.nameText? = none := by
        unfold nameText?
        split
        · exact absurd rfl (noName _)
        · exact absurd rfl (noDigits _)
        · rfl
      rw [alone] at named
      exact absurd other (named tree List.mem_cons_self)

/-- A tree with another leaf has no name. -/
theorem qualifiedName?_of_other {tree leaf : Expr}
    (member : leaf ∈ tree.leaves) (other : leaf.nameText? = none) :
    Eval.qualifiedName? tree = none := by
  fun_induction Eval.qualifiedName? tree with
  | case1 name =>
      rw [List.mem_singleton.1 member] at other
      cases other
  | case2 text =>
      rw [List.mem_singleton.1 member] at other
      cases other
  | case3 left right ihLeft ihRight =>
      rcases List.mem_append.1 member with inLeft | inRight
      · rw [ihLeft inLeft]
        rfl
      · rw [ihRight inRight]
        cases Eval.qualifiedName? left <;> rfl
  | case4 tree noName noDigits noDot => rfl

/-! ## The three readings -/

variable {left right : Expr} {result : Except EvalError Value}

@[simp]
theorem isZeroOrOne_iff {digits : String} :
    Eval.isZeroOrOne digits = true ↔ digits = "0" ∨ digits = "1" := by
  simp [Eval.isZeroOrOne]

theorem WritesWord.dotted_eq {high low : String}
    (writes : WritesWord left right high low) :
    Eval.dotted left right =
      .plain <$> Eval.digitsIn 8 (high.toList ++ low.toList) := by
  rcases writes with ⟨rfl, rfl, bit, five⟩
  have writesWord : (Eval.isZeroOrOne high && low.length = 5) = true := by
    rw [isZeroOrOne_iff.2 bit, five]
    rfl
  exact if_pos writesWord

theorem WritesFraction.dotted_eq {sign : UnaryOp} {whole digits : String}
    (writes : WritesFraction left right sign whole digits) :
    Eval.dotted left right = Eval.fraction (sign = .minus) whole digits := by
  rcases writes with ⟨rfl, rfl, rfl | rfl, bit⟩
  · exact if_pos (isZeroOrOne_iff.2 bit)
  · exact if_pos (isZeroOrOne_iff.2 bit)

theorem dotted_eq_qualified
    (noWord : ∀ high low, ¬WritesWord left right high low)
    (noFraction : ∀ sign whole digits,
      ¬WritesFraction left right sign whole digits) :
    Eval.dotted left right = Eval.qualified left right := by
  unfold Eval.dotted
  split
  · next whole digits =>
    refine if_neg fun bit => ?_
    exact noFraction .plus whole digits
      ⟨rfl, rfl, Or.inl rfl, isZeroOrOne_iff.1 bit⟩
  · next whole digits =>
    refine if_neg fun bit => ?_
    exact noFraction .minus whole digits
      ⟨rfl, rfl, Or.inr rfl, isZeroOrOne_iff.1 bit⟩
  · next high low =>
    refine if_neg fun both => ?_
    rw [Bool.and_eq_true, decide_eq_true_eq] at both
    exact noWord high low ⟨rfl, rfl, isZeroOrOne_iff.1 both.1, both.2⟩
  · rfl

/-- A decimal is the ratio of its digits to a power of ten. -/
theorem decimalValue_eq (whole digits : String) :
    decimalValue whole digits =
      (Integer.valueOf 10 (whole.toList ++ digits.toList) : ℚ) /
        (10 ^ digits.length : Nat) := by
  rw [decimalValue, Nat.cast_pow, Nat.cast_ofNat]

theorem fraction_of_decimal {digits : String} (negative : Bool) (whole : String)
    (decimal : ∀ digit ∈ digits.toList, digit.isDigit = true) :
    Eval.fraction negative whole digits =
      match Fraction.ofRatio? negative
        (Integer.valueOf 10 (whole.toList ++ digits.toList))
        (10 ^ digits.length) with
      | some number => .ok (.fraction number)
      | none => .error (.fractionTooLarge (whole ++ "." ++ digits)) := by
  have power : Nat.pow 10 digits.length = 10 ^ digits.length := rfl
  cases found : Fraction.ofRatio? negative
      (Integer.valueOf 10 (whole.toList ++ digits.toList))
      (10 ^ digits.length) <;>
    simp only [Eval.fraction, if_pos (List.all_eq_true.2 decimal),
      Integer.numeralFrom_zero, power, found]

theorem ReadsFraction.fraction_eq {sign : UnaryOp} {whole digits : String}
    (reads : ReadsFraction sign whole digits result) :
    Eval.fraction (sign = .minus) whole digits = result := by
  have power : 0 < 10 ^ digits.length := Nat.pow_pos (by decide)
  cases reads with
  | nearest decimal small signed near =>
      rw [decimalValue_eq] at near
      rw [fraction_of_decimal _ _ decimal,
        (Fraction.ofRatio?_eq_some_iff power).2 ⟨signed, near⟩]
  | tooLarge decimal large =>
      rw [decimalValue_eq] at large
      rw [fraction_of_decimal _ _ decimal,
        (Fraction.ofRatio?_eq_none_iff power).2 large]
  | improper mixed =>
      exact if_neg fun decimal => mixed (List.all_eq_true.1 decimal)

theorem exists_readsFraction (sign : UnaryOp) (whole digits : String) :
    ∃ result, ReadsFraction sign whole digits result := by
  have power : 0 < 10 ^ digits.length := Nat.pow_pos (by decide)
  by_cases decimal : ∀ digit ∈ digits.toList, digit.isDigit = true
  · rcases lt_or_ge (decimalValue whole digits) (1 - 1 / 2 ^ 54) with
      small | large
    · have near := Fraction.isNearest_roundedRatio
        (Integer.valueOf 10 (whole.toList ++ digits.toList)) power
      rw [← decimalValue_eq] at near
      let fraction : Fraction :=
        ⟨decide (sign = .minus), _, near.lt_oneCode_iff.2 small⟩
      have signed : fraction.negative = decide (sign = .minus) := rfl
      exact ⟨_, .nearest decimal small signed near⟩
    · exact ⟨_, .tooLarge decimal large⟩
  · exact ⟨_, .improper decimal⟩

/-- A sign in front of digits is no name. -/
theorem WritesFraction.exists_other {sign : UnaryOp} {whole digits : String}
    (writes : WritesFraction left right sign whole digits) :
    ∃ leaf ∈ (binary .dot left right).leaves, leaf.nameText? = none := by
  rcases writes with ⟨rfl, _, _, _⟩
  exact ⟨_, List.mem_cons_self, rfl⟩

theorem WritesWord.named {high low : String}
    (writes : WritesWord left right high low) :
    ∀ leaf ∈ (binary .dot left right).leaves, leaf.nameText? ≠ none := by
  rcases writes with ⟨rfl, rfl, _, _⟩
  simp [leaves, nameText?]

/-- A name that a dot makes can stand for no fraction. -/
theorem not_writesFraction_of_named
    (named : ∀ leaf ∈ (binary .dot left right).leaves, leaf.nameText? ≠ none)
    (sign : UnaryOp) (whole digits : String) :
    ¬WritesFraction left right sign whole digits := by
  intro writes
  rcases writes.exists_other with ⟨leaf, member, other⟩
  exact named leaf member other

/-- The digits of a word fit an integer. -/
theorem WritesWord.exists_value {high low : String}
    (writes : WritesWord left right high low)
    (octal : Integer.IsNumeral 8 (high.toList ++ low.toList)) :
    ∃ number : Int64,
      number.toInt = Integer.valueOf 8 (high.toList ++ low.toList) := by
  have single : high.length = 1 := by
    rcases writes.bit with rfl | rfl <;> rfl
  have six : (high.toList ++ low.toList).length = 6 := by
    rw [List.length_append, String.length_toList, String.length_toList, single,
      writes.five]
  have below := Integer.valueOf_lt (by decide) octal
  rw [six] at below
  have range : Integer.InRange
      (Integer.valueOf 8 (high.toList ++ low.toList)) := by
    constructor <;> simp only [Integer.least, Integer.greatest] <;> omega
  exact ⟨_, Integer.toInt_of_ofInt? (if_pos range)⟩

theorem ReadsDot.dotted_eq (reads : ReadsDot left right result) :
    Eval.dotted left right = result := by
  cases reads with
  | word writes octal exact =>
      rw [writes.dotted_eq, Eval.digitsIn_eq, if_pos octal, ← exact,
        Eval.inRange, Integer.ofInt?_toInt]
      rfl
  | noOctal writes mixed =>
      rw [writes.dotted_eq, Eval.digitsIn_eq, if_neg mixed,
        String.ofList_append, String.ofList_toList, String.ofList_toList]
      rfl
  | fraction writes reads => rw [writes.dotted_eq, reads.fraction_eq]
  | name noWord named =>
      rw [dotted_eq_qualified noWord (not_writesFraction_of_named named),
        Eval.qualified, qualifiedName?_of_named named]
  | noName noFraction member other =>
      have noWord : ∀ high low, ¬WritesWord left right high low :=
        fun high low writes => writes.named _ member other
      rw [dotted_eq_qualified noWord noFraction, Eval.qualified,
        qualifiedName?_of_other member other]

theorem exists_readsDot (left right : Expr) :
    ∃ result, ReadsDot left right result := by
  by_cases named : ∀ leaf ∈ (binary .dot left right).leaves,
      leaf.nameText? ≠ none
  · by_cases word : ∃ high low, WritesWord left right high low
    · rcases word with ⟨high, low, writes⟩
      by_cases octal : Integer.IsNumeral 8 (high.toList ++ low.toList)
      · rcases writes.exists_value octal with ⟨number, exact⟩
        exact ⟨_, .word writes octal exact⟩
      · exact ⟨_, .noOctal writes octal⟩
    · exact ⟨_, .name (fun high low writes => word ⟨high, low, writes⟩) named⟩
  · by_cases point : ∃ sign whole digits,
        WritesFraction left right sign whole digits
    · rcases point with ⟨sign, whole, digits, writes⟩
      rcases exists_readsFraction sign whole digits with ⟨result, reads⟩
      exact ⟨_, .fraction writes reads⟩
    · push Not at named
      rcases named with ⟨leaf, member, other⟩
      exact ⟨_, .noName (fun sign whole digits writes =>
        point ⟨sign, whole, digits, writes⟩) member other⟩

/--
A dot has the value that it is read as, and that one only.  What the names in it
stand for does not matter.
-/
theorem evaluate_dot_iff (environment : Environment) (left right : Expr)
    (result : Except EvalError Value) :
    (binary .dot left right).evaluate environment = result ↔
      ReadsDot left right result := by
  have value : (binary .dot left right).evaluate environment =
      Eval.dotted left right := by rw [evaluate]
  rw [value]
  constructor
  · rintro rfl
    rcases exists_readsDot left right with ⟨result, reads⟩
    exact reads.dotted_eq ▸ reads
  · exact ReadsDot.dotted_eq

/-- A quarter with a sign, a number that only one itself is near enough to, and
the digits of a word in a longer chain. -/
theorem evaluate_dot_iff_readings :
    let fraction : Fraction := ⟨true, 1021 * Fraction.exponentWeight, by decide⟩
    ReadsDot (unary .minus (digits "0")) (digits "25")
        (.ok (.fraction fraction)) ∧
      (binary .dot (unary .minus (digits "0")) (digits "25")).evaluate
        {symbols := {}} = .ok (.fraction fraction) ∧
      (binary .dot (unary .plus (digits "0"))
        (digits "99999999999999999")).evaluate {symbols := {}} =
          .error (.fractionTooLarge "0.99999999999999999") ∧
      (binary .dot (binary .dot (digits "1") (digits "77777"))
        (identifier "a")).evaluate {symbols := {}} =
          .ok (.string "1.77777.a") := by
  intro fraction
  have quarter : Fraction.ofRatio? true 25 (10 ^ 2) = some fraction := by
    decide +kernel
  have near := ((Fraction.ofRatio?_eq_some_iff (by decide)).1 quarter).2
  have numerator : Integer.valueOf 10 ("0".toList ++ "25".toList) = 25 := by
    decide
  have value : decimalValue "0" "25" = ((25 : Nat) : ℚ) / (10 ^ 2 : Nat) := by
    rw [decimalValue_eq, numerator]
    rfl
  have nines : Integer.valueOf 10
      ("0".toList ++ "99999999999999999".toList) = 99999999999999999 := by
    decide
  have almost : decimalValue "0" "99999999999999999" =
      ((99999999999999999 : Nat) : ℚ) / (10 ^ 17 : Nat) := by
    rw [decimalValue_eq, nines]
    rfl
  have reads : ReadsDot (unary .minus (digits "0")) (digits "25")
      (.ok (.fraction fraction)) := by
    refine .fraction ⟨rfl, rfl, Or.inr rfl, Or.inl rfl⟩
      (.nearest (List.all_eq_true.1 rfl) ?_ rfl ?_)
    · rw [value]
      norm_num
    · rw [value]
      exact near
  refine ⟨reads, (evaluate_dot_iff _ _ _ _).2 reads,
    (evaluate_dot_iff _ _ _ _).2 ?_, (evaluate_dot_iff _ _ _ _).2 ?_⟩
  · refine .fraction ⟨rfl, rfl, Or.inl rfl, Or.inl rfl⟩
      (.tooLarge (List.all_eq_true.1 rfl) ?_)
    rw [almost]
    norm_num
  · refine .name (fun high low writes => ?_) (by decide)
    cases writes.high_eq

end Whirlwind.Expr
