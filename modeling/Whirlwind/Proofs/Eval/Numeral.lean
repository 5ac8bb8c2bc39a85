import Whirlwind.Proofs.Eval.Exact

/-!
# Numerals

A digit string can have a sign and a radix mark in front of its digits.  Every
text can be cut into these three parts, and in one way only if there is a mark
or the digits are those of the radix (`Numeral.IsReadable.ofText_text`).  The
parts decide what the text is decoded as (`Decodes`): an integer or negative
zero, and an error of one of three kinds for every other text.
-/

namespace Whirlwind

/-- The sign in front of a numeral. -/
inductive Sign where
  | none
  | plus
  | minus
  deriving DecidableEq, Repr

namespace Sign

/-- The way a sign is written. -/
def characters : Sign → List Char
  | .none => []
  | .plus => ['+']
  | .minus => ['-']

/-- The number of a magnitude behind a sign. -/
def signed : Sign → Nat → Int
  | .minus, magnitude => -magnitude
  | .none, magnitude | .plus, magnitude => magnitude

/-- The value of a magnitude behind a sign. -/
def onMagnitude : Sign → Int64 → Value
  | .minus, size => if size = 0 then .negativeZero else .plain (-size)
  | .none, size | .plus, size => .plain size

end Sign

/-- The radix of a numeral. -/
inductive Radix where
  | decimal
  | octal
  | hexadecimal
  deriving DecidableEq, Repr

namespace Radix

/-- The base of a radix. -/
def base : Radix → Nat
  | .decimal => 10
  | .octal => 8
  | .hexadecimal => 16

/-- The mark of a radix, which decimal numerals do without. -/
def mark : Radix → List Char
  | .decimal => []
  | .octal => ['0', 'o']
  | .hexadecimal => ['0', 'x']

end Radix

/-- A sign, a radix mark and what stands behind them. -/
structure Numeral where
  sign : Sign
  radix : Radix
  digits : List Char
  deriving DecidableEq, Repr

namespace Numeral

/-- A numeral as it is written. -/
def text (numeral : Numeral) : String :=
  String.ofList
    (numeral.sign.characters ++ (numeral.radix.mark ++ numeral.digits))

/-- The digits of a numeral are those of its radix, and there are some. -/
def IsProper (numeral : Numeral) : Prop :=
  Integer.IsNumeral numeral.radix.base numeral.digits

instance (numeral : Numeral) : Decidable numeral.IsProper :=
  inferInstanceAs (Decidable (Integer.IsNumeral _ _))

/-- A numeral can be told from other texts: it has a radix mark, or else it is
proper. -/
def IsReadable (numeral : Numeral) : Prop :=
  numeral.radix ≠ .decimal ∨ numeral.IsProper

instance (numeral : Numeral) : Decidable numeral.IsReadable :=
  inferInstanceAs (Decidable (_ ∨ _))

/-- The number that the digits of a numeral stand for. -/
def magnitude (numeral : Numeral) : Nat :=
  Integer.valueOf numeral.radix.base numeral.digits

/-- The value that a numeral stands for. -/
inductive Tells (numeral : Numeral) : Value → Prop where
  | negativeZero (minus : numeral.sign = .minus)
      (zero : numeral.magnitude = 0) : Tells numeral .negativeZero
  | integer {number : Int64}
      (visible : numeral.sign = .minus → numeral.magnitude ≠ 0)
      (exact : number.toInt = numeral.sign.signed numeral.magnitude) :
      Tells numeral (.plain number)

end Numeral

/-- What the text of a digit string is decoded as. -/
inductive Decodes : String → Except EvalError Value → Prop where
  | value {numeral : Numeral} {value : Value} (proper : numeral.IsProper)
      (small : numeral.magnitude ≤ Integer.greatest)
      (tells : numeral.Tells value) : Decodes numeral.text (.ok value)
  | overflow {numeral : Numeral} (proper : numeral.IsProper)
      (large : Integer.greatest < numeral.magnitude) :
      Decodes numeral.text (.error .overflow)
  /-- Nothing stands behind a radix mark, or something else than digits. -/
  | badDigit {numeral : Numeral} (marked : numeral.radix ≠ .decimal)
      (mixed : ¬numeral.IsProper) :
      Decodes numeral.text
        (.error (.badDigit (String.ofList numeral.digits) numeral.radix.base))
  /-- A text that is no numeral and has no radix mark behind a sign. -/
  | improper {raw : String}
      (other : ∀ numeral : Numeral, numeral.text = raw →
        ¬numeral.IsReadable) :
      Decodes raw (.error (.improperNumber raw))

namespace Eval

theorem inRange_toInt (value : Int64) : inRange value.toInt = .ok value := by
  rw [inRange, Integer.ofInt?_toInt]

theorem toInt_of_digitsIn {base : Nat} {digits : List Char} {value : Int64}
    (run : digitsIn base digits = .ok value) :
    value.toInt = Integer.valueOf base digits := by
  rw [digitsIn_eq] at run
  split at run
  · cases computes_inRange (Integer.valueOf base digits) with
    | exact found exact =>
        rcases Except.ok.inj (found.symm.trans run) with rfl
        exact exact
    | fails found => cases found.symm.trans run
  · cases run

end Eval

namespace Numeral

variable {numeral : Numeral} {raw : String}

theorem IsProper.isReadable (proper : numeral.IsProper) :
    numeral.IsReadable :=
  Or.inr proper

theorem isReadable_of_marked (marked : numeral.radix ≠ .decimal) :
    numeral.IsReadable :=
  Or.inl marked

/-! ## The parts of a text -/

/-- The numeral with a sign and the text behind it. -/
def ofUnsigned (sign : Sign) : List Char → Numeral
  | '0' :: 'o' :: digits => ⟨sign, .octal, digits⟩
  | '0' :: 'x' :: digits => ⟨sign, .hexadecimal, digits⟩
  | digits => ⟨sign, .decimal, digits⟩

/-- The numeral that a text is cut into. -/
def ofText (raw : String) : Numeral :=
  match raw.toList with
  | '-' :: unsigned => ofUnsigned .minus unsigned
  | '+' :: unsigned => ofUnsigned .plus unsigned
  | unsigned => ofUnsigned .none unsigned

theorem ofUnsigned_of_unmarked (sign : Sign) {unsigned : List Char}
    (noOctal : ∀ digits, unsigned ≠ '0' :: 'o' :: digits)
    (noHexadecimal : ∀ digits, unsigned ≠ '0' :: 'x' :: digits) :
    ofUnsigned sign unsigned = ⟨sign, .decimal, unsigned⟩ := by
  unfold ofUnsigned
  split
  · next digits => exact absurd rfl (noOctal digits)
  · next digits => exact absurd rfl (noHexadecimal digits)
  · rfl

theorem ofText_of_signed (sign : Sign) {unsigned : List Char}
    (signed : sign ≠ .none)
    (cut : raw.toList = sign.characters ++ unsigned) :
    ofText raw = ofUnsigned sign unsigned := by
  unfold ofText
  rw [cut]
  cases sign with
  | none => exact absurd rfl signed
  | plus | minus => rfl

theorem ofText_of_unsigned
    (noMinus : ∀ unsigned, raw.toList ≠ '-' :: unsigned)
    (noPlus : ∀ unsigned, raw.toList ≠ '+' :: unsigned) :
    ofText raw = ofUnsigned .none raw.toList := by
  unfold ofText
  split
  · next unsigned same => exact absurd same (noMinus unsigned)
  · next unsigned same => exact absurd same (noPlus unsigned)
  · rfl

@[simp]
theorem sign_ofUnsigned (sign : Sign) (unsigned : List Char) :
    (ofUnsigned sign unsigned).sign = sign := by
  fun_cases ofUnsigned sign unsigned <;> rfl

theorem text_ofUnsigned (sign : Sign) (unsigned : List Char) :
    (ofUnsigned sign unsigned).text =
      String.ofList (sign.characters ++ unsigned) := by
  fun_cases ofUnsigned sign unsigned <;> rfl

@[simp]
theorem text_ofText (raw : String) : (ofText raw).text = raw := by
  fun_cases ofText raw with
  | case1 unsigned characters | case2 unsigned characters =>
      rw [text_ofUnsigned, Sign.characters, List.singleton_append,
        ← characters, String.ofList_toList]
  | case3 =>
      rw [text_ofUnsigned, Sign.characters, List.nil_append,
        String.ofList_toList]

/-- A numeral starts with a digit behind its sign. -/
theorem IsReadable.exists_digit (readable : numeral.IsReadable) :
    ∃ first rest, numeral.radix.mark ++ numeral.digits = first :: rest ∧
      first.isDigit = true := by
  rcases numeral with ⟨sign, radix, digits⟩
  cases radix with
  | octal | hexadecimal => exact ⟨'0', _, rfl, rfl⟩
  | decimal =>
      rcases readable.resolve_left (absurd rfl) with ⟨visible, proper⟩
      rcases List.exists_cons_of_ne_nil visible with ⟨first, rest, rfl⟩
      have digit := proper first List.mem_cons_self
      rw [Radix.base, Integer.isDigitOf_ten] at digit
      exact ⟨first, rest, rfl, digit⟩

theorem IsReadable.ofUnsigned_eq (readable : numeral.IsReadable) :
    ofUnsigned numeral.sign (numeral.radix.mark ++ numeral.digits) =
      numeral := by
  rcases numeral with ⟨sign, radix, digits⟩
  cases radix with
  | octal | hexadecimal => rfl
  | decimal =>
      rcases readable.resolve_left (absurd rfl) with ⟨_, proper⟩
      simp only [Radix.base, Integer.isDigitOf_ten] at proper
      refine ofUnsigned_of_unmarked sign ?_ ?_
      · rintro rest rfl
        exact absurd (proper 'o' (by simp)) (by decide)
      · rintro rest rfl
        exact absurd (proper 'x' (by simp)) (by decide)

/-- A text that has a radix mark or is a numeral is cut in one way only. -/
theorem IsReadable.ofText_text (readable : numeral.IsReadable) :
    ofText numeral.text = numeral := by
  have whole := readable.ofUnsigned_eq
  have cut : numeral.text.toList =
      numeral.sign.characters ++ (numeral.radix.mark ++ numeral.digits) :=
    String.toList_ofList
  by_cases unsigned : numeral.sign = .none
  · -- The first character is a digit and so no sign.
    rcases readable.exists_digit with ⟨first, rest, starts, digit⟩
    rw [unsigned, Sign.characters, List.nil_append] at cut
    rw [unsigned, ← cut] at whole
    rw [starts] at cut
    refine (ofText_of_unsigned ?_ ?_).trans whole <;>
      · rw [cut]
        rintro unsigned ⟨⟩
        exact absurd digit (by decide)
  · exact (ofText_of_signed _ unsigned cut).trans whole

/-! ## Decoding -/

/-- The magnitude that a numeral with a text is decoded as. -/
def size (raw : String) (numeral : Numeral) : Except EvalError Int64 :=
  if numeral.IsReadable then
    Eval.digitsIn numeral.radix.base numeral.digits
  else .error (.improperNumber raw)

theorem isNumeral_ten_iff {digits : List Char} :
    Integer.IsNumeral 10 digits ↔
      (!digits.isEmpty && digits.all Char.isDigit) = true := by
  simp [Integer.IsNumeral, Integer.isDigitOf_ten]

theorem magnitude_eq_size (raw : String) (sign : Sign)
    (unsigned : List Char) :
    Eval.magnitude raw unsigned = (ofUnsigned sign unsigned).size raw := by
  fun_cases Eval.magnitude raw unsigned with
  | case1 | case2 => rfl
  | case3 _ noOctal noHexadecimal decimal =>
      rw [ofUnsigned_of_unmarked sign noOctal noHexadecimal, size, if_pos]
      · rfl
      · exact IsProper.isReadable (isNumeral_ten_iff.2 decimal)
  | case4 _ noOctal noHexadecimal other =>
      rw [ofUnsigned_of_unmarked sign noOctal noHexadecimal, size, if_neg]
      rintro (marked | proper)
      · exact marked rfl
      · exact other (isNumeral_ten_iff.1 proper)

theorem number_eq (raw : String) :
    Eval.number raw =
      (ofText raw).sign.onMagnitude <$> (ofText raw).size raw := by
  unfold Eval.number
  split
  · next characters =>
    rw [magnitude_eq_size raw .minus,
      ofText_of_signed .minus nofun characters, sign_ofUnsigned]
    exact (map_eq_pure_bind _ _).symm
  · next characters =>
    rw [magnitude_eq_size raw .plus,
      ofText_of_signed .plus nofun characters, sign_ofUnsigned]
    rfl
  · next noMinus noPlus =>
    rw [magnitude_eq_size raw .none, ofText_of_unsigned noMinus noPlus,
      sign_ofUnsigned]
    rfl

theorem size_of_proper (proper : numeral.IsProper) :
    numeral.size raw = Eval.inRange numeral.magnitude := by
  rw [size, if_pos proper.isReadable, Eval.digitsIn_eq]
  exact if_pos proper

theorem size_of_marked (marked : numeral.radix ≠ .decimal)
    (mixed : ¬numeral.IsProper) :
    numeral.size raw =
      .error (.badDigit (String.ofList numeral.digits) numeral.radix.base) := by
  rw [size, if_pos (isReadable_of_marked marked), Eval.digitsIn_eq]
  exact if_neg mixed

/-! ## Values -/

variable {magnitude : Int64} {value : Value}

/-- The opposite of a number that is not negative is in range. -/
theorem toInt_neg_of_exact (exact : magnitude.toInt = numeral.magnitude) :
    (-magnitude).toInt = -numeral.magnitude := by
  have upper := magnitude.toInt_lt
  rw [Int64.toInt_neg, exact, Int.bmod_eq_of_le (by omega) (by omega)]

/-- A magnitude in range is one value behind a sign, and no other. -/
theorem tells_iff (exact : magnitude.toInt = numeral.magnitude) :
    numeral.Tells value ↔ value = numeral.sign.onMagnitude magnitude := by
  have zero : magnitude = 0 ↔ numeral.magnitude = 0 := by
    rw [← Int64.toInt_inj, exact, Int64.toInt_zero]
    exact Int.natCast_eq_zero
  constructor
  · intro tells
    cases tells with
    | negativeZero minus none =>
        rw [minus, Sign.onMagnitude, if_pos (zero.2 none)]
    | @integer number visible told =>
        cases sign : numeral.sign with
        | none | plus =>
            rw [sign, Sign.signed, ← exact, Int64.toInt_inj] at told
            exact congrArg Value.plain told
        | minus =>
            rw [sign, Sign.signed, ← toInt_neg_of_exact exact,
              Int64.toInt_inj] at told
            rw [Sign.onMagnitude, if_neg (mt zero.1 (visible sign)), told]
  · rintro rfl
    cases sign : numeral.sign with
    | none | plus =>
        refine .integer (fun minus => ?_) (by rw [sign, exact, Sign.signed])
        cases sign.symm.trans minus
    | minus =>
        rw [Sign.onMagnitude]
        split
        · next none => exact .negativeZero sign (zero.1 none)
        · next visible =>
          refine .integer (fun _ => mt zero.2 visible) ?_
          rw [sign, toInt_neg_of_exact exact, Sign.signed]

/-- The digits of a numeral are decoded, or they are too many. -/
theorem inRange_magnitude (numeral : Numeral) :
    (∃ magnitude, Eval.inRange numeral.magnitude = .ok magnitude ∧
      magnitude.toInt = numeral.magnitude ∧
      (numeral.magnitude : Int) ≤ Integer.greatest) ∨
    (Eval.inRange numeral.magnitude = .error .overflow ∧
      Integer.greatest < numeral.magnitude) := by
  have lower : Integer.least ≤ (numeral.magnitude : Int) := by
    rw [Integer.least]
    omega
  cases Eval.computes_inRange numeral.magnitude with
  | exact run exact sound =>
      exact Or.inl ⟨_, run, exact, (Expr.overflow?_eq_none_iff.1 sound).2⟩
  | fails run failing =>
      rw [Expr.overflow?] at failing
      split at failing
      · cases failing
      · next outside =>
        rcases Option.some.inj failing with rfl
        exact Or.inr ⟨run, lt_of_not_ge fun small => outside ⟨lower, small⟩⟩

/-- A numeral that its text is cut into is decoded by its parts. -/
theorem decodes_of_cut (cut : ofText numeral.text = numeral) :
    Decodes numeral.text
      (numeral.sign.onMagnitude <$> numeral.size numeral.text) := by
  by_cases proper : numeral.IsProper
  · rw [size_of_proper proper]
    rcases numeral.inRange_magnitude with
      ⟨magnitude, run, exact, small⟩ | ⟨run, large⟩
    · rw [run]
      exact .value proper small ((tells_iff exact).2 rfl)
    · rw [run]
      exact .overflow proper large
  by_cases marked : numeral.radix ≠ .decimal
  · rw [size_of_marked marked proper]
    exact .badDigit marked proper
  · have unreadable : ¬numeral.IsReadable :=
      fun readable => readable.elim marked proper
    rw [size, if_neg unreadable]
    refine .improper fun other same readable => unreadable ?_
    have whole := readable.ofText_text
    rw [same, cut] at whole
    rwa [whole]

end Numeral

/-! ## Digit strings -/

namespace Eval

variable {raw : String} {outcome : Except EvalError Value}

theorem decodes_number (raw : String) : Decodes raw (number raw) := by
  have cut : Numeral.ofText (Numeral.ofText raw).text = Numeral.ofText raw := by
    rw [Numeral.text_ofText]
  have decodes := Numeral.decodes_of_cut cut
  rwa [Numeral.text_ofText, ← Numeral.number_eq] at decodes

/-- A text is decoded in one way only. -/
theorem number_eq_of_decodes (decodes : Decodes raw outcome) :
    number raw = outcome := by
  rw [Numeral.number_eq]
  cases decodes with
  | @value numeral value proper small tells =>
      rw [proper.isReadable.ofText_text, Numeral.size_of_proper proper]
      rcases numeral.inRange_magnitude with ⟨_, run, exact, _⟩ | ⟨_, large⟩
      · rw [run, (Numeral.tells_iff exact).1 tells]
        rfl
      · exact absurd small (not_le_of_gt large)
  | @overflow numeral proper large =>
      rw [proper.isReadable.ofText_text, Numeral.size_of_proper proper]
      rcases numeral.inRange_magnitude with ⟨_, _, _, small⟩ | ⟨run, _⟩
      · exact absurd small (not_le_of_gt large)
      · rw [run]
        rfl
  | @badDigit numeral marked mixed =>
      rw [(Numeral.isReadable_of_marked marked).ofText_text,
        Numeral.size_of_marked marked mixed]
      rfl
  | improper other =>
      rw [Numeral.size, if_neg (other _ (Numeral.text_ofText raw))]
      rfl

end Eval

/--
A digit string is decoded as its format says.  It has a value just if it is a
numeral whose magnitude is not too large, which is negative zero for a minus
sign and zero, and else the integer that the numeral is, which is no address.
The error of each other text is one of three.
-/
theorem Expr.evaluate_digits_iff_decodes (environment : Environment)
    (raw : String) (outcome : Except EvalError Value) :
    (Expr.digits raw).evaluate environment = outcome ↔
      Decodes raw outcome := by
  rw [Expr.evaluate]
  constructor
  · rintro rfl
    exact Eval.decodes_number raw
  · exact Eval.number_eq_of_decodes

end Whirlwind
