import Whirlwind.Proofs.Eval.Numeral
import Whirlwind.Proofs.Line.Command
import Whirlwind.Proofs.Text.Decimal

/-!
# Numerals in the notations

A debugger command takes a numeral for one digit string, whose sign and mark the
evaluator finds.  In the other notations they are operators of their own, and
the lexer is told by the mark which digits to expect.  A numeral means the same
both ways (`Numeral.evaluate_parse`).
-/

namespace Whirlwind

namespace Scan

theorem isRunChar_of_isNameChar {character : Char}
    (named : isNameChar character = true) : isRunChar character = true := by
  have noQuote : character ≠ '"' := by
    rintro rfl
    exact absurd named (by decide)
  simp [isRunChar, isBlank_of_isNameChar named, isMark_of_isNameChar named,
    noQuote]

/-- No name starts with a sign or a digit. -/
theorem isName_eq_false {first : Char} {rest : List Char}
    (starts : first = '+' ∨ first = '-' ∨ first.isDigit = true) :
    isName (first :: rest) = false := by
  rcases starts with rfl | rfl | digit
  · rfl
  · rfl
  · have noLetter : first.isAlpha = false := by
      cases letter : first.isAlpha with
      | false => rfl
      | true => cases digit.symm.trans (Text.isDigit_of_isAlpha letter)
    have noLine : first ≠ '_' := by
      rintro rfl
      exact absurd digit (by decide)
    simp [isName, isNameStart, noLetter, noLine]

end Scan

namespace Sign

/-- An operand behind a sign. -/
def applied : Sign → Expr → Expr
  | .none, operand => operand
  | .plus, operand => .unary .plus operand
  | .minus, operand => .unary .minus operand

theorem listing_applied (sign : Sign) {operand : Expr}
    (strong : Expr.unaryStrength ≤ operand.strength) :
    (sign.applied operand).listing =
      String.ofList sign.characters ++ operand.listing := by
  cases sign <;>
    simp [applied, characters, Expr.listing, Expr.parenthesized, strong,
      UnaryOp.operator, UnaryOp.isRadix, Operator.symbol, Nat.not_lt_of_le]

end Sign

namespace Radix

/-- A digit string behind a radix mark. -/
def applied : Radix → String → Expr
  | .decimal, digits => .digits digits
  | .octal, digits => .unary .octal (.digits digits)
  | .hexadecimal, digits => .unary .hexadecimal (.digits digits)

/-- The digits that are read behind a radix mark.  An octal mark leaves it to
the evaluator to refuse some of them. -/
def isDigit : Radix → Char → Bool
  | .hexadecimal => Scan.isHexDigit
  | .decimal | .octal => Char.isDigit

theorem listing_applied (radix : Radix) (digits : String) :
    (radix.applied digits).listing = String.ofList radix.mark ++ digits := by
  cases radix <;>
    simp [applied, mark, Expr.listing, Expr.parenthesized, Expr.strength,
      Expr.atomStrength, Expr.unaryStrength, Expr.isDigits, UnaryOp.operator,
      Operator.symbol]

theorem strength_applied (radix : Radix) (digits : String) :
    Expr.unaryStrength ≤ (radix.applied digits).strength := by
  cases radix <;> simp [applied, Expr.strength, Expr.unaryStrength,
    Expr.atomStrength]

theorem isNameChar_of_isDigit {radix : Radix} {character : Char}
    (digit : radix.isDigit character = true) :
    Scan.isNameChar character = true := by
  cases radix with
  | hexadecimal => exact Scan.isNameChar_of_isHexDigit digit
  | decimal | octal => exact Scan.isNameChar_of_isDigit digit

end Radix

theorem Decodes.not_isReadable {raw other : String}
    {outcome : Except EvalError Value} (decodes : Decodes raw outcome)
    (refused : outcome = .error (.improperNumber other)) {numeral : Numeral}
    (same : numeral.text = raw) : ¬numeral.IsReadable := by
  cases decodes with
  | value | overflow | badDigit => cases refused
  | improper apart => exact apart numeral same

namespace Numeral

/-- A numeral that has digits, and no others than its mark lets follow. -/
def IsWritten (numeral : Numeral) : Prop :=
  numeral.digits ≠ [] ∧
    ∀ digit ∈ numeral.digits, numeral.radix.isDigit digit = true

instance (numeral : Numeral) : Decidable numeral.IsWritten :=
  decidable_of_iff
    (numeral.digits ≠ [] ∧ numeral.digits.all numeral.radix.isDigit)
    (by simp [IsWritten])

/-- A numeral as a tree of operators. -/
def tree (numeral : Numeral) : Expr :=
  numeral.sign.applied
    (numeral.radix.applied (String.ofList numeral.digits))

variable {numeral : Numeral}

theorem IsWritten.isReadable (written : numeral.IsWritten) :
    numeral.IsReadable := by
  rcases numeral with ⟨sign, radix, digits⟩
  cases radix with
  | octal | hexadecimal => exact Or.inl nofun
  | decimal =>
      refine Or.inr ⟨written.1, fun digit member => ?_⟩
      exact (Integer.isDigitOf_ten digit).trans (written.2 digit member)

/-! ## As one digit string -/

theorem isRun_text (written : numeral.IsWritten) : IsRun numeral.text := by
  rcases numeral with ⟨sign, radix, digits⟩
  rcases written with ⟨visible, inside⟩
  constructor
  · simp [text, visible]
  · simp only [text, String.toList_ofList, List.forall_mem_append]
    refine ⟨?_, ?_, fun digit member => ?_⟩
    · cases sign <;> exact List.all_eq_true.1 (by decide)
    · cases radix <;> exact List.all_eq_true.1 (by decide)
    · exact Scan.isRunChar_of_isNameChar
        (Radix.isNameChar_of_isDigit (inside digit member))

theorem isName_text (written : numeral.IsWritten) :
    Scan.isName numeral.text.toList = false := by
  rcases written.isReadable.exists_digit with ⟨first, rest, starts, digit⟩
  rw [text, String.toList_ofList, starts]
  cases numeral.sign with
  | none => exact Scan.isName_eq_false (Or.inr (Or.inr digit))
  | plus => exact Scan.isName_eq_false (Or.inl rfl)
  | minus => exact Scan.isName_eq_false (Or.inr (Or.inl rfl))

theorem parse_debugger (written : numeral.IsWritten) :
    Expr.parse numeral.text .debugger = .ok (.digits numeral.text) := by
  have shape : (Expr.digits numeral.text).OfRuns :=
    ⟨isRun_text written, isName_text written⟩
  exact Expr.parse_of_writes shape.writes

/-! ## As operators and digits -/

theorem listing_tree (numeral : Numeral) :
    numeral.tree.listing = numeral.text := by
  have inner := numeral.radix.listing_applied (String.ofList numeral.digits)
  have strong := numeral.radix.strength_applied (String.ofList numeral.digits)
  rw [tree, numeral.sign.listing_applied strong, inner, text,
    String.ofList_append, String.ofList_append]

theorem hasAssignment_tree (numeral : Numeral) :
    numeral.tree.hasAssignment = false := by
  rcases numeral with ⟨sign, radix, digits⟩
  cases sign <;> cases radix <;> rfl

theorem wellFormed_tree (written : numeral.IsWritten) :
    numeral.tree.WellFormed := by
  rcases numeral with ⟨sign, radix, digits⟩
  have shape : IsNumber radix.isDigit (String.ofList digits) := by
    rcases written with ⟨visible, inside⟩
    exact ⟨by simpa using visible, by simpa using inside⟩
  cases sign <;> cases radix <;> exact shape

theorem parse_tree (written : numeral.IsWritten) {grammar : Grammar}
    (words : grammar.hasRuns = false) :
    Expr.parse numeral.text grammar = .ok numeral.tree := by
  have lists : grammar.Lists numeral.tree :=
    ⟨words, Or.inr numeral.hasAssignment_tree⟩
  rw [← listing_tree]
  exact Expr.parse_listing_of_lists lists (wellFormed_tree written)

/-! ## The value -/

theorem evaluate_digits (written : numeral.IsWritten)
    (environment : Environment) :
    (numeral.radix.applied (String.ofList numeral.digits)).evaluate
        environment =
      .plain <$> Eval.digitsIn numeral.radix.base numeral.digits := by
  rcases numeral with ⟨sign, radix, digits⟩
  cases radix with
  | decimal =>
      rw [Radix.applied, Expr.evaluate,
        Eval.number_decimal, String.toList_ofList]
      · rfl
      · simpa using written.1
      · rw [String.toList_ofList]
        exact written.2
  | octal | hexadecimal =>
      rw [Radix.applied, Expr.evaluate, Eval.marked, String.toList_ofList]
      rfl

/-- The minus sign of an expression is the sign of a numeral. -/
theorem negated_magnitude {magnitude : Int64}
    (exact : magnitude.toInt = numeral.magnitude) :
    Eval.negated (.plain magnitude) =
      .ok (Sign.minus.onMagnitude magnitude) := by
  rw [Value.plain, Eval.negated, Sign.onMagnitude]
  split
  · rfl
  · rw [exact, ← toInt_neg_of_exact exact, Eval.inRange_toInt]
    rfl

theorem evaluate_tree (written : numeral.IsWritten)
    (environment : Environment) :
    numeral.tree.evaluate environment = Eval.number numeral.text := by
  have digits := evaluate_digits written environment
  rw [number_eq, written.isReadable.ofText_text, size,
    if_pos written.isReadable, tree]
  cases numeral.sign with
  | none => exact digits
  | plus =>
      rw [Sign.applied, Expr.evaluate]
      exact digits
  | minus =>
      rw [Sign.applied, Expr.evaluate, digits]
      cases run : Eval.digitsIn numeral.radix.base numeral.digits with
      | error error => rfl
      | ok magnitude => exact negated_magnitude (Eval.toInt_of_digitsIn run)

/--
A numeral means the same in all notations.  Its text is read everywhere, as one
digit string or as signs and digits, and its value or its error is the one that
it is decoded as.  It is never refused as no numeral.
-/
theorem evaluate_parse (written : numeral.IsWritten) :
    ∃ outcome, Decodes numeral.text outcome ∧
      (∀ raw, outcome ≠ .error (.improperNumber raw)) ∧
      ∀ (grammar : Grammar) (environment : Environment),
        ∃ tree, Expr.parse numeral.text grammar = .ok tree ∧
          tree.evaluate environment = outcome := by
  refine ⟨Eval.number numeral.text, Eval.decodes_number _, ?_, ?_⟩
  · intro raw refused
    have decodes := Eval.decodes_number numeral.text
    exact decodes.not_isReadable refused rfl written.isReadable
  · intro grammar environment
    cases grammar with
    | debugger =>
        exact ⟨_, parse_debugger written, by rw [Expr.evaluate]⟩
    | assembly | tape | expression =>
        exact ⟨_, parse_tree written rfl, evaluate_tree written environment⟩

/-- Zero with leading zeros behind a sign and a mark, and octal digits of which
one is too large. -/
theorem evaluate_parse_marked :
    (∀ (grammar : Grammar) (environment : Environment),
      ∃ tree, Expr.parse "-0x00" grammar = .ok tree ∧
        tree.evaluate environment = .ok .negativeZero) ∧
    ∀ (grammar : Grammar) (environment : Environment),
      ∃ tree, Expr.parse "+0o018" grammar = .ok tree ∧
        tree.evaluate environment = .error (.badDigit "018" 8) := by
  have zero := @evaluate_parse ⟨.minus, .hexadecimal, ['0', '0']⟩ (by decide)
  have mixed := @evaluate_parse ⟨.plus, .octal, ['0', '1', '8']⟩ (by decide)
  rcases zero with ⟨outcome, decodes, _, same⟩
  rcases mixed with ⟨failure, decodesToo, _, sameToo⟩
  rcases Eval.number_eq_of_decodes decodes with rfl
  rcases Eval.number_eq_of_decodes decodesToo with rfl
  exact ⟨same, sameToo⟩

end Numeral

end Whirlwind
