import Mathlib.Data.Bool.Basic
import Whirlwind.Proofs.Expr.Quoting
import Whirlwind.Proofs.Expr.Relisting

/-!
# All parentheses of a listing are needed

A sequence of lexemes that says a tree has at least as many opening parentheses
as the listing of the tree (`Derives.count_opening_le`): every phrase that is
too weak where it stands has to be put in parentheses, and the listing puts no
others.  So no text that is read as the tree has fewer of them outside its
strings (`Expr.openings_listing_le`), and a listing that has lost a pair is read
as another tree or not at all (`Expr.parse_ne_of_losesPair`).
-/

namespace Whirlwind

namespace Expr

@[simp]
theorem count_enclosed (needed : Bool) (lexemes : List Lexeme) :
    (enclosed needed lexemes).count (.mark '(') =
      needed.toNat + lexemes.count (.mark '(') := by
  cases needed with
  | false => simp [enclosed]
  | true =>
      simp [enclosed]
      omega

end Expr

/-! ## How many parentheses a tree needs -/

theorem Phrase.Joins.eq_mark {phrase : Phrase} {character : Char}
    {op : BinaryOp} (joins : phrase.Joins character op) :
    phrase = op.level.phrase ∧ character = op.mark := by
  cases joins <;> exact ⟨rfl, rfl⟩

theorem Phrase.Signs.eq_operator {lexeme : Lexeme} {op : UnaryOp}
    (signs : Phrase.Signs lexeme op) : lexeme = .operator op.operator := by
  cases signs <;> rfl

@[simp]
theorem BinaryOp.count_mark_cons (op : BinaryOp) (lexemes : List Lexeme) :
    (.mark op.mark :: lexemes).count (.mark '(') =
      lexemes.count (.mark '(') :=
  List.count_cons_of_ne (by cases op <;> decide)

@[simp]
theorem UnaryOp.count_operator_cons (op : UnaryOp) (lexemes : List Lexeme) :
    (.operator op.operator :: lexemes).count (.mark '(') =
      lexemes.count (.mark '(') :=
  List.count_cons_of_ne (by cases op <;> decide)

namespace Expr

@[simp]
theorem count_lexemes_unary (op : UnaryOp) (operand : Expr) :
    (unary op operand).lexemes.count (.mark '(') =
      (decide (operand.strength < unaryStrength)).toNat +
        operand.lexemes.count (.mark '(') := by
  rw [lexemes, UnaryOp.count_operator_cons, count_enclosed]

@[simp]
theorem count_lexemes_apply (callee arguments : Expr) :
    (apply callee arguments).lexemes.count (.mark '(') =
      (decide (callee.strength < atomStrength)).toNat +
        callee.lexemes.count (.mark '(') +
          (arguments.lexemes.count (.mark '(') + 1) := by
  simp [lexemes]

@[simp]
theorem count_lexemes_binary (op : BinaryOp) (left right : Expr) :
    (binary op left right).lexemes.count (.mark '(') =
      (leftNeedsParentheses op left).toNat + left.lexemes.count (.mark '(') +
        ((rightNeedsParentheses op right).toNat +
          right.lexemes.count (.mark '(')) := by
  simp [lexemes]

end Expr

namespace Derives

open Whirlwind.Expr

variable {phrase : Phrase} {lexemes follow : List Lexeme} {expr : Expr}

/--
No sequence that says a tree has fewer opening parentheses than its listing, and
one more is needed where the tree is too weak for the phrase.
-/
theorem count_opening_le (derived : Derives phrase lexemes follow expr) :
    (decide (expr.strength < phrase.strength)).toNat +
        expr.lexemes.count (.mark '(') ≤
      lexemes.count (.mark '(') := by
  induction derived with
  | @tighter phrase inner _ _ expr next _ ih =>
      have climbs := Phrase.strength_tighter next
      have weaker : (decide (expr.strength < phrase.strength)).toNat ≤
          (decide (expr.strength < inner.strength)).toNat := by
        refine Bool.toNat_le_toNat fun less => decide_eq_true ?_
        exact Nat.lt_of_lt_of_le (of_decide_eq_true less) (by omega)
      omega
  | @joinLeft _ _ _ op _ _ _ left right joins leans next _ _ ihLeft ihRight
  | @joinRight _ _ _ op _ _ _ left right joins leans next _ _ ihLeft ihRight =>
      rcases joins.eq_mark with ⟨rfl, rfl⟩
      have climbs := Phrase.strength_tighter next
      have strong : decide ((binary op left right).strength <
          op.level.strength) = false := decide_eq_false (Nat.lt_irrefl _)
      rw [Level.phrase_leansRight] at leans
      simp only [climbs, Level.strength_phrase, Nat.lt_succ_iff] at *
      simp only [count_lexemes_binary, leftNeedsParentheses,
        rightNeedsParentheses, leans, strong, List.count_append,
        BinaryOp.count_mark_cons, Bool.toNat_false, Bool.false_eq_true,
        if_true, if_false]
      omega
  | @sign _ op _ _ operand signs _ ih =>
      have strong : decide ((unary op operand).strength <
          Phrase.signed.strength) = false := rfl
      rw [signs.eq_operator, UnaryOp.count_operator_cons, count_lexemes_unary,
        strong, Bool.toNat_false, Nat.zero_add]
      exact ih
  | zero => decide
  | @apply _ _ _ callee arguments _ _ ihCallee ihArguments =>
      have strong : decide ((Expr.apply callee arguments).strength <
          Phrase.application.strength) = false := rfl
      have front : (decide (callee.strength < atomStrength)).toNat +
          callee.lexemes.count (.mark '(') ≤ _ := ihCallee
      rw [count_lexemes_apply, strong, List.count_append, List.count_cons_self,
        List.count_append, Bool.toNat_false]
      omega
  | identifier | digits | string => exact Nat.le_of_eq (Nat.zero_add _)
  | @group _ _ expr _ ih =>
      have := Bool.toNat_le (decide (expr.strength < Phrase.atom.strength))
      rw [List.count_cons_self, List.count_append]
      omega

end Derives

/-! ## Listings and other texts of a tree -/

namespace Expr

variable {grammar : Grammar} {expr : Expr}

/-- In a notation in which a tree can be read its listing can be read. -/
theorem lists_of_parse {text : String}
    (words : grammar.hasRuns = false)
    (parsed : parse text grammar = .ok expr) : grammar.Lists expr := by
  rcases derives_of_parse parsed with ⟨lexemes, last, derived, reads⟩
  have shaped : ∀ lexeme ∈ lexemes, lexeme.Wordlike grammar :=
    fun lexeme member =>
      reads.wordlike words lexeme (List.mem_append_left _ member)
  refine ⟨words, ?_⟩
  cases grammar with
  | expression => exact .inl rfl
  | assembly | tape => exact .inr (derived.hasAssignment_eq_false shaped rfl)
  | debugger => cases words

/-- A listing has the parentheses that its lexemes have. -/
theorem openings_listing (lists : grammar.Lists expr)
    (shape : expr.WellFormed) :
    Quoting.outside.openings expr.listing.toList =
      expr.lexemes.count (.mark '(') := by
  have gives := Lexer.writes_listing lists shape [] [] grammar.skips_nil
    grammar.closes_nil
  rw [List.nil_append, List.append_nil] at gives
  rcases (gives.trans (Lexer.gives_finish grammar.skips_nil)) _
    (Lexer.faces_ofText expr.listing 1 grammar) with ⟨_, reads, _⟩
  exact Lexer.openings_of_reads lists.1 reads (expr.derives_list []).builds

/-- Of all texts that are read as a tree, its listing has the fewest
parentheses. -/
theorem openings_listing_le {text : String} (words : grammar.hasRuns = false)
    (shape : expr.WellFormed) (parsed : parse text grammar = .ok expr) :
    Quoting.outside.openings expr.listing.toList ≤
      Quoting.outside.openings text.toList := by
  rcases derives_of_parse parsed with ⟨lexemes, last, derived, reads⟩
  have enough := derived.count_opening_le
  rw [openings_listing (lists_of_parse words parsed) shape,
    Lexer.openings_of_reads words reads derived.builds]
  omega

/-- A text is another one without an opening parenthesis and a closing one behind
it, neither of which stands in a string. -/
def LosesPair (whole text : List Char) : Prop :=
  ∃ front middle back,
    whole = front ++ '(' :: (middle ++ ')' :: back) ∧
    text = front ++ (middle ++ back) ∧
    Quoting.outside.after front = .outside ∧
    Quoting.outside.after middle = .outside

/-- A text that has lost a pair of parentheses has one opening parenthesis
less. -/
theorem LosesPair.openings {whole text : List Char}
    (loses : LosesPair whole text) :
    Quoting.outside.openings whole = Quoting.outside.openings text + 1 := by
  rcases loses with ⟨front, middle, back, rfl, rfl, opens, closes⟩
  rw [Quoting.openings_append, Quoting.openings_append, opens,
    Quoting.openings_opening, Quoting.openings_append,
    Quoting.openings_append, closes, Quoting.openings_closing]
  omega

/--
The listing of a tree has only parentheses that it needs.  When an opening
parenthesis and a closing one behind it are left out, those around an operand or
any others, the text is not read as the tree.
-/
theorem parse_ne_of_losesPair {text : String}
    (words : grammar.hasRuns = false) (shape : expr.WellFormed)
    (loses : LosesPair expr.listing.toList text.toList) :
    parse text grammar ≠ .ok expr := by
  intro parsed
  have fewest := openings_listing_le words shape parsed
  have fewer := loses.openings
  omega

/-- A difference behind a minus sign, and a list among the arguments of a
function beside a string with parentheses. -/
theorem parse_ne_of_losesPair_nested :
    ∃ expr : Expr, expr.WellFormed ∧
      expr.listing = "a - (b - f((c, d), \"(e)\"))" ∧
      LosesPair expr.listing.toList "a - b - f((c, d), \"(e)\")".toList ∧
      LosesPair expr.listing.toList "a - (b - f(c, d, \"(e)\"))".toList ∧
      parse "a - b - f((c, d), \"(e)\")" .expression ≠ .ok expr ∧
      parse "a - (b - f(c, d, \"(e)\"))" .expression ≠ .ok expr := by
  let expr : Expr := .binary .minus (.identifier "a")
    (.binary .minus (.identifier "b")
      (.apply (.identifier "f")
        (.binary .comma
          (.binary .comma (.identifier "c") (.identifier "d"))
          (.string "(e)"))))
  have shape : expr.WellFormed := by decide +kernel
  have listed : expr.listing = "a - (b - f((c, d), \"(e)\"))" := by
    decide +kernel
  have around : LosesPair expr.listing.toList
      "a - b - f((c, d), \"(e)\")".toList := by
    rw [listed]
    exact ⟨"a - ".toList, "b - f((c, d), \"(e)\")".toList, [],
      by decide +kernel⟩
  have within : LosesPair expr.listing.toList
      "a - (b - f(c, d, \"(e)\"))".toList := by
    rw [listed]
    exact ⟨"a - (b - f(".toList, "c, d".toList, ", \"(e)\"))".toList,
      by decide +kernel⟩
  exact ⟨expr, shape, listed, around, within,
    parse_ne_of_losesPair rfl shape around,
    parse_ne_of_losesPair rfl shape within⟩

end Expr

end Whirlwind
