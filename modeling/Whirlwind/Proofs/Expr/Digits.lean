import Whirlwind.Proofs.Expr.Acceptance
import Whirlwind.Proofs.Token.Following
import Whirlwind.Proofs.Token.Lexing

/-!
# The digits in trees

The digit strings in a tree that is read are decimal, unless they are the
operand of a hexadecimal mark or what that operand applies to its arguments.
Which digits count is passed down a phrase with its first lexeme, and each
operator and parenthesis in it starts over with decimal ones.
-/

namespace Whirlwind

/--
The digit strings in a tree are made of the digits that count where they stand,
which for a tree that starts with a digit string are given.
-/
def Expr.DigitsFit (isDigit : Char → Bool) : Expr → Prop
  | .binary _ left right =>
      left.DigitsFit Char.isDigit ∧ right.DigitsFit Char.isDigit
  | .unary op operand => operand.DigitsFit op.isDigit
  | .apply callee arguments =>
      callee.DigitsFit (if callee.isDigits then isDigit else Char.isDigit) ∧
        arguments.DigitsFit Char.isDigit
  | .digits text => IsNumber isDigit text
  | .identifier _ | .string _ => True

/-- Decimal digits fit wherever they count among others. -/
theorem Expr.DigitsFit.widen {isDigit : Char → Bool} {expr : Expr}
    (fits : expr.DigitsFit Char.isDigit)
    (decimal : ∀ character, character.isDigit = true →
      isDigit character = true) : expr.DigitsFit isDigit := by
  induction expr with
  | apply callee arguments ihCallee =>
      rw [DigitsFit, ite_self] at fits
      refine ⟨?_, fits.2⟩
      split
      · exact ihCallee fits.1
      · exact fits.1
  | digits => exact IsNumber.mono fits decimal
  | binary | unary | identifier | string => exact fits

namespace Phrase

/-- Whether a phrase of a kind is the operand of a sign in front of it. -/
def isOperand : Phrase → Bool
  | .signed | .application | .atom => true
  | .list | .assignment | .sum | .product | .conjunction | .disjunction
  | .path => false

theorem isOperand_tighter {phrase inner : Phrase}
    (next : phrase.tighter? = some inner) (operand : phrase.isOperand = true) :
    inner.isOperand = true := by
  cases phrase <;> cases next <;> first | rfl | cases operand

/-- What is joined is no operand of a sign. -/
theorem Joins.isOperand_eq_false {phrase : Phrase} {character : Char}
    {op : BinaryOp} (joins : phrase.Joins character op) :
    phrase.isOperand = false := by
  cases joins <;> rfl

/-- Behind an operator in front of an operand its own digits count. -/
theorem Signs.isDigitBehind_eq {lexeme : Lexeme} {op : UnaryOp}
    (signs : Phrase.Signs lexeme op) : lexeme.isDigitBehind = op.isDigit := by
  cases signs <;> rfl

end Phrase

namespace Derives

variable {phrase : Phrase} {lexemes follow : List Lexeme} {expr : Expr}
  {isDigit : Char → Bool}

/-- Which digits count matters only to an atom that is a digit string. -/
theorem digitsFit_atom (derived : Derives .atom lexemes follow expr)
    (other : expr.isDigits = false)
    (fits : Lexeme.DigitsFit isDigit lexemes) :
    Lexeme.DigitsFit Char.isDigit lexemes := by
  cases derived with
  | tighter next | joinLeft _ _ next | joinRight _ _ next => cases next
  | identifier | string => exact ⟨nofun, trivial⟩
  | digits => cases other
  | group => exact ⟨nofun, fits.2⟩

/--
Where the numbers among the lexemes of a phrase have the digits that count, so
have those in the tree that they say.  Other digits than decimal ones count
only in front of operands of signs.
-/
theorem digitsFit (derived : Derives phrase lexemes follow expr)
    (decimal : ∀ character, character.isDigit = true →
      isDigit character = true)
    (placed : phrase.isOperand = true ∨ isDigit = Char.isDigit)
    (fits : Lexeme.DigitsFit isDigit lexemes) : expr.DigitsFit isDigit := by
  induction derived generalizing isDigit with
  | tighter next _ ih =>
      exact ih decimal (placed.imp_left (Phrase.isOperand_tighter next)) fits
  | joinLeft joins _ _ _ _ ihLeft ihRight
  | joinRight joins _ _ _ _ ihLeft ihRight =>
      rcases placed.resolve_left (by simp [joins.isOperand_eq_false]) with rfl
      rcases Lexeme.digitsFit_append_iff.1 fits with ⟨front, _, back⟩
      exact ⟨ihLeft decimal (.inr rfl) front,
        ihRight (fun _ => id) (.inr rfl) back⟩
  | @sign lexeme op _ _ _ signs _ ih =>
      have wider : ∀ character, character.isDigit = true →
          op.isDigit character = true := fun character digit =>
        signs.isDigitBehind_eq ▸ lexeme.isDigitBehind_of_isDigit digit
      exact ih wider (.inl rfl) (signs.isDigitBehind_eq ▸ fits.2)
  | zero => exact ⟨by decide, by simpa using decimal '0' rfl⟩
  | @apply front back follow callee arguments derivedCallee _ ihCallee
      ihArguments =>
      rcases Lexeme.digitsFit_append_iff.1 fits with ⟨fitsCallee, _, inside⟩
      refine ⟨?_, ihArguments (fun _ => id) (.inr rfl)
        (Lexeme.digitsFit_append_iff.1 inside).1⟩
      split
      · exact ihCallee decimal (.inl rfl) fitsCallee
      · next other =>
        rw [Bool.not_eq_true] at other
        exact ihCallee (fun _ => id) (.inr rfl)
          (derivedCallee.digitsFit_atom other fitsCallee)
  | identifier | string => trivial
  | digits => exact fits.1 _ rfl
  | group _ ih =>
      have inside := (Lexeme.digitsFit_append_iff.1 fits.2).1
      exact (ih (fun _ => id) (.inr rfl) inside).widen decimal

/-- Behind a phrase decimal digits count, as it does not end in a mark. -/
theorem isDigitAfter_eq (derived : Derives phrase lexemes follow expr) :
    Lexeme.isDigitAfter isDigit lexemes = Char.isDigit := by
  induction derived generalizing isDigit with
  | tighter _ _ ih => exact ih
  | joinLeft _ _ _ _ _ _ ih | joinRight _ _ _ _ _ _ ih =>
      rw [Lexeme.isDigitAfter_append]
      exact ih
  | sign _ _ ih => exact ih
  | zero | identifier | digits | string => rfl
  | apply =>
      rw [← List.cons_append, ← List.append_assoc]
      exact Lexeme.isDigitAfter_append_singleton _ _ _
  | group =>
      rw [← List.cons_append]
      exact Lexeme.isDigitAfter_append_singleton _ _ _

end Derives

namespace TokenStream

variable {start rest : TokenStream} {phrase : Phrase} {expr : Expr}

/-- A tree that is read where decimal digits count has the digits that count,
and behind it decimal digits count again. -/
theorem Accounts.digitsFit (accounts : start.Accounts phrase [] expr rest)
    (counts : start.Counts Char.isDigit) :
    expr.DigitsFit Char.isDigit ∧ rest.Counts Char.isDigit := by
  rcases accounts with ⟨lexemes, passed, derived⟩
  have said : Derives phrase lexemes _ expr := derived []
  refine ⟨said.digitsFit (fun _ => id) (.inr rfl) (counts _ _ passed), ?_⟩
  exact said.isDigitAfter_eq ▸ counts.passes passed

/-- Behind a token that is no hexadecimal mark decimal digits count. -/
theorem Counts.passes_token {lexeme : Lexeme}
    (counts : start.Counts Char.isDigit) (passed : start.Passes [lexeme] rest)
    (other : lexeme ≠ .operator .hexadecimal) : rest.Counts Char.isDigit :=
  Lexeme.isDigitBehind_eq other ▸ counts.passes passed

/-- Statements are read one behind the other, by induction on what is left. -/
theorem ensures_parseStatements (counts : start.Counts Char.isDigit) :
    (parseStatements start).Ensures fun statements _ =>
      ∀ statement ∈ statements, statement.DigitsFit Char.isDigit := by
  obtain ⟨weight, weighed⟩ : ∃ weight, start.weight = weight := ⟨_, rfl⟩
  induction weight using Nat.strongRecOn generalizing start with
  | ind weight ih =>
    rw [parseStatements]
    refine ensures_readThen fun token rest spent passed => ?_
    split
    · exact Outcome.ensures_ok nofun
    split
    · next separates =>
      have less : rest.weight < weight := by
        have := cost_of_isMark separates
        omega
      rw [lexeme_of_isMark separates] at passed
      exact (ih _ less (counts.passes_token passed nofun) rfl).widen _
    refine ensures_handBackThen [] passed
      fun whole fits passedWhole _ => Outcome.Ensures.widen ?_ _
    have accounts := (accountsBelow _).level .comma whole (Nat.lt_succ_self _)
    refine accounts.andThen fun statement after fitsAfter said =>
      Outcome.Ensures.widen ?_ _
    rcases said.digitsFit (counts.passes passedWhole) with ⟨first, behind⟩
    refine ensures_readThen fun terminator later laterSpent passedLater => ?_
    split
    · exact Outcome.ensures_ok (List.forall_mem_singleton.2 first)
    split
    · next separates =>
      have less : later.weight < weight := by
        have := cost_of_isMark separates
        omega
      rw [lexeme_of_isMark separates] at passedLater
      refine Outcome.Ensures.widen (Outcome.Ensures.map ?_) _
      refine (ih _ less (behind.passes_token passedLater nofun) rfl).mono ?_
      exact fun statements last others =>
        List.forall_mem_cons.2 ⟨first, others⟩
    · exact ensures_failThen

end TokenStream

end Whirlwind
