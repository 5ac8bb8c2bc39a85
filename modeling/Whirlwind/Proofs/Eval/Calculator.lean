import Whirlwind.Proofs.Eval.Exact
import Whirlwind.Proofs.Expr.Listing
import Whirlwind.Proofs.Text.Decimal

/-!
# A calculator with a stack of operators

A flat calculation is a row of numbers that are not negative, with an operator
between each two.  A calculator works it off in one pass.  An operator waits on
a stack, with the number in front of it, until one comes that binds no more
strongly or the row ends; a step that fails ends the calculation.  The evaluator
finds the same in the tree that the parser reads from the written calculation
(`Calculator.evaluate_eq_calculate`).

The proof goes by way of a tree that grows with the row (`Term.extend`).  Its
listing is the written calculation, as it needs no parentheses, and what the
calculator has on its stack is the right edge of the tree with the values of
everything to the left of it (`Term.edge`).
-/

namespace Whirlwind.Calculator

/-! ## The calculator -/

/-- An operator between two numbers. -/
inductive Key where
  | add
  | subtract
  | multiply
  | divide
  | bitAnd
  | bitOr
  deriving DecidableEq, Repr

/-- Why a step of a calculation fails. -/
inductive Fault where
  | divisionByZero
  | overflow
  deriving DecidableEq, Repr

/-- A number that is not negative. -/
structure Operand where
  number : Int64
  positive : 0 ≤ number.toInt := by decide

namespace Key

/-- How strongly an operator binds. -/
def precedence : Key → Nat
  | .add | .subtract => 1
  | .multiply | .divide => 2
  | .bitAnd => 3
  | .bitOr => 4

/-- What an operator does with integers without bounds. -/
def combine : Key → Int → Int → Int
  | .add => fun left right => left + right
  | .subtract => fun left right => left - right
  | .multiply => fun left right => left * right
  | .divide => Int.fdiv
  | .bitAnd => Int.land
  | .bitOr => Int.lor

/-- A step of a calculation: its result has to be in range. -/
def apply (key : Key) (left right : Int64) : Except Fault Int64 :=
  if key = .divide ∧ right = 0 then .error .divisionByZero
  else if Integer.InRange (key.combine left.toInt right.toInt) then
    .ok (Int64.ofInt (key.combine left.toInt right.toInt))
  else .error .overflow

end Key

/-- What a calculator remembers in the middle of a calculation. -/
structure Memory where
  /-- The operators that wait, the last one first, and the numbers in front of
  them. -/
  waiting : List (Int64 × Key)
  shown : Int64

/-- Take all steps that bind as strongly as is asked for, the last one first. -/
def settle (precedence : Nat) :
    List (Int64 × Key) → Int64 → Except Fault Memory
  | [], shown => .ok ⟨[], shown⟩
  | (left, key) :: waiting, shown =>
      if precedence ≤ key.precedence then do
        settle precedence waiting (← key.apply left shown)
      else .ok ⟨(left, key) :: waiting, shown⟩

/-- Let an operator wait, and show the number behind it. -/
def Memory.push (step : Key × Operand) (memory : Memory) : Memory :=
  ⟨(memory.shown, step.1) :: memory.waiting, step.2.number⟩

/-- Go on with an operator and the number behind it. -/
def Memory.enter (memory : Memory) (step : Key × Operand) :
    Except Fault Memory :=
  Memory.push step <$> settle step.1.precedence memory.waiting memory.shown

/-- The result of a flat calculation, or the first fault. -/
def calculate (first : Operand) (later : List (Key × Operand)) :
    Except Fault Int64 := do
  let last ← later.foldlM Memory.enter ⟨[], first.number⟩
  Memory.shown <$> settle 0 last.waiting last.shown

/-! ## Written calculations -/

/-- The operator of expressions that a key stands for. -/
def Key.op : Key → BinaryOp
  | .add => .plus
  | .subtract => .minus
  | .multiply => .multiply
  | .divide => .divide
  | .bitAnd => .bitAnd
  | .bitOr => .bitOr

/-- The error of expressions that a fault is. -/
def Fault.error : Fault → EvalError
  | .divisionByZero => .divisionByZero
  | .overflow => .overflow

/-- An operator and the number behind it, with a space in front of each. -/
def stepText (step : Key × Operand) : String :=
  " " ++ step.1.op.symbol ++ " " ++ Text.decimal step.2.number

/-- A flat calculation as it is written. -/
def text (first : Operand) (later : List (Key × Operand)) : String :=
  Text.decimal first.number ++ String.join (later.map stepText)

namespace Key

theorem onIntegers?_op (key : Key) : key.op.onIntegers? = some key.combine := by
  cases key <;> rfl

theorem strength_op (key : Key) :
    key.op.level.strength = key.precedence + 2 := by
  cases key <;> rfl

theorem groupsRight_op (key : Key) : key.op.level.groupsRight = false := by
  cases key <;> rfl

theorem precedence_lt (key : Key) : key.precedence < 5 := by
  cases key <;> decide

theorem spaced_op (key : Key) :
    Expr.spaced key.op = " " ++ key.op.symbol ++ " " := by
  cases key <;> rfl

/-- What the evaluator computes is what the calculator does. -/
theorem eq_apply_of_computes {key : Key} {left right : Int64}
    {result : Except EvalError Int64}
    (computes : Eval.Computes result (key.combine left.toInt right.toInt)
      (Eval.failure? key.op key.combine left.toInt right.toInt)) :
    result = (key.apply left right).mapError Fault.error := by
  have divides : key.op = .divide ∧ right.toInt = 0 ↔
      key = .divide ∧ right = 0 := by
    rw [← Int64.toInt_zero, Int64.toInt_inj]
    cases key <;> simp [op]
  unfold apply
  unfold Eval.failure? at computes
  simp only [divides] at computes
  split at computes
  · next zero =>
    rw [if_pos zero]
    cases computes with
    | exact _ _ sound => cases sound
    | fails run failing =>
        rcases Option.some.inj failing with rfl
        exact run
  · next divisible =>
    rw [if_neg divisible]
    cases computes with
    | @exact value run exact sound =>
        rw [if_pos (Expr.overflow?_eq_none_iff.1 sound), ← exact,
          Int64.ofInt_toInt]
        exact run
    | fails run failing =>
        unfold Expr.overflow? at failing
        split at failing
        · cases failing
        · next beyond =>
          rcases Option.some.inj failing with rfl
          rw [if_neg beyond]
          exact run

end Key

/-! ## Terms -/

/-- A tree of numbers and operators. -/
inductive Term where
  | number (operand : Operand)
  | apply (key : Key) (left right : Term)

namespace Term

/-- A term as an expression. -/
def toExpr : Term → Expr
  | .number operand => .digits (Text.decimal operand.number)
  | .apply key left right => .binary key.op left.toExpr right.toExpr

/-- The value of a term, or the fault that is found first. -/
def value : Term → Except Fault Int64
  | .number operand => .ok operand.number
  | .apply key left right => do key.apply (← left.value) (← right.value)

/-- How strongly the outermost operator of a term binds. -/
def precedence : Term → Nat
  | .number _ => 5
  | .apply key _ _ => key.precedence

/-- No operand needs parentheses. -/
def Bare : Term → Prop
  | .number _ => True
  | .apply key left right =>
      (key.precedence ≤ left.precedence ∧ left.Bare) ∧
        key.precedence < right.precedence ∧ right.Bare

/-- A term with an operator and a number behind it. -/
def extend (term : Term) (step : Key × Operand) : Term :=
  match term with
  | .number operand => .apply step.1 (.number operand) (.number step.2)
  | .apply key left right =>
      if key.precedence < step.1.precedence then
        .apply key left (right.extend step)
      else .apply step.1 (.apply key left right) (.number step.2)

/-- An operator and a number stand at the end of some operand on the right edge,
or behind the whole term. -/
theorem precedence_extend {term : Term} {step : Key × Operand} {strength : Nat}
    (inside : strength ≤ term.precedence)
    (behind : strength ≤ step.1.precedence) :
    strength ≤ (term.extend step).precedence := by
  unfold extend
  split
  · exact behind
  · split
    · exact inside
    · exact behind

theorem Bare.extend {term : Term} (bare : term.Bare) (step : Key × Operand) :
    (term.extend step).Bare := by
  have atom : step.1.precedence < 5 := step.1.precedence_lt
  induction term with
  | number operand => exact ⟨⟨Nat.le_of_lt atom, trivial⟩, atom, trivial⟩
  | apply key left right _ ih =>
      rw [Term.extend]
      rcases bare with ⟨front, tighter, back⟩
      split
      · next stronger =>
        exact ⟨front, precedence_extend tighter stronger, ih back⟩
      · next weaker =>
        exact ⟨⟨Nat.le_of_not_lt weaker, front, tighter, back⟩, atom, trivial⟩

/-! ## The written term -/

theorem strength_toExpr (term : Term) :
    term.precedence + 2 ≤ term.toExpr.strength := by
  cases term with
  | number => exact (by decide : 5 + 2 ≤ Expr.atomStrength)
  | apply key left right => exact Nat.le_of_eq key.strength_op.symm

theorem Bare.listing_apply {key : Key} {left right : Term}
    (bare : (Term.apply key left right).Bare) :
    (Term.apply key left right).toExpr.listing =
      left.toExpr.listing ++ " " ++ key.op.symbol ++ " " ++
        right.toExpr.listing := by
  rcases bare with ⟨⟨weaker, _⟩, stronger, _⟩
  have front : Expr.leftNeedsParentheses key.op left.toExpr = false := by
    have := left.strength_toExpr
    simp only [Expr.leftNeedsParentheses, key.groupsRight_op, key.strength_op,
      Bool.false_eq_true, if_false, decide_eq_false_iff_not]
    omega
  have back : Expr.rightNeedsParentheses key.op right.toExpr = false := by
    have := right.strength_toExpr
    simp only [Expr.rightNeedsParentheses, key.groupsRight_op, key.strength_op,
      Bool.false_eq_true, if_false, decide_eq_false_iff_not]
    omega
  rw [toExpr, Expr.listing, front, back, key.spaced_op]
  simp only [Expr.parenthesized, Bool.false_eq_true, if_false,
    String.append_assoc]

theorem Bare.listing_extend {term : Term} (bare : term.Bare)
    (step : Key × Operand) :
    (term.extend step).toExpr.listing =
      term.toExpr.listing ++ stepText step := by
  have extended := bare.extend step
  induction term with
  | number operand =>
      rw [Term.extend] at extended ⊢
      rw [extended.listing_apply]
      simp only [toExpr, Expr.listing, stepText, String.append_assoc]
  | apply key left right _ ih =>
      rw [Term.extend] at extended ⊢
      split at extended
      · next stronger =>
        rw [if_pos stronger, extended.listing_apply, bare.listing_apply,
          ih bare.2.2 extended.2.2]
        simp only [String.append_assoc]
      · next weaker =>
        rw [if_neg weaker, extended.listing_apply]
        simp only [toExpr, Expr.listing, stepText, String.append_assoc]

theorem wellFormed_toExpr (term : Term) : term.toExpr.WellFormed := by
  induction term with
  | number operand => exact Text.isNumber_decimal operand.positive
  | apply key left right ihLeft ihRight => exact ⟨ihLeft, ihRight⟩

theorem hasAssignment_toExpr (term : Term) :
    term.toExpr.hasAssignment = false := by
  induction term with
  | number => rfl
  | apply key left right ihLeft ihRight =>
      rw [toExpr, Expr.hasAssignment, ihLeft, ihRight]
      cases key <;> rfl

/-! ## The value of a term -/

theorem number_decimal {number : Int64} (positive : 0 ≤ number.toInt) :
    Eval.number (Text.decimal number) = .ok (.plain number) := by
  rcases Text.isNumber_decimal positive with ⟨visible, digits⟩
  have whole : ((number.toInt.toNat : Nat) : Int) = number.toInt :=
    Int.toNat_of_nonneg positive
  rw [Eval.number_decimal (by simpa using visible) digits]
  simp only [Eval.digitsIn, Text.numeral?_decimal positive, whole, Eval.inRange,
    Integer.ofInt?_toInt]
  rfl

/-- The evaluator finds the value of a term, or its first fault. -/
theorem evaluate_toExpr (environment : Environment) (term : Term) :
    term.toExpr.evaluate environment =
      .plain <$> term.value.mapError Fault.error := by
  induction term with
  | number operand =>
      rw [toExpr, Expr.evaluate, number_decimal operand.positive]
      rfl
  | apply key left right ihLeft ihRight =>
      rcases Eval.exists_computes key.onIntegers?_op with
        ⟨compute, evaluates, computes⟩
      rw [toExpr, evaluates, Eval.arithmetic_eq, ihLeft, ihRight, value]
      cases left.value with
      | error fault => rfl
      | ok leftNumber =>
          cases right.value with
          | error fault => rfl
          | ok rightNumber =>
              have step := Key.eq_apply_of_computes
                (computes leftNumber rightNumber)
              exact congrArg (Value.plain <$> ·) step

/-! ## The calculator on a term -/

/--
What a calculator remembers of a term behind what waits already: the operators
on its right edge, with the values of their left operands, and the last number.
-/
def edge (waiting : List (Int64 × Key)) : Term → Except Fault Memory
  | .number operand => .ok ⟨waiting, operand.number⟩
  | .apply key left right => do
      right.edge ((← left.value, key) :: waiting)

/-- Operators that bind strongly enough are worked off, and the term leaves its
value. -/
theorem Bare.settle_edge {term : Term} (bare : term.Bare) {strength : Nat}
    (strong : strength ≤ term.precedence) (waiting : List (Int64 × Key)) :
    (term.edge waiting >>= fun memory =>
        settle strength memory.waiting memory.shown) =
      term.value >>= settle strength waiting := by
  induction term generalizing waiting with
  | number operand => rfl
  | apply key left right _ ih =>
      rcases bare with ⟨_, tighter, back⟩
      rw [edge, value]
      cases left.value with
      | error fault => rfl
      | ok leftNumber =>
          have inside := ih back
            (Nat.le_of_lt (Nat.lt_of_le_of_lt strong tighter))
            ((leftNumber, key) :: waiting)
          refine inside.trans ?_
          cases right.value with
          | error fault => rfl
          | ok rightNumber => exact if_pos strong

/-- A weaker operator waits for the number behind it with the whole term as its
left operand. -/
theorem Bare.enter_edge_behind {term : Term} (bare : term.Bare)
    {step : Key × Operand} {waiting : List (Int64 × Key)}
    (rests : ∀ shown,
      settle step.1.precedence waiting shown = .ok ⟨waiting, shown⟩)
    (weaker : step.1.precedence ≤ term.precedence) :
    (term.edge waiting >>= fun memory => memory.enter step) =
      (Term.apply step.1 term (.number step.2)).edge waiting := by
  calc (term.edge waiting >>= fun memory => memory.enter step)
      = Memory.push step <$> (term.edge waiting >>= fun memory =>
          settle step.1.precedence memory.waiting memory.shown) :=
        (map_bind _ _ _).symm
    _ = Memory.push step <$>
          (term.value >>= settle step.1.precedence waiting) := by
        rw [bare.settle_edge weaker]
    _ = term.value >>= fun shown =>
          Memory.push step <$> settle step.1.precedence waiting shown :=
        map_bind _ _ _
    _ = (Term.apply step.1 term (.number step.2)).edge waiting := by
        simp only [rests]
        rfl

/--
The edge of a term follows the calculator.  What waits already binds less
strongly than the operator, so that it goes on waiting.
-/
theorem Bare.enter_edge {term : Term} (bare : term.Bare) (step : Key × Operand)
    {waiting : List (Int64 × Key)}
    (rests : ∀ shown,
      settle step.1.precedence waiting shown = .ok ⟨waiting, shown⟩) :
    (term.edge waiting >>= fun memory => memory.enter step) =
      (term.extend step).edge waiting := by
  induction term generalizing waiting with
  | number operand =>
      exact bare.enter_edge_behind rests (Nat.le_of_lt step.1.precedence_lt)
  | apply key left right _ ih =>
      rw [Term.extend]
      split
      · next stronger =>
        rw [edge, edge, bind_assoc]
        refine congrArg (left.value >>= ·) (funext fun leftNumber => ?_)
        refine ih bare.2.2 fun shown => ?_
        rw [settle, if_neg (Nat.not_le_of_lt stronger)]
      · next weaker =>
        exact bare.enter_edge_behind rests (Nat.le_of_not_lt weaker)

end Term

/-! ## Whole calculations -/

/-- The tree of a flat calculation. -/
def term (first : Operand) (later : List (Key × Operand)) : Term :=
  later.foldl Term.extend (.number first)

theorem Term.Bare.foldl_extend {term : Term} (bare : term.Bare)
    (later : List (Key × Operand)) : (later.foldl Term.extend term).Bare := by
  induction later generalizing term with
  | nil => exact bare
  | cons step later ih => exact ih (bare.extend step)

theorem Term.Bare.listing_foldl {term : Term} (bare : term.Bare)
    (later : List (Key × Operand)) :
    (later.foldl Term.extend term).toExpr.listing =
      term.toExpr.listing ++ String.join (later.map stepText) := by
  induction later generalizing term with
  | nil => simp
  | cons step later ih =>
      rw [List.foldl_cons, ih (bare.extend step), bare.listing_extend,
        List.map_cons, String.join_cons, String.append_assoc]

theorem Term.Bare.foldlM_edge {term : Term} (bare : term.Bare)
    (later : List (Key × Operand)) :
    (term.edge [] >>= later.foldlM Memory.enter) =
      (later.foldl Term.extend term).edge [] := by
  induction later generalizing term with
  | nil => exact bind_pure _
  | cons step later ih =>
      rw [List.foldl_cons, ← ih (bare.extend step),
        ← bare.enter_edge step fun shown => rfl, bind_assoc]
      simp only [List.foldlM_cons]

/-- The calculator finds the value of the tree. -/
theorem calculate_eq_value (first : Operand) (later : List (Key × Operand)) :
    calculate first later = (term first later).value := by
  have bare : (Term.number first).Bare := trivial
  have run : later.foldlM Memory.enter ⟨[], first.number⟩ =
      (term first later).edge [] :=
    bare.foldlM_edge later
  have settled := (bare.foldl_extend later).settle_edge (Nat.zero_le _) []
  calc calculate first later
      = (term first later).edge [] >>= fun memory =>
          Memory.shown <$> settle 0 memory.waiting memory.shown := by
        rw [calculate, run]
    _ = Memory.shown <$> ((term first later).edge [] >>= fun memory =>
          settle 0 memory.waiting memory.shown) :=
        (map_bind _ _ _).symm
    _ = Memory.shown <$> ((term first later).value >>= settle 0 []) :=
        congrArg (Memory.shown <$> ·) settled
    _ = (term first later).value := by
        cases (term first later).value <;> rfl

/--
The evaluator and the calculator agree.  A written calculation is read as a
tree, and the value of the tree is the result of the calculator, or the error is
its first fault.
-/
theorem evaluate_eq_calculate (environment : Environment) {grammar : Grammar}
    (words : grammar ≠ .debugger) (first : Operand)
    (later : List (Key × Operand)) :
    ∃ tree, Expr.parse (text first later) grammar = .ok tree ∧
      tree.evaluate environment =
        .plain <$> (calculate first later).mapError Fault.error := by
  have bare : (Term.number first).Bare := trivial
  have listed : (term first later).toExpr.listing = text first later :=
    bare.listing_foldl later
  have lists : grammar.Lists (term first later).toExpr := by
    refine ⟨?_, Or.inr (Term.hasAssignment_toExpr _)⟩
    cases grammar with
    | debugger => exact absurd rfl words
    | assembly | tape | expression => rfl
  refine ⟨(term first later).toExpr, ?_, ?_⟩
  · rw [← listed]
    exact Expr.parse_listing_of_lists lists (Term.wellFormed_toExpr _)
  · rw [calculate_eq_value, Term.evaluate_toExpr]

/-- A sum that overflows is found before a division by zero to its right, and
operators on bits bind more strongly than the others. -/
theorem evaluate_eq_calculate_faults :
    (∃ tree,
      Expr.parse "9223372036854775807 + 1 - 6 / 0" .assembly = .ok tree ∧
        tree.evaluate { symbols := {} } = .error .overflow) ∧
    ∃ tree, Expr.parse "7 - 2 * 3 & 5 | 8 / 2 - 9" .expression = .ok tree ∧
      tree.evaluate { symbols := {} } = .ok (.plain (-3)) := by
  have faulty := evaluate_eq_calculate { symbols := {} }
    (by decide : Grammar.assembly ≠ .debugger) ⟨9223372036854775807, by decide⟩
    [(.add, ⟨1, by decide⟩), (.subtract, ⟨6, by decide⟩),
      (.divide, ⟨0, by decide⟩)]
  have sound := evaluate_eq_calculate { symbols := {} }
    (by decide : Grammar.expression ≠ .debugger) ⟨7, by decide⟩
    [(.subtract, ⟨2, by decide⟩), (.multiply, ⟨3, by decide⟩),
      (.bitAnd, ⟨5, by decide⟩), (.bitOr, ⟨8, by decide⟩),
      (.divide, ⟨2, by decide⟩), (.subtract, ⟨9, by decide⟩)]
  exact ⟨faulty, sound⟩

end Whirlwind.Calculator
