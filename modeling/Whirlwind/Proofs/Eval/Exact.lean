import Whirlwind.Proofs.Eval.Arithmetic

/-!
# Arithmetic is exact

An arithmetic expression has an integer value just if all its nodes are sound,
and then the value is the one without bounds.  If not, the first node that fails
tells the error (`Expr.evaluate_exact`).  A name that nothing is known of is
refused by what needs its number, so an expression that is such a name has a
value that is no integer.
-/

namespace Whirlwind

namespace Environment

variable {environment : Environment} {name : String}

theorem lookup_of_defines (defined : environment.Defines name) :
    ∃ (number : Int64) (isAddress : Bool),
      environment.lookup name = .integer number isAddress ∧
        number.toInt = environment.number name := by
  unfold lookup Environment.number
  cases register : environment.readRegister name with
  | some number => exact ⟨number, false, rfl, rfl⟩
  | none =>
      cases symbol : environment.symbols.get? name with
      | some number => exact ⟨number, true, rfl, rfl⟩
      | none => simp [Defines, register, symbol] at defined

theorem lookup_of_not_defines (unknown : ¬environment.Defines name) :
    environment.lookup name = .undefined name := by
  simp only [Defines, ne_eq, not_or, not_not] at unknown
  rw [lookup, unknown.1, unknown.2]

theorem lookup_ne_negativeZero (environment : Environment) :
    environment.lookup name ≠ .negativeZero := by
  by_cases defined : environment.Defines name
  · rcases lookup_of_defines defined with ⟨_, _, found, _⟩
    rw [found]
    nofun
  · rw [lookup_of_not_defines defined]
    nofun

end Environment

namespace Eval

/-- A result is exact, or it is the error that its number is. -/
inductive Computes (result : Except EvalError Int64) (number : Int)
    (failure? : Option EvalError) : Prop
  | exact {value : Int64} (run : result = .ok value)
      (exact : value.toInt = number) (sound : failure? = none)
  | fails {error : EvalError} (run : result = .error error)
      (failing : failure? = some error)

/-- A result is in range and exact, or an overflow. -/
theorem computes_inRange (number : Int) :
    Computes (inRange number) number (Expr.overflow? number) := by
  by_cases range : Integer.InRange number
  · have found : Integer.ofInt? number = some (Int64.ofInt number) :=
      if_pos range
    exact .exact (by rw [inRange, found]) (Integer.toInt_of_ofInt? found)
      (if_pos range)
  · have lost : Integer.ofInt? number = none := if_neg range
    exact .fails (by rw [inRange, lost]) (if_neg range)

/-- A result of 64 bits is in range. -/
theorem computes_ok {number : Int} {value : Int64}
    (exact : value.toInt = number) :
    Computes (.ok value) number (Expr.overflow? number) :=
  .exact rfl exact
    (Expr.overflow?_eq_none_iff.2 (exact ▸ Integer.inRange_toInt value))

theorem digitsIn_eq (base : Nat) (digits : List Char) :
    digitsIn base digits =
      if Integer.IsNumeral base digits then
        inRange (Integer.valueOf base digits)
      else .error (.badDigit (String.ofList digits) base) := by
  by_cases numeral : Integer.IsNumeral base digits <;>
    simp [digitsIn, Integer.numeral?_eq, numeral]

/-- Decimal digits have no radix mark among them. -/
theorem magnitude_decimal {raw : String} {written : List Char}
    (filled : written ≠ [])
    (decimal : ∀ digit ∈ written, digit.isDigit = true) :
    magnitude raw written = digitsIn 10 written := by
  unfold magnitude
  split
  · exact absurd (decimal 'o' (by simp)) (by decide)
  · exact absurd (decimal 'x' (by simp)) (by decide)
  · have numeric : (!written.isEmpty && written.all Char.isDigit) = true := by
      rw [Bool.and_eq_true, List.all_eq_true, Bool.not_eq_true',
        List.isEmpty_eq_false_iff]
      exact ⟨filled, decimal⟩
    rw [if_pos numeric]

/-- Decimal digits have no sign in front of them. -/
theorem number_decimal {text : String} (filled : text.toList ≠ [])
    (decimal : ∀ digit ∈ text.toList, digit.isDigit = true) :
    number text = .plain <$> digitsIn 10 text.toList := by
  unfold number
  split
  · next signed =>
    exact absurd (decimal '-' (signed ▸ List.mem_cons_self)) (by decide)
  · next signed =>
    exact absurd (decimal '+' (signed ▸ List.mem_cons_self)) (by decide)
  · rw [magnitude_decimal filled decimal]

/-- The error that an operator on two integers is by itself, if it is one. -/
def failure? (op : BinaryOp) (combine : Int → Int → Int) (left right : Int) :
    Option EvalError :=
  if op = .divide ∧ right = 0 then some .divisionByZero
  else Expr.overflow? (combine left right)

/-- An operator of arithmetic finds what it does with integers. -/
theorem exists_computes {op : BinaryOp} {combine : Int → Int → Int}
    (computes : op.onIntegers? = some combine) :
    ∃ compute : Int64 → Int64 → Except EvalError Int64,
      (∀ environment left right,
        (Expr.binary op left right).evaluate environment =
          arithmetic op compute (left.evaluate environment)
            (right.evaluate environment)) ∧
      ∀ left right : Int64, Computes (compute left right)
        (combine left.toInt right.toInt)
        (failure? op combine left.toInt right.toInt) := by
  cases op with
  | plus =>
      rcases Option.some.inj computes with rfl
      exact ⟨sum, fun _ _ _ => by rw [Expr.evaluate],
        fun _ _ => computes_inRange _⟩
  | minus =>
      rcases Option.some.inj computes with rfl
      exact ⟨difference, fun _ _ _ => by rw [Expr.evaluate],
        fun _ _ => computes_inRange _⟩
  | multiply =>
      rcases Option.some.inj computes with rfl
      exact ⟨product, fun _ _ _ => by rw [Expr.evaluate],
        fun _ _ => computes_inRange _⟩
  | divide =>
      rcases Option.some.inj computes with rfl
      refine ⟨quotient, fun _ _ _ => by rw [Expr.evaluate],
        fun left right => ?_⟩
      have zero : right = 0 ↔ right.toInt = 0 := Int64.toInt_inj.symm
      by_cases divisor : right = 0
      · exact .fails (if_pos divisor) (if_pos ⟨rfl, zero.1 divisor⟩)
      · have divisible : ¬(BinaryOp.divide = .divide ∧ right.toInt = 0) :=
          fun both => divisor (zero.2 both.2)
        rw [quotient, if_neg divisor, failure?, if_neg divisible]
        exact computes_inRange _
  | bitAnd =>
      rcases Option.some.inj computes with rfl
      exact ⟨common, fun _ _ _ => by rw [Expr.evaluate],
        fun left right => computes_ok (Integer.toInt_and left right)⟩
  | bitOr =>
      rcases Option.some.inj computes with rfl
      exact ⟨either, fun _ _ _ => by rw [Expr.evaluate],
        fun left right => computes_ok (Integer.toInt_or left right)⟩
  | dot | comma | assign => cases computes

/-- Both operands have to be integers, the left one first. -/
theorem arithmetic_eq (op : BinaryOp)
    (compute : Int64 → Int64 → Except EvalError Int64)
    (left right : Except EvalError Value) :
    arithmetic op compute left right =
      (left >>= integerOperand op) >>= fun leftNumber =>
        (right >>= integerOperand op) >>= fun rightNumber =>
          .plain <$> compute leftNumber rightNumber := by
  simp only [arithmetic, bind_assoc, map_eq_pure_bind]

/-- The integer that a value counts as is what operators take. -/
theorem integerOperand_of_toInteger? {op : BinaryOp} {value : Value}
    {number : Int64} (counts : value.toInteger? = some number) :
    integerOperand op value = .ok number := by
  cases value with
  | integer | negativeZero => exact congrArg Except.ok (Option.some.inj counts)
  | fraction | string | list | undefined => cases counts

/-- Changing the sign of an integer is exact, or it overflows. -/
theorem negated_cases {value : Value} {number : Int64}
    (counts : value.toInteger? = some number) :
    (∃ changed opposite, negated value = .ok changed ∧
      changed.toInteger? = some opposite ∧ opposite.toInt = -number.toInt ∧
      Expr.overflow? (-number.toInt) = none) ∨
    ∃ error, negated value = .error error ∧
      Expr.overflow? (-number.toInt) = some error := by
  cases value with
  | integer found isAddress =>
      rcases Option.some.inj counts with rfl
      by_cases zero : found = 0
      · subst zero
        exact Or.inl ⟨.negativeZero, 0, rfl, rfl, by decide, by decide⟩
      · rw [negated, if_neg zero]
        cases computes_inRange (-found.toInt) with
        | exact run exact sound =>
            rw [run]
            exact Or.inl ⟨_, _, rfl, rfl, exact, sound⟩
        | fails run failing =>
            rw [run]
            exact Or.inr ⟨_, rfl, failing⟩
  | negativeZero =>
      rcases Option.some.inj counts with rfl
      exact Or.inl ⟨.plain 0, 0, rfl, rfl, by decide, by decide⟩
  | fraction | string | list | undefined => cases counts

end Eval

namespace Expr

variable {environment : Environment} {tree operand left right : Expr}

/--
How an expression evaluates: to the integer that it has without bounds, to a
name that nothing is known of, or to the error of the first node that fails.
-/
inductive Evaluates (environment : Environment) (tree : Expr) : Prop
  | exact {value : Value} {number : Int64}
      (run : tree.evaluate environment = .ok value)
      (counts : value.toInteger? = some number)
      (exact : number.toInt = tree.unbounded environment)
      (first : tree.nodes.findSome? (failure? environment) = none)
  | undefined {name : String}
      (run : tree.evaluate environment = .ok (.undefined name))
      (bare : tree.bare = .identifier name)
      (unknown : ¬environment.Defines name)
      (first : tree.nodes.findSome? (failure? environment) =
        some (.undefinedSymbol name))
  | fails {error : EvalError}
      (run : tree.evaluate environment = .error error)
      (known : ∀ name, tree.bare = .identifier name →
        environment.Defines name)
      (first : tree.nodes.findSome? (failure? environment) = some error)

/-! ## Leaves -/

theorem evaluate_of_literal? (environment : Environment) {base : Nat}
    {written : List Char}
    (reads : tree.literal? = some (base, written))
    (decimal : base = 10 →
      written ≠ [] ∧ ∀ digit ∈ written, digit.isDigit = true) :
    tree.evaluate environment = .plain <$> Eval.digitsIn base written := by
  unfold literal? at reads
  split at reads
  · next text =>
    rw [evaluate]
    split at reads
    · next octal =>
      rcases Option.some.inj reads with ⟨⟩
      rw [Eval.number, octal]
      rfl
    · next hexadecimal =>
      rcases Option.some.inj reads with ⟨⟩
      rw [Eval.number, hexadecimal]
      rfl
    · rcases Option.some.inj reads with ⟨⟩
      rcases decimal rfl with ⟨filled, digits⟩
      exact Eval.number_decimal filled digits
  · rcases Option.some.inj reads with ⟨⟩
    rfl
  · rcases Option.some.inj reads with ⟨⟩
    rfl
  · cases reads

/-- A number is a leaf, which stands for the number that its digits tell. -/
theorem leaf_of_literal? (environment : Environment) {base : Nat}
    {written : List Char} (reads : tree.literal? = some (base, written)) :
    tree.nodes = [tree] ∧ tree.bare = tree ∧
      tree.unbounded environment = Integer.valueOf base written ∧
      tree.failure? environment =
        if Integer.IsNumeral base written then
          overflow? (Integer.valueOf base written)
        else some (.badDigit (String.ofList written) base) := by
  have shape : (∃ text, tree = .digits text) ∨
      (∃ text, tree = .unary .octal (.digits text)) ∨
      ∃ text, tree = .unary .hexadecimal (.digits text) := by
    unfold literal? at reads
    split at reads
    · exact Or.inl ⟨_, rfl⟩
    · exact Or.inr (Or.inl ⟨_, rfl⟩)
    · exact Or.inr (Or.inr ⟨_, rfl⟩)
    · cases reads
  rcases shape with ⟨text, rfl⟩ | ⟨text, rfl⟩ | ⟨text, rfl⟩ <;>
    exact ⟨rfl, rfl, by simp [unbounded, reads],
      by simp [failure?, unbounded, reads]⟩

theorem evaluates_literal {base : Nat} {written : List Char}
    (reads : tree.literal? = some (base, written))
    (decimal : base = 10 →
      written ≠ [] ∧ ∀ digit ∈ written, digit.isDigit = true) :
    tree.Evaluates environment := by
  have run := evaluate_of_literal? environment reads decimal
  rcases leaf_of_literal? environment reads with
    ⟨nodes, bare, value, fails⟩
  have first : tree.nodes.findSome? (failure? environment) =
      tree.failure? environment := by
    rw [nodes, List.findSome?_singleton]
  rw [fails] at first
  have known : ∀ name, tree.bare = .identifier name →
      environment.Defines name := by
    intro name same
    rw [← bare, same] at reads
    cases reads
  rw [Eval.digitsIn_eq] at run
  split at first
  · next numeral =>
    rw [if_pos numeral] at run
    cases Eval.computes_inRange (Integer.valueOf base written) with
    | exact result exact sound =>
        rw [result] at run
        exact .exact run rfl (exact.trans value.symm) (first.trans sound)
    | fails result failing =>
        rw [result] at run
        exact .fails run known (first.trans failing)
  · next mixed =>
    rw [if_neg mixed] at run
    exact .fails run known first

theorem evaluates_identifier (name : String) :
    (identifier name).Evaluates environment := by
  have first : (identifier name).nodes.findSome? (failure? environment) =
      (identifier name).failure? environment :=
    List.findSome?_singleton
  by_cases defined : environment.Defines name
  · rcases Environment.lookup_of_defines defined with
      ⟨number, isAddress, found, exact⟩
    refine .exact (congrArg Except.ok found) rfl exact (first.trans ?_)
    rw [failure?, if_pos defined, overflow?_eq_none_iff]
    rw [unbounded, ← exact]
    exact Integer.inRange_toInt number
  · refine .undefined ?_ rfl defined (first.trans ?_)
    · rw [evaluate, Environment.lookup_of_not_defines defined]
    · rw [failure?, if_neg defined]

/-! ## Signs -/

theorem Evaluates.plus (evaluates : operand.Evaluates environment) :
    (unary .plus operand).Evaluates environment := by
  have nodes : (unary .plus operand).nodes.findSome? (failure? environment) =
      (operand.nodes.findSome? (failure? environment)).or
        (overflow? (operand.unbounded environment)) := by
    rw [Expr.nodes, List.findSome?_append, List.findSome?_singleton]
    rfl
  cases evaluates with
  | exact run counts exact first =>
      refine .exact run counts exact ?_
      rw [nodes, first, Option.none_or, overflow?_eq_none_iff, ← exact]
      exact Integer.inRange_toInt _
  | undefined run bare unknown first =>
      exact .undefined run bare unknown (by rw [nodes, first, Option.some_or])
  | fails run known first =>
      exact .fails run known (by rw [nodes, first, Option.some_or])

theorem Evaluates.minus (evaluates : operand.Evaluates environment) :
    (unary .minus operand).Evaluates environment := by
  have nodes : (unary .minus operand).nodes.findSome? (failure? environment) =
      (operand.nodes.findSome? (failure? environment)).or
        (overflow? (-operand.unbounded environment)) := by
    rw [Expr.nodes, List.findSome?_append, List.findSome?_singleton]
    rfl
  have unfolded : (unary .minus operand).evaluate environment =
      operand.evaluate environment >>= Eval.negated := by
    rw [evaluate]
  cases evaluates with
  | @exact value number run counts exact first =>
      rw [run] at unfolded
      rw [first, Option.none_or, ← exact] at nodes
      rcases Eval.negated_cases counts with
        ⟨changed, opposite, result, countsToo, opposed, sound⟩ |
        ⟨error, result, failing⟩
      · refine .exact (unfolded.trans result) countsToo ?_ (nodes.trans sound)
        rw [opposed, exact, unbounded]
      · exact .fails (unfolded.trans result) nofun (nodes.trans failing)
  | undefined run bare unknown first =>
      rw [run] at unfolded
      exact .fails unfolded nofun (by rw [nodes, first, Option.some_or])
  | fails run known first =>
      rw [run] at unfolded
      exact .fails unfolded nofun (by rw [nodes, first, Option.some_or])

/-! ## Operators -/

/-- An operand is the integer that it is exactly, or its error. -/
theorem Evaluates.computes (evaluates : tree.Evaluates environment)
    (op : BinaryOp) :
    Eval.Computes (tree.evaluate environment >>= Eval.integerOperand op)
      (tree.unbounded environment)
      (tree.nodes.findSome? (failure? environment)) := by
  cases evaluates with
  | exact run counts exact first =>
      rw [run]
      exact .exact (Eval.integerOperand_of_toInteger? counts) exact first
  | undefined run _ _ first =>
      rw [run]
      exact .fails rfl first
  | fails run _ first =>
      rw [run]
      exact .fails rfl first

theorem failure?_binary {op : BinaryOp} {combine : Int → Int → Int}
    (computes : op.onIntegers? = some combine) :
    (binary op left right).failure? environment =
      Eval.failure? op combine (left.unbounded environment)
        (right.unbounded environment) := by
  have value : (binary op left right).unbounded environment =
      combine (left.unbounded environment) (right.unbounded environment) := by
    simp [unbounded, computes]
  cases op with
  | divide => simp [failure?, Eval.failure?, value]
  | plus | minus | multiply | bitAnd | bitOr =>
      simp [failure?, Eval.failure?, literal?, value]
  | dot | comma | assign => cases computes

theorem Evaluates.binary {op : BinaryOp} {combine : Int → Int → Int}
    (computes : op.onIntegers? = some combine)
    (first : left.Evaluates environment)
    (second : right.Evaluates environment) :
    (Expr.binary op left right).Evaluates environment := by
  have nodes : (Expr.binary op left right).nodes.findSome?
        (failure? environment) =
      ((left.nodes.findSome? (failure? environment)).or
        (right.nodes.findSome? (failure? environment))).or
        (Eval.failure? op combine (left.unbounded environment)
          (right.unbounded environment)) := by
    rw [Expr.nodes, List.findSome?_append, List.findSome?_append,
      List.findSome?_singleton, failure?_binary computes]
  have value : (Expr.binary op left right).unbounded environment =
      combine (left.unbounded environment) (right.unbounded environment) := by
    simp [unbounded, computes]
  rcases Eval.exists_computes computes with ⟨compute, evaluates, result⟩
  have run := evaluates environment left right
  rw [Eval.arithmetic_eq] at run
  cases first.computes op with
  | fails runLeft failing =>
      rw [runLeft] at run
      exact .fails run nofun (by rw [nodes, failing, Option.some_or,
        Option.some_or])
  | @exact leftNumber runLeft exactLeft soundLeft =>
      rw [runLeft] at run
      rw [soundLeft, Option.none_or] at nodes
      cases second.computes op with
      | fails runRight failing =>
          rw [runRight] at run
          exact .fails run nofun (by rw [nodes, failing, Option.some_or])
      | @exact rightNumber runRight exactRight soundRight =>
          rw [runRight] at run
          rw [soundRight, Option.none_or, ← exactLeft, ← exactRight] at nodes
          rw [← exactLeft, ← exactRight] at value
          cases result leftNumber rightNumber with
          | exact found exact sound =>
              have runAll := run.trans (congrArg (Value.plain <$> ·) found)
              exact .exact runAll rfl (exact.trans value.symm)
                (nodes.trans sound)
          | fails found failing =>
              have runAll := run.trans (congrArg (Value.plain <$> ·) found)
              exact .fails runAll nofun (nodes.trans failing)

/-- Every arithmetic expression evaluates in one of the three ways. -/
theorem IsArithmetic.evaluates (environment : Environment)
    (arithmetic : tree.IsArithmetic) : tree.Evaluates environment := by
  induction arithmetic with
  | literal reads decimal => exact evaluates_literal reads decimal
  | identifier name => exact evaluates_identifier name
  | plus _ ih => exact ih.plus
  | minus _ ih => exact ih.minus
  | binary computes _ _ ihLeft ihRight => exact .binary computes ihLeft ihRight

/-! ## Negative zero -/

theorem evaluate_bare (tree : Expr) :
    tree.bare.evaluate environment = tree.evaluate environment := by
  fun_induction bare tree with
  | case1 operand ih => rw [ih, evaluate]
  | case2 => rfl

theorem bare_ne_plus (tree operand : Expr) :
    tree.bare ≠ .unary .plus operand := by
  fun_induction bare tree with
  | case1 _ ih => exact ih
  | case2 _ apart => exact apart operand

theorem IsArithmetic.bare (arithmetic : tree.IsArithmetic) :
    tree.bare.IsArithmetic := by
  fun_induction Expr.bare tree with
  | case1 operand ih =>
      cases arithmetic with
      | literal reads => cases reads
      | plus inner => exact ih inner
  | case2 => exact arithmetic

/-- A result of 64 bits is never negative zero. -/
theorem plain_ne_negativeZero (result : Except EvalError Int64) :
    Value.plain <$> result ≠ .ok .negativeZero := by
  cases result <;> nofun

theorem binary_ne_negativeZero {op : BinaryOp} {combine : Int → Int → Int}
    (computes : op.onIntegers? = some combine) (left right : Expr) :
    (binary op left right).evaluate environment ≠ .ok .negativeZero := by
  rcases Eval.exists_computes computes with ⟨compute, evaluates, -⟩
  rw [evaluates, Eval.arithmetic_eq]
  cases left.evaluate environment >>= Eval.integerOperand op with
  | error => nofun
  | ok leftNumber =>
      cases right.evaluate environment >>= Eval.integerOperand op with
      | error => nofun
      | ok rightNumber => exact plain_ne_negativeZero _

/-- Only zero becomes negative zero when its sign is changed. -/
@[simp]
theorem negated_eq_negativeZero_iff {value : Value} :
    Eval.negated value = .ok .negativeZero ↔
      ∃ isAddress, value = .integer 0 isAddress := by
  cases value with
  | integer number isAddress =>
      by_cases zero : number = 0
      · subst zero
        exact ⟨fun _ => ⟨isAddress, rfl⟩, fun _ => rfl⟩
      · rw [Eval.negated, if_neg zero]
        refine ⟨fun same => absurd same (plain_ne_negativeZero _), ?_⟩
        rintro ⟨_, ⟨⟩⟩
        exact absurd rfl zero
  | negativeZero | fraction | string | list | undefined =>
      exact ⟨nofun, fun ⟨_, same⟩ => nomatch same⟩

@[simp]
theorem minus_eq_negativeZero_iff (operand : Expr) :
    (unary .minus operand).evaluate environment = .ok .negativeZero ↔
      ∃ isAddress,
        operand.evaluate environment = .ok (.integer 0 isAddress) := by
  rw [evaluate]
  cases operand.evaluate environment with
  | error error => exact ⟨nofun, fun ⟨_, same⟩ => nomatch same⟩
  | ok value =>
      refine negated_eq_negativeZero_iff.trans (exists_congr fun _ => ?_)
      exact (Except.ok.injEq _ _).symm.to_iff

/-- Negative zero is what a minus sign makes of zero, and nothing else is. -/
theorem IsArithmetic.evaluate_eq_negativeZero_iff (environment : Environment)
    (arithmetic : tree.IsArithmetic) :
    tree.evaluate environment = .ok .negativeZero ↔
      ∃ operand isAddress, tree.bare = .unary .minus operand ∧
        operand.evaluate environment = .ok (.integer 0 isAddress) := by
  have arithmeticBare := arithmetic.bare
  have apart := bare_ne_plus tree
  rw [← evaluate_bare tree]
  generalize tree.bare = core at arithmeticBare apart
  cases arithmeticBare with
  | literal reads decimal =>
      rw [evaluate_of_literal? environment reads decimal]
      refine ⟨fun same => absurd same (plain_ne_negativeZero _), ?_⟩
      rintro ⟨operand, isAddress, rfl, _⟩
      cases reads
  | identifier name =>
      refine ⟨fun same => ?_, fun ⟨_, _, same, _⟩ => nomatch same⟩
      rw [evaluate] at same
      exact absurd (Except.ok.inj same) environment.lookup_ne_negativeZero
  | plus => exact absurd rfl (apart _)
  | @minus operand _ =>
      rw [minus_eq_negativeZero_iff]
      constructor
      · rintro ⟨isAddress, found⟩
        exact ⟨operand, isAddress, rfl, found⟩
      · rintro ⟨_, isAddress, ⟨⟩, found⟩
        exact ⟨isAddress, found⟩
  | binary computes _ _ =>
      refine ⟨fun same => absurd same (binary_ne_negativeZero computes _ _), ?_⟩
      rintro ⟨_, _, ⟨⟩, _⟩

/-- An expression has an integer value just if no node fails. -/
theorem Evaluates.isInteger_iff (evaluates : tree.Evaluates environment) :
    ((∃ number isAddress,
        tree.evaluate environment = .ok (.integer number isAddress)) ∨
      tree.evaluate environment = .ok .negativeZero) ↔
      tree.nodes.findSome? (failure? environment) = none := by
  cases evaluates with
  | @exact value number run counts _ first =>
      refine ⟨fun _ => first, fun _ => ?_⟩
      cases value with
      | integer found isAddress => exact Or.inl ⟨found, isAddress, run⟩
      | negativeZero => exact Or.inr run
      | fraction | string | list | undefined => cases counts
  | undefined run _ _ first =>
      rw [first, run]
      refine ⟨fun found => ?_, nofun⟩
      rcases found with ⟨_, _, same⟩ | same <;> cases same
  | fails run _ first =>
      rw [first, run]
      refine ⟨fun found => ?_, nofun⟩
      rcases found with ⟨_, _, same⟩ | same <;> cases same

/-- No node fails just if all of them are sound. -/
theorem sound_iff :
    tree.nodes.findSome? (failure? environment) = none ↔
      ∀ node ∈ tree.nodes, node.IsSound environment := by
  simp only [List.findSome?_eq_none_iff, failure?_eq_none_iff]

/--
Evaluation is exact.  An arithmetic expression has an integer value, negative
zero among them, just if each of its nodes is sound, and then it is the value
without bounds.  If not, the first node that fails tells the error, unless the
expression is a name that nothing is known of, with or without plus signs in
front of it.  Negative zero is what a minus sign makes of the integer zero.
-/
theorem evaluate_exact (environment : Environment)
    (arithmetic : tree.IsArithmetic) :
    (((∃ number isAddress,
          tree.evaluate environment = .ok (.integer number isAddress)) ∨
        tree.evaluate environment = .ok .negativeZero) ↔
      ∀ node ∈ tree.nodes, node.IsSound environment) ∧
    (∀ value number, tree.evaluate environment = .ok value →
      value.toInteger? = some number →
      number.toInt = tree.unbounded environment) ∧
    (∀ name, tree.bare = .identifier name → ¬environment.Defines name →
      tree.evaluate environment = .ok (.undefined name)) ∧
    ((¬∀ node ∈ tree.nodes, node.IsSound environment) →
      (∀ name, tree.bare = .identifier name → environment.Defines name) →
      ∃ error,
        tree.nodes.findSome? (failure? environment) = some error ∧
          tree.evaluate environment = .error error) ∧
    (tree.evaluate environment = .ok .negativeZero ↔
      ∃ operand isAddress, tree.bare = .unary .minus operand ∧
        operand.evaluate environment = .ok (.integer 0 isAddress)) := by
  have evaluates := arithmetic.evaluates environment
  rw [← sound_iff]
  refine ⟨evaluates.isInteger_iff, ?_, ?_, ?_,
    arithmetic.evaluate_eq_negativeZero_iff environment⟩
  · intro found number answers counts
    cases evaluates with
    | exact run countsToo exact _ =>
        rcases Except.ok.inj (run.symm.trans answers) with rfl
        rcases Option.some.inj (countsToo.symm.trans counts) with rfl
        exact exact
    | undefined run =>
        rcases Except.ok.inj (run.symm.trans answers) with rfl
        cases counts
    | fails run => cases run.symm.trans answers
  · intro name bare unknown
    rw [← evaluate_bare, bare, evaluate,
      Environment.lookup_of_not_defines unknown]
  · intro failing known
    cases evaluates with
    | exact _ _ _ first => exact absurd first failing
    | undefined _ bare unknown => exact absurd (known _ bare) unknown
    | fails run _ first => exact ⟨_, first, run⟩

/--
A quotient of mixed signs, rounded down, with a number added.  A name that
nothing is known of fails before the division by zero to its right.
-/
theorem evaluate_exact_quotient :
    ∃ environment : Environment, environment.symbols.get? "a" = some 3 ∧
      ∃ tree : Expr, tree = .binary .plus
          (.binary .divide (.identifier "a") (.unary .minus (.digits "2")))
          (.unary .hexadecimal (.digits "1F")) ∧
        tree.IsArithmetic ∧
        (∃ value number, tree.evaluate environment = .ok value ∧
          value.toInteger? = some number ∧ number.toInt = 29) ∧
        ∃ broken : Expr, broken =
            .binary .bitAnd (.unary .minus (.identifier "b"))
              (.binary .divide tree (.digits "0")) ∧
          broken.IsArithmetic ∧
          broken.evaluate environment = .error (.undefinedSymbol "b") := by
  let environment : Environment := { symbols := ⟨[("a", 3)]⟩ }
  let tree : Expr := .binary .plus
    (.binary .divide (.identifier "a") (.unary .minus (.digits "2")))
    (.unary .hexadecimal (.digits "1F"))
  let broken : Expr := .binary .bitAnd (.unary .minus (.identifier "b"))
    (.binary .divide tree (.digits "0"))
  have two := @IsArithmetic.literal (.digits "2") 10 ['2'] rfl (by simp)
  have zero := @IsArithmetic.literal (.digits "0") 10 ['0'] rfl (by simp)
  have mask := @IsArithmetic.literal (.unary .hexadecimal (.digits "1F")) 16
    ['1', 'F'] rfl nofun
  have arithmetic : tree.IsArithmetic :=
    .binary rfl (.binary rfl (.identifier "a") (.minus two)) mask
  have arithmeticBroken : broken.IsArithmetic :=
    .binary rfl (.minus (.identifier "b")) (.binary rfl arithmetic zero)
  have sound : ∀ node ∈ tree.nodes, node.IsSound environment :=
    sound_iff.1 (by decide)
  have failed : broken.nodes.findSome? (failure? environment) =
      some (.undefinedSymbol "b") := by
    decide
  refine ⟨environment, rfl, tree, rfl, arithmetic, ?_, broken, rfl,
    arithmeticBroken, ?_⟩
  · rcases evaluate_exact environment arithmetic with ⟨isInteger, exact, -⟩
    have value : tree.unbounded environment = 29 := by decide
    rcases isInteger.2 sound with ⟨number, isAddress, found⟩ | found
    · exact ⟨_, number, found, rfl, (exact _ number found rfl).trans value⟩
    · exact absurd ((exact _ 0 found rfl).trans value) (by decide)
  · rcases evaluate_exact environment arithmeticBroken with
      ⟨-, -, -, failing, -⟩
    have unsound : ¬∀ node ∈ broken.nodes, node.IsSound environment := by
      rw [← sound_iff, failed]
      nofun
    rcases failing unsound nofun with ⟨error, first, found⟩
    rcases Option.some.inj (failed.symm.trans first) with rfl
    exact found

end Expr

end Whirlwind
