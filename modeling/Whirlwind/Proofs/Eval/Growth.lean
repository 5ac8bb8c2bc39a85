import Whirlwind.Proofs.Eval.Exact
import Whirlwind.Proofs.Eval.Symbols

/-!
# Evaluation while the symbol table grows

A name that nothing is known of shows in a result only as an unknown value or as
the error that it is undefined.  So a result without it stays what it is when
names are defined, and in a value with unknown names those are replaced that
have become addresses (`Expr.evaluate_after`).
-/

namespace Whirlwind

/-! ## Unknown names in values -/

namespace Value

mutual

/-- Whether a value is an unknown name, or a list with one at any depth. -/
def isOpen : Value → Bool
  | .undefined _ => true
  | .list items => anyOpen items
  | .integer _ _ | .negativeZero | .fraction _ | .string _ => false

/-- Whether one of some values is an unknown name, or has one in it. -/
def anyOpen : List Value → Bool
  | [] => false
  | value :: rest => isOpen value || anyOpen rest

end

mutual

/-- A value with the addresses of those unknown names in it that a table has. -/
def filled (table : SymbolTable) : Value → Value
  | .undefined name =>
      match table.get? name with
      | some number => .integer number true
      | none => .undefined name
  | .list items => .list (allFilled table items)
  | .integer number isAddress => .integer number isAddress
  | .negativeZero => .negativeZero
  | .fraction number => .fraction number
  | .string text => .string text

/-- Values with the addresses of those unknown names in them that a table
has. -/
def allFilled (table : SymbolTable) : List Value → List Value
  | [] => []
  | value :: rest => filled table value :: allFilled table rest

end

mutual

theorem filled_of_not_isOpen {table : SymbolTable} :
    (value : Value) → value.isOpen = false → value.filled table = value
  | .undefined _, known => by
      rw [isOpen] at known
      cases known
  | .list items, known => by
      rw [isOpen] at known
      rw [filled, allFilled_of_not_anyOpen items known]
  | .integer _ _, _ => by rw [filled]
  | .negativeZero, _ => by rw [filled]
  | .fraction _, _ => by rw [filled]
  | .string _, _ => by rw [filled]

theorem allFilled_of_not_anyOpen {table : SymbolTable} :
    (values : List Value) → anyOpen values = false →
      allFilled table values = values
  | [], _ => by rw [allFilled]
  | value :: rest, known => by
      rw [anyOpen, Bool.or_eq_false_iff] at known
      rw [allFilled, filled_of_not_isOpen value known.1,
        allFilled_of_not_anyOpen rest known.2]

end

end Value

/-- A name that becomes known becomes an address.  What a name stood for before,
it stands for still. -/
theorem Environment.lookup_after (table : SymbolTable)
    (readRegister : String → Option Int64)
    (definitions : List (String × Int64)) (name : String) :
    lookup ⟨table.after definitions, readRegister⟩ name =
      (lookup ⟨table, readRegister⟩ name).filled (table.after definitions) := by
  simp only [lookup]
  cases readRegister name with
  | some number => rfl
  | none =>
      cases symbol : table.get? name with
      | some number =>
          rw [SymbolTable.get?_after symbol definitions]
          rfl
      | none => rfl

namespace Eval

/-! ## Results that carry over -/

/--
A result carries over if what it holds is only filled in.  An error carries over
as it is, unless it is that a name is undefined, behind which anything can
follow.
-/
inductive CarriesOver {Before After : Type} (fill : Before → After) :
    Except EvalError Before → Except EvalError After → Prop
  | value (value : Before) : CarriesOver fill (.ok value) (.ok (fill value))
  | error (error : EvalError) : CarriesOver fill (.error error) (.error error)
  | undefined (name : String) (after : Except EvalError After) :
      CarriesOver fill (.error (.undefinedSymbol name)) after

/-- What does not depend on names carries over. -/
theorem CarriesOver.of_forall {Result : Type} {fill : Result → Result}
    {result : Except EvalError Result}
    (fixed : ∀ value, result = .ok value → fill value = value) :
    CarriesOver fill result result := by
  cases result with
  | error error => exact .error error
  | ok value =>
      have carried : CarriesOver fill (.ok value) (.ok (fill value)) :=
        .value value
      rwa [fixed value rfl] at carried

theorem CarriesOver.bind {Before After NextBefore NextAfter : Type}
    {fill : Before → After} {fillNext : NextBefore → NextAfter}
    {before : Except EvalError Before} {after : Except EvalError After}
    {nextBefore : Before → Except EvalError NextBefore}
    {nextAfter : After → Except EvalError NextAfter}
    (carried : CarriesOver fill before after)
    (next : ∀ value, CarriesOver fillNext (nextBefore value)
      (nextAfter (fill value))) :
    CarriesOver fillNext (before >>= nextBefore) (after >>= nextAfter) := by
  cases carried with
  | value value => exact next value
  | error error => exact .error error
  | undefined name after => exact .undefined name _

variable {table : SymbolTable}

/-- Where an integer is needed, only an unknown name asks for more names. -/
theorem carriesOver_integerOperand (op : BinaryOp) (value : Value) :
    CarriesOver id (integerOperand op value)
      (integerOperand op (value.filled table)) := by
  cases value with
  | undefined name => exact .undefined name _
  | integer number isAddress => exact .value number
  | negativeZero => exact .value 0
  | fraction | string | list => exact .error _

theorem carriesOver_plain (result : Except EvalError Int64) :
    CarriesOver (Value.filled table) (.plain <$> result)
      (.plain <$> result) := by
  refine .of_forall fun value found => ?_
  cases result with
  | error error => cases found
  | ok number =>
      rcases Except.ok.inj found with rfl
      rfl

theorem carriesOver_arithmetic (op : BinaryOp)
    (compute : Int64 → Int64 → Except EvalError Int64)
    {leftBefore leftAfter rightBefore rightAfter : Except EvalError Value}
    (left : CarriesOver (Value.filled table) leftBefore leftAfter)
    (right : CarriesOver (Value.filled table) rightBefore rightAfter) :
    CarriesOver (Value.filled table)
      (arithmetic op compute leftBefore rightBefore)
      (arithmetic op compute leftAfter rightAfter) := by
  rw [arithmetic_eq, arithmetic_eq]
  refine (left.bind (carriesOver_integerOperand op)).bind fun leftNumber => ?_
  refine (right.bind (carriesOver_integerOperand op)).bind fun rightNumber => ?_
  exact carriesOver_plain _

theorem carriesOver_negated (value : Value) :
    CarriesOver (Value.filled table) (negated value)
      (negated (value.filled table)) := by
  cases value with
  | undefined name => exact .undefined name _
  | integer number isAddress =>
      rw [Value.filled, negated]
      split
      · exact .value Value.negativeZero
      · exact carriesOver_plain _
  | negativeZero => exact .value (Value.plain 0)
  | fraction number => exact .value (Value.fraction number.negate)
  | string | list => exact .error _

theorem carriesOver_number (raw : String) :
    CarriesOver (Value.filled table) (number raw) (number raw) := by
  unfold number
  split
  · next digits _ =>
    refine .of_forall fun value found => ?_
    cases size : magnitude raw digits with
    | error error =>
        rw [size] at found
        cases found
    | ok magnitude =>
        rw [size] at found
        rcases Except.ok.inj found with rfl
        split <;> rfl
  · exact carriesOver_plain _
  · exact carriesOver_plain _

theorem carriesOver_marked (op : UnaryOp) (radix : Nat) (operand : Expr) :
    CarriesOver (Value.filled table) (marked op radix operand)
      (marked op radix operand) := by
  unfold marked
  split
  · exact carriesOver_plain _
  · exact .error _

theorem carriesOver_fraction (negative : Bool) (whole digits : String) :
    CarriesOver (Value.filled table) (fraction negative whole digits)
      (fraction negative whole digits) := by
  simp only [fraction]
  split
  · split
    · exact .value _
    · exact .error _
  · exact .error _

theorem carriesOver_qualified (left right : Expr) :
    CarriesOver (Value.filled table) (qualified left right)
      (qualified left right) := by
  unfold qualified
  split
  · exact .value _
  · exact .error _

theorem carriesOver_dotted (left right : Expr) :
    CarriesOver (Value.filled table) (dotted left right)
      (dotted left right) := by
  unfold dotted
  split
  · split
    · exact carriesOver_fraction _ _ _
    · exact carriesOver_qualified _ _
  · split
    · exact carriesOver_fraction _ _ _
    · exact carriesOver_qualified _ _
  · split
    · exact carriesOver_plain _
    · exact carriesOver_qualified _ _
  · exact carriesOver_qualified _ _

theorem laterItems_of_ne_list {value : Value} (right : Expr)
    (single : ∀ items, value ≠ .list items) :
    laterItems right value = [value] := by
  unfold laterItems
  split
  · exact absurd rfl (single _)
  · rfl

/-- The items behind the first comma are filled in one by one. -/
theorem laterItems_filled (right : Expr) (value : Value) :
    laterItems right (value.filled table) =
      Value.allFilled table (laterItems right value) := by
  have alone (single : ∀ items, value ≠ .list items)
      (still : ∀ items, value.filled table ≠ .list items) :
      laterItems right (value.filled table) =
        Value.allFilled table (laterItems right value) := by
    rw [laterItems_of_ne_list right single, laterItems_of_ne_list right still,
      Value.allFilled, Value.allFilled]
  cases value with
  | list items =>
      cases right with
      | binary op => cases op <;> rfl
      | unary | apply | identifier | string | digits => rfl
  | undefined name =>
      refine alone nofun fun items => ?_
      rw [Value.filled]
      split <;> nofun
  | integer | negativeZero | fraction | string =>
      exact alone nofun nofun

end Eval

namespace Expr

/-- The result of an evaluation carries over to a table that has grown. -/
theorem carriesOver_evaluate (readRegister : String → Option Int64)
    (table : SymbolTable) (definitions : List (String × Int64))
    (expr : Expr) :
    Eval.CarriesOver (Value.filled (table.after definitions))
      (expr.evaluate ⟨table, readRegister⟩)
      (expr.evaluate ⟨table.after definitions, readRegister⟩) := by
  induction expr with
  | digits raw =>
      rw [evaluate, evaluate]
      exact Eval.carriesOver_number raw
  | string text =>
      rw [evaluate, evaluate]
      exact .value (Value.string text)
  | identifier name =>
      rw [evaluate, evaluate, Environment.lookup_after]
      exact .value _
  | unary op operand ih =>
      cases op with
      | plus =>
          rw [evaluate, evaluate]
          exact ih
      | minus =>
          rw [evaluate, evaluate]
          exact ih.bind Eval.carriesOver_negated
      | octal | hexadecimal =>
          rw [evaluate, evaluate]
          exact Eval.carriesOver_marked _ _ operand
  | apply callee arguments =>
      rw [evaluate, evaluate]
      exact .error _
  | binary op left right ihLeft ihRight =>
      cases op with
      | plus | minus | multiply | divide | bitAnd | bitOr =>
          rw [evaluate, evaluate]
          exact Eval.carriesOver_arithmetic _ _ ihLeft ihRight
      | dot =>
          rw [evaluate, evaluate]
          exact Eval.carriesOver_dotted left right
      | assign =>
          rw [evaluate, evaluate]
          exact .error _
      | comma =>
          rw [evaluate, evaluate]
          refine ihLeft.bind fun first => ?_
          refine ihRight.bind fun rest => ?_
          rw [Eval.laterItems_filled]
          exact .value (Value.list (first :: Eval.laterItems right rest))

/--
A result without unknown names stays what it is when the symbol table grows, and
so does an error other than that a name is undefined.  In a value with unknown
names those become addresses that the table then has.
-/
theorem evaluate_after (expr : Expr) (readRegister : String → Option Int64)
    (table : SymbolTable) (definitions : List (String × Int64)) :
    (∀ value, expr.evaluate ⟨table, readRegister⟩ = .ok value →
      value.isOpen = false →
      expr.evaluate ⟨table.after definitions, readRegister⟩ = .ok value) ∧
    (∀ error, expr.evaluate ⟨table, readRegister⟩ = .error error →
      (∀ name, error ≠ .undefinedSymbol name) →
      expr.evaluate ⟨table.after definitions, readRegister⟩ =
        .error error) ∧
    ∀ value, expr.evaluate ⟨table, readRegister⟩ = .ok value →
      value.isOpen = true →
      expr.evaluate ⟨table.after definitions, readRegister⟩ =
        .ok (value.filled (table.after definitions)) := by
  have carried := expr.carriesOver_evaluate readRegister table definitions
  generalize expr.evaluate ⟨table, readRegister⟩ = before at carried ⊢
  generalize expr.evaluate ⟨table.after definitions, readRegister⟩ = result
    at carried ⊢
  cases carried with
  | value found =>
      refine ⟨?_, nofun, ?_⟩
      · rintro _ ⟨⟩ known
        rw [Value.filled_of_not_isOpen found known]
      · rintro _ ⟨⟩ _
        rfl
  | error failed =>
      refine ⟨nofun, ?_, nofun⟩
      rintro _ ⟨⟩ _
      rfl
  | undefined name after =>
      refine ⟨nofun, ?_, nofun⟩
      rintro _ ⟨⟩ other
      exact absurd rfl (other name)

/--
One of two unknown names in a list becomes known, and a definition that would
change a known one is refused.
-/
theorem evaluate_after_partly :
    ∃ (table : SymbolTable) (expr : Expr),
      expr = .binary .comma (.binary .plus (.identifier "a") (.digits "1"))
        (.binary .comma (.identifier "b") (.identifier "c")) ∧
      expr.evaluate ⟨table, fun _ => none⟩ =
        .ok (.list [.plain 2, .undefined "b", .undefined "c"]) ∧
      expr.evaluate ⟨table.after [("b", 5), ("a", 7)], fun _ => none⟩ =
        .ok (.list [.plain 2, .integer 5 true, .undefined "c"]) := by
  let table : SymbolTable := ⟨[("a", 1)]⟩
  let expr : Expr :=
    .binary .comma (.binary .plus (.identifier "a") (.digits "1"))
      (.binary .comma (.identifier "b") (.identifier "c"))
  have before : expr.evaluate ⟨table, fun _ => none⟩ =
      .ok (.list [.plain 2, .undefined "b", .undefined "c"]) := by
    rfl
  have grown := (expr.evaluate_after (fun _ => none) table
    [("b", 5), ("a", 7)]).2.2 _ before rfl
  exact ⟨table, expr, rfl, before, grown⟩

end Expr

end Whirlwind
