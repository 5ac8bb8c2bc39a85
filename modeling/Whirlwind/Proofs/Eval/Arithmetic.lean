import Whirlwind.Eval.Basic
import Whirlwind.Proofs.Machine.Integer

/-!
# Arithmetic expressions

Expressions of names, numbers, signs and operators on integers.  Without bounds
each of them has a value (`Expr.unbounded`).  Whether the machine can find it
shows at the nodes of the expression, each of which is sound or fails by itself
(`Expr.IsSound`, `Expr.failure?`).
-/

namespace Whirlwind

/-- What an operator does with integers without bounds. -/
def BinaryOp.onIntegers? : BinaryOp → Option (Int → Int → Int)
  | .plus => some fun left right => left + right
  | .minus => some fun left right => left - right
  | .multiply => some fun left right => left * right
  | .divide => some Int.fdiv
  | .bitAnd => some Int.land
  | .bitOr => some Int.lor
  | .dot | .comma | .assign => none

namespace Environment

/-- There is a register or a symbol with a name. -/
def Defines (environment : Environment) (name : String) : Prop :=
  environment.readRegister name ≠ none ∨ environment.symbols.get? name ≠ none

instance (environment : Environment) (name : String) :
    Decidable (environment.Defines name) :=
  inferInstanceAs (Decidable (_ ∨ _))

/-- The number that a name stands for.  A register comes before a symbol. -/
def number (environment : Environment) (name : String) : Int :=
  match environment.readRegister name, environment.symbols.get? name with
  | some number, _ => number.toInt
  | none, some number => number.toInt
  | none, none => 0

end Environment

namespace Expr

/-- The base and the digits of a number, with or without a radix mark. -/
def literal? : Expr → Option (Nat × List Char)
  | .digits text =>
      match text.toList with
      | '0' :: 'o' :: written => some (8, written)
      | '0' :: 'x' :: written => some (16, written)
      | written => some (10, written)
  | .unary .octal (.digits text) => some (8, text.toList)
  | .unary .hexadecimal (.digits text) => some (16, text.toList)
  | _ => none

/-- An expression of numbers, names, signs and operators on integers. -/
inductive IsArithmetic : Expr → Prop
  | literal {leaf : Expr} {base : Nat} {written : List Char}
      (reads : leaf.literal? = some (base, written))
      (decimal : base = 10 →
        written ≠ [] ∧ ∀ digit ∈ written, digit.isDigit = true) :
      IsArithmetic leaf
  | identifier (name : String) : IsArithmetic (.identifier name)
  | plus {operand : Expr} (inner : IsArithmetic operand) :
      IsArithmetic (.unary .plus operand)
  | minus {operand : Expr} (inner : IsArithmetic operand) :
      IsArithmetic (.unary .minus operand)
  | binary {op : BinaryOp} {combine : Int → Int → Int} {left right : Expr}
      (computes : op.onIntegers? = some combine) (first : IsArithmetic left)
      (second : IsArithmetic right) : IsArithmetic (.binary op left right)

/-- The value of an expression without bounds. -/
def unbounded (environment : Environment) : Expr → Int
  | .identifier name => environment.number name
  | .unary .plus operand => operand.unbounded environment
  | .unary .minus operand => -operand.unbounded environment
  | .binary op left right =>
      match op.onIntegers? with
      | some combine =>
          combine (left.unbounded environment) (right.unbounded environment)
      | none => 0
  | leaf =>
      match leaf.literal? with
      | some (base, written) => Integer.valueOf base written
      | none => 0

/--
The sub-expressions in the order in which their values are found, a number with
its radix mark as one.
-/
def nodes : Expr → List Expr
  | .unary .plus operand => operand.nodes ++ [.unary .plus operand]
  | .unary .minus operand => operand.nodes ++ [.unary .minus operand]
  | .binary op left right =>
      left.nodes ++ right.nodes ++ [.binary op left right]
  | leaf => [leaf]

/-- An expression without the plus signs in front of it. -/
def bare : Expr → Expr
  | .unary .plus operand => operand.bare
  | expr => expr

/--
A node by itself stands in the way of no value: as a name it is defined, as a
number it has digits of its base only, as a quotient its divisor is not zero,
and its value is in range.
-/
structure IsSound (environment : Environment) (node : Expr) : Prop where
  defined : ∀ name, node = .identifier name → environment.Defines name
  numeral : ∀ base written, node.literal? = some (base, written) →
    Integer.IsNumeral base written
  divisor : ∀ left right, node = .binary .divide left right →
    right.unbounded environment ≠ 0
  range : Integer.InRange (node.unbounded environment)

/-- The error of a number that is out of range. -/
def overflow? (number : Int) : Option EvalError :=
  if Integer.InRange number then none else some .overflow

/-- The error that a node is by itself, if it is one. -/
def failure? (environment : Environment) (node : Expr) : Option EvalError :=
  match node with
  | .identifier name =>
      if environment.Defines name then overflow? (node.unbounded environment)
      else some (.undefinedSymbol name)
  | .binary .divide _ right =>
      if right.unbounded environment = 0 then some .divisionByZero
      else overflow? (node.unbounded environment)
  | leaf =>
      match leaf.literal? with
      | some (base, written) =>
          if Integer.IsNumeral base written then
            overflow? (node.unbounded environment)
          else some (.badDigit (String.ofList written) base)
      | none => overflow? (node.unbounded environment)

@[simp]
theorem overflow?_eq_none_iff {number : Int} :
    overflow? number = none ↔ Integer.InRange number := by
  simp [overflow?]

/-- A node is sound, or it fails by itself. -/
@[simp]
theorem failure?_eq_none_iff {environment : Environment} {node : Expr} :
    node.failure? environment = none ↔ node.IsSound environment := by
  unfold failure?
  split
  · next name =>
    split
    · next defined =>
      rw [overflow?_eq_none_iff]
      refine ⟨fun range => ⟨?_, nofun, nofun, range⟩, IsSound.range⟩
      rintro _ ⟨⟩
      exact defined
    · next undefined =>
      exact ⟨nofun, fun sound => absurd (sound.defined name rfl) undefined⟩
  · next left right =>
    split
    · next zero =>
      exact ⟨nofun, fun sound => absurd zero (sound.divisor left right rfl)⟩
    · next divisible =>
      rw [overflow?_eq_none_iff]
      refine ⟨fun range => ⟨nofun, nofun, ?_, range⟩, IsSound.range⟩
      rintro _ _ ⟨⟩
      exact divisible
  · next noName noQuotient =>
    have sound : (∀ base written, node.literal? = some (base, written) →
        Integer.IsNumeral base written) →
        Integer.InRange (node.unbounded environment) →
        node.IsSound environment := fun numeral range =>
      ⟨fun name same => (noName name same).elim, numeral,
        fun left right same => (noQuotient left right same).elim, range⟩
    split
    · next base written reads =>
      split
      · next numeral =>
        rw [overflow?_eq_none_iff]
        refine ⟨sound ?_, IsSound.range⟩
        intro base written again
        rcases Option.some.inj (reads.symm.trans again) with ⟨⟩
        exact numeral
      · next mixed =>
        exact ⟨nofun, fun sound => absurd (sound.numeral _ _ reads) mixed⟩
    · next plain =>
      rw [overflow?_eq_none_iff]
      refine ⟨sound fun base written reads => ?_, IsSound.range⟩
      exact nomatch plain.symm.trans reads

end Expr

end Whirlwind
