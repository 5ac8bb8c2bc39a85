import Whirlwind.Token.Basic

/-!
# Expressions

Operands are trees of operators over names, strings and digit strings.  A chain
of commas that leans to the right is a list of arguments.  Digit strings are
kept as written; their radix is for the evaluator to decide.

Each operator belongs to a level of binding strength.  The parser and the
listing share these levels.
-/

namespace Whirlwind

/-- An operator between two operands. -/
inductive BinaryOp where
  | plus
  | minus
  | multiply
  | divide
  /-- Joins a name and a name in it, or the parts of a number. -/
  | dot
  | bitAnd
  | bitOr
  /-- Joins an argument and the arguments after it. -/
  | comma
  | assign
  deriving DecidableEq, Repr

/-- An operator in front of an operand. -/
inductive UnaryOp where
  | plus
  | minus
  | octal
  | hexadecimal
  deriving DecidableEq, Repr

/-- An expression. -/
inductive Expr where
  | binary (op : BinaryOp) (left right : Expr)
  | unary (op : UnaryOp) (operand : Expr)
  /-- A function applied to its arguments. -/
  | apply (callee arguments : Expr)
  | identifier (name : String)
  | string (text : String)
  | digits (text : String)
  deriving DecidableEq, Inhabited, Repr

/-- The levels of the operators between two operands, loosest first. -/
inductive Level where
  | comma
  | assignment
  | additive
  | multiplicative
  | bitAnd
  | bitOr
  | dot
  deriving DecidableEq, Repr

namespace Level

/-- How strongly the operators of a level bind. -/
def strength : Level → Nat
  | .comma => 1
  | .assignment => 2
  | .additive => 3
  | .multiplicative => 4
  | .bitAnd => 5
  | .bitOr => 6
  | .dot => 7

/-- The next stronger level, if operators between operands have one. -/
def tighter? : Level → Option Level
  | .comma => some .assignment
  | .assignment => some .additive
  | .additive => some .multiplicative
  | .multiplicative => some .bitAnd
  | .bitAnd => some .bitOr
  | .bitOr => some .dot
  | .dot => none

theorem strength_tighter {level tighter : Level}
    (next : level.tighter? = some tighter) :
    tighter.strength = level.strength + 1 := by
  cases level <;> cases next <;> rfl

theorem strength_le (level : Level) : level.strength ≤ 7 := by
  cases level <;> decide

/-- Whether operators of a level group to the right. -/
def groupsRight : Level → Bool
  | .comma | .assignment => true
  | .additive | .multiplicative | .bitAnd | .bitOr | .dot => false

/-- The operators of a level. -/
def operators : Level → List BinaryOp
  | .comma => [.comma]
  | .assignment => [.assign]
  | .additive => [.plus, .minus]
  | .multiplicative => [.multiply, .divide]
  | .bitAnd => [.bitAnd]
  | .bitOr => [.bitOr]
  | .dot => [.dot]

end Level

namespace BinaryOp

/-- The character that an operator is written with. -/
def mark : BinaryOp → Char
  | .plus => '+'
  | .minus => '-'
  | .multiply => '*'
  | .divide => '/'
  | .dot => '.'
  | .bitAnd => '&'
  | .bitOr => '|'
  | .comma => ','
  | .assign => '='

/-- An operator as messages show it. -/
def symbol (op : BinaryOp) : String :=
  String.singleton op.mark

/-- The level of an operator. -/
def level : BinaryOp → Level
  | .plus | .minus => .additive
  | .multiply | .divide => .multiplicative
  | .dot => .dot
  | .bitAnd => .bitAnd
  | .bitOr => .bitOr
  | .comma => .comma
  | .assign => .assignment

@[simp]
theorem mem_operators_iff {op : BinaryOp} {level : Level} :
    op ∈ level.operators ↔ op.level = level := by
  cases op <;> cases level <;> decide

end BinaryOp

/-- The operator of a level that a lexeme is, if it is one. -/
def Level.operator? (level : Level) (lexeme : Lexeme) : Option BinaryOp :=
  level.operators.find? fun op => lexeme = .operator (.mark op.mark)

/-- The operator in front of an operand that a lexeme is, if it is one. -/
def UnaryOp.ofLexeme? : Lexeme → Option UnaryOp
  | .operator (.mark '+') => some .plus
  | .operator (.mark '-') => some .minus
  | .operator .octal => some .octal
  | .operator .hexadecimal => some .hexadecimal
  | _ => none

/-- The lexeme of an operator in front of an operand. -/
def UnaryOp.operator : UnaryOp → Operator
  | .plus => .mark '+'
  | .minus => .mark '-'
  | .octal => .octal
  | .hexadecimal => .hexadecimal

/-- Whether an operator is a radix mark. -/
def UnaryOp.isRadix : UnaryOp → Bool
  | .plus | .minus => false
  | .octal | .hexadecimal => true

namespace Expr

/-- The strength of an operator in front of an operand. -/
def unaryStrength : Nat :=
  8

/-- The strength of an application. -/
def applyStrength : Nat :=
  9

/-- The strength of a name, a string, a digit string or a group. -/
def atomStrength : Nat :=
  10

/-- How strongly the outermost operator of an expression binds. -/
def strength : Expr → Nat
  | .binary op _ _ => op.level.strength
  | .unary _ _ => unaryStrength
  | .apply _ _ => applyStrength
  | .identifier _ | .string _ | .digits _ => atomStrength

/-- Whether an expression is a digit string. -/
def isDigits : Expr → Bool
  | .digits _ => true
  | _ => false

/--
The elements of a chain of commas that leans to the right, in order.  Any
other expression is a list of one.
-/
def arguments : Expr → List Expr
  | .binary .comma left right => left :: right.arguments
  | other => [other]

/-- A bare name as a string; any other expression as it is. -/
def quoteName : Expr → Expr
  | .identifier name => .string name
  | other => other

/-- Quote the bare names at the given positions, counted from a first one. -/
def quoteArgumentsFrom (positions : List Nat) (position : Nat) : Expr → Expr
  | .binary .comma left right =>
      .binary .comma
        (if positions.contains position then left.quoteName else left)
        (quoteArgumentsFrom positions (position + 1) right)
  | last => if positions.contains position then last.quoteName else last

/-- Turn the arguments at the given positions that are bare names to strings. -/
def takeLiterally (positions : List Nat) (expr : Expr) : Expr :=
  quoteArgumentsFrom positions 0 expr

end Expr

end Whirlwind
