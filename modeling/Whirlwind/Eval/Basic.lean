import Whirlwind.Eval.Symbols
import Whirlwind.Expr.Listing
import Whirlwind.Machine.Integer

/-!
# Evaluation

The value of an expression, given what names stand for.  Arithmetic is exact:
its result is a value in range or an overflow.  A name that nothing is known
of is a value too, and an error only where an integer is needed.
-/

namespace Whirlwind

/-- Why an expression has no value. -/
inductive EvalError where
  | undefinedSymbol (name : String)
  | nonIntegerOperand (operator : BinaryOp) (found : Value.Kind)
  | badDigit (digits : String) (radix : Nat)
  | improperNumber (text : String)
  | fractionTooLarge (text : String)
  | badQualifiedName (text : String)
  | divisionByZero
  | overflow
  | assignment
  | application
  deriving DecidableEq, Repr

/-- The text of an error. -/
def EvalError.message : EvalError → String
  | .undefinedSymbol name => "Undefined symbol " ++ name
  | .nonIntegerOperand operator found =>
      "Only integers are allowed in arithmetic operations, but '" ++
        operator.symbol ++ "' was applied to " ++ found.name
  | .badDigit digits 8 => "Digit string " ++ digits ++ " must be octal"
  | .badDigit digits 16 => "Digit string " ++ digits ++ " must be hexadecimal"
  | .badDigit digits radix =>
      "Digit string " ++ digits ++ " is not valid in base " ++ toString radix
  | .improperNumber text => "Improperly formatted number " ++ text
  | .fractionTooLarge text => "Fraction " ++ text ++ " is not less than 1"
  | .badQualifiedName text => text ++ " is not a qualified name"
  | .divisionByZero => "Division by zero"
  | .overflow => "Arithmetic overflow"
  | .assignment => "Assignment cannot be evaluated"
  | .application => "Function application cannot be evaluated"

namespace Eval

/-- A number as a value, if it is in range. -/
def inRange (number : Int) : Except EvalError Int64 :=
  match Integer.ofInt? number with
  | some value => .ok value
  | none => .error .overflow

/-- The number that digits of a base stand for. -/
def digitsIn (radix : Nat) (digits : List Char) : Except EvalError Int64 :=
  match Integer.numeral? radix digits with
  | some number => inRange number
  | none => .error (.badDigit (String.ofList digits) radix)

/-- A number without its sign, which may start with a radix mark. -/
def magnitude (raw : String) : List Char → Except EvalError Int64
  | '0' :: 'o' :: digits => digitsIn 8 digits
  | '0' :: 'x' :: digits => digitsIn 16 digits
  | digits =>
      if !digits.isEmpty && digits.all Char.isDigit then digitsIn 10 digits
      else .error (.improperNumber raw)

/--
The value of a digit string.  In debugger commands it can have a sign and a
radix mark.  Minus zero is negative zero.
-/
def number (raw : String) : Except EvalError Value :=
  match raw.toList with
  | '-' :: digits => do
      let size ← magnitude raw digits
      return if size = 0 then .negativeZero else .plain (-size)
  | '+' :: digits => .plain <$> magnitude raw digits
  | digits => .plain <$> magnitude raw digits

/-- The integer that an operand of an operator has to be. -/
def integerOperand (operator : BinaryOp) : Value → Except EvalError Int64
  | .integer number _ => .ok number
  | .negativeZero => .ok 0
  | .undefined name => .error (.undefinedSymbol name)
  | other => .error (.nonIntegerOperand operator other.kind)

/-- The quotient rounded down. -/
def quotient (left right : Int64) : Except EvalError Int64 :=
  if right = 0 then .error .divisionByZero
  else inRange (left.toInt.fdiv right.toInt)

/--
The result of an operator on two integers.  The left operand is the first to
fail.
-/
def arithmetic (operator : BinaryOp)
    (combine : Int64 → Int64 → Except EvalError Int64)
    (left right : Except EvalError Value) : Except EvalError Value := do
  let leftNumber ← integerOperand operator (← left)
  let rightNumber ← integerOperand operator (← right)
  return .plain (← combine leftNumber rightNumber)

/-- The sum of two integers, in range. -/
def sum (left right : Int64) : Except EvalError Int64 :=
  inRange (left.toInt + right.toInt)

/-- The difference of two integers, in range. -/
def difference (left right : Int64) : Except EvalError Int64 :=
  inRange (left.toInt - right.toInt)

/-- The product of two integers, in range. -/
def product (left right : Int64) : Except EvalError Int64 :=
  inRange (left.toInt * right.toInt)

/-- The bits set in both of two integers. -/
def common (left right : Int64) : Except EvalError Int64 :=
  .ok (left &&& right)

/-- The bits set in one of two integers or in both. -/
def either (left right : Int64) : Except EvalError Int64 :=
  .ok (left ||| right)

/-- A value with its sign changed.  Zero has a sign as well. -/
def negated : Value → Except EvalError Value
  | .integer number _ =>
      if number = 0 then .ok .negativeZero
      else .plain <$> inRange (-number.toInt)
  | .negativeZero => .ok (.plain 0)
  | .fraction number => .ok (.fraction number.negate)
  | .undefined name => .error (.undefinedSymbol name)
  | other => .error (.nonIntegerOperand .minus other.kind)

/-- Whether digits are a single zero or one. -/
def isZeroOrOne (digits : String) : Bool :=
  digits = "0" || digits = "1"

/-- The fraction with a sign, a zero or one before its point, and digits. -/
def fraction (negative : Bool) (whole digits : String) :
    Except EvalError Value :=
  let text := whole ++ "." ++ digits
  if digits.toList.all Char.isDigit then
    let numerator := Integer.numeralFrom 10 0 (whole.toList ++ digits.toList)
    match Fraction.ofRatio? negative numerator (Nat.pow 10 digits.length) with
    | some number => .ok (.fraction number)
    | none => .error (.fractionTooLarge text)
  else
    .error (.improperNumber text)

/-- The names and digit strings that dots join, joined by dots again. -/
def qualifiedName? : Expr → Option String
  | .identifier name => some name
  | .digits text => some text
  | .binary .dot left right => do
      return (← qualifiedName? left) ++ "." ++ (← qualifiedName? right)
  | _ => none

/-- What dots between names stand for. -/
def qualified (left right : Expr) : Except EvalError Value :=
  match qualifiedName? (.binary .dot left right) with
  | some name => .ok (.string name)
  | none =>
      .error (.badQualifiedName (Expr.listing (.binary .dot left right)))

/--
What a dot stands for.  Behind a signed zero or one it is the point of a
fraction; between a bare zero or one and five characters it joins the octal
digits of a word; else it joins names.
-/
def dotted (left right : Expr) : Except EvalError Value :=
  match left, right with
  | .unary .plus (.digits whole), .digits digits =>
      if isZeroOrOne whole then fraction false whole digits
      else qualified left right
  | .unary .minus (.digits whole), .digits digits =>
      if isZeroOrOne whole then fraction true whole digits
      else qualified left right
  | .digits high, .digits low =>
      if isZeroOrOne high && low.length = 5 then
        .plain <$> digitsIn 8 (high.toList ++ low.toList)
      else
        qualified left right
  | _, _ => qualified left right

/-- What a radix mark in front of an operand stands for. -/
def marked (op : UnaryOp) (radix : Nat) : Expr → Except EvalError Value
  | .digits digits => .plain <$> digitsIn radix digits.toList
  | other => .error (.improperNumber (Expr.listing (.unary op other)))

/-- The values behind the first comma of a chain, from the value there. -/
def laterItems : Expr → Value → List Value
  | .binary .comma _ _, .list items => items
  | _, value => [value]

end Eval

/-- The value of an expression. -/
def Expr.evaluate (environment : Environment) :
    Expr → Except EvalError Value
  | .digits raw => Eval.number raw
  | .string text => .ok (.string text)
  | .identifier name => .ok (environment.lookup name)
  | .unary .octal operand => Eval.marked .octal 8 operand
  | .unary .hexadecimal operand => Eval.marked .hexadecimal 16 operand
  | .unary .plus operand => operand.evaluate environment
  | .unary .minus operand => do Eval.negated (← operand.evaluate environment)
  | .binary .dot left right => Eval.dotted left right
  | .binary .assign _ _ => .error .assignment
  | .binary .comma left right => do
      let first ← left.evaluate environment
      let rest ← right.evaluate environment
      return .list (first :: Eval.laterItems right rest)
  | .binary .plus left right =>
      Eval.arithmetic .plus Eval.sum (left.evaluate environment)
        (right.evaluate environment)
  | .binary .minus left right =>
      Eval.arithmetic .minus Eval.difference (left.evaluate environment)
        (right.evaluate environment)
  | .binary .multiply left right =>
      Eval.arithmetic .multiply Eval.product (left.evaluate environment)
        (right.evaluate environment)
  | .binary .divide left right =>
      Eval.arithmetic .divide Eval.quotient (left.evaluate environment)
        (right.evaluate environment)
  | .binary .bitAnd left right =>
      Eval.arithmetic .bitAnd Eval.common (left.evaluate environment)
        (right.evaluate environment)
  | .binary .bitOr left right =>
      Eval.arithmetic .bitOr Eval.either (left.evaluate environment)
        (right.evaluate environment)
  | .apply _ _ => .error .application

end Whirlwind
