import Whirlwind.Fraction.Shortest
import Whirlwind.Text.Numeral
import Whirlwind.Text.Quoted

/-!
# Values

What an expression evaluates to.  The machine counts in one's complement, so
negative zero is a value of its own, which arithmetic takes for zero.
-/

namespace Whirlwind

/-- The kinds of values. -/
inductive Value.Kind where
  | integer
  | negativeZero
  | floatingPoint
  | string
  | list
  | undefined
  deriving DecidableEq, Repr

/-- The name of a kind. -/
def Value.Kind.name : Value.Kind → String
  | .integer => "Integer"
  | .negativeZero => "NegativeZero"
  | .floatingPoint => "FloatingPoint"
  | .string => "String"
  | .list => "List"
  | .undefined => "Undefined"

/-- What an expression evaluates to. -/
inductive Value where
  /--
  An integer.  It is an address only if a bare name in the symbol table stood
  for it; then the word at that address can be shown too.
  -/
  | integer (number : Int64) (isAddress : Bool)
  | negativeZero
  | fraction (fraction : Fraction)
  | string (text : String)
  | list (items : List Value)
  /-- A name that nothing is known of. -/
  | undefined (name : String)
  deriving Repr

namespace Value

/-- The kind of a value. -/
def kind : Value → Kind
  | .integer _ _ => .integer
  | .negativeZero => .negativeZero
  | .fraction _ => .floatingPoint
  | .string _ => .string
  | .list _ => .list
  | .undefined _ => .undefined

/-- An integer that is no address. -/
def plain (number : Int64) : Value :=
  .integer number false

/-- The integer that a value counts as in arithmetic, if it does. -/
def toInteger? : Value → Option Int64
  | .integer number _ => some number
  | .negativeZero => some 0
  | _ => none

/-- Whether a value is an address. -/
def isAddress : Value → Bool
  | .integer _ isAddress => isAddress
  | _ => false

mutual

/-- The kind of a value and what it is. -/
def toText : Value → String
  | .integer number false => "Integer " ++ Text.decimal number
  | .integer number true => "Integer " ++ Text.decimal number ++ " (address)"
  | .negativeZero => "NegativeZero"
  | .fraction number => "FloatingPoint " ++ number.toText
  | .string text => "String " ++ Text.quoted text
  | .list items => "List [" ++ ", ".intercalate (toTexts items) ++ "]"
  | .undefined name => "Undefined " ++ name

/-- The texts of values, in order. -/
def toTexts : List Value → List String
  | [] => []
  | value :: rest => toText value :: toTexts rest

end

end Value

end Whirlwind
