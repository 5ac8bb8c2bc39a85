import Whirlwind.Expr.Basic

/-!
# Listing expressions

The canonical text of an expression, with the parentheses that the levels
demand and no others, and the text that shows how a tree is built.
-/

namespace Whirlwind.Expr

/-- A character as it is written in a string. -/
def escaped (character : Char) : String :=
  if character = '\n' then "\\n"
  else if character = '\t' then "\\t"
  else if character = '\x08' then "\\b"
  else if character = '"' then "\\\""
  else if character = '\\' then "\\\\"
  else String.singleton character

/-- A string as it is written in source. -/
def quotedString (text : String) : String :=
  "\"" ++ String.join (text.toList.map escaped) ++ "\""

/-- A text in parentheses, if they are needed. -/
def parenthesized (needed : Bool) (text : String) : String :=
  if needed then "(" ++ text ++ ")" else text

/-- An operator between its operands: dots stand close, commas open up. -/
def spaced (op : BinaryOp) : String :=
  match op with
  | .dot => "."
  | .comma => ", "
  | other => " " ++ other.symbol ++ " "

/-- Whether the left operand of an operator needs parentheses. -/
def leftNeedsParentheses (op : BinaryOp) (left : Expr) : Bool :=
  if op.level.groupsRight then left.strength ≤ op.level.strength
  else left.strength < op.level.strength

/-- Whether the right operand of an operator needs parentheses. -/
def rightNeedsParentheses (op : BinaryOp) (right : Expr) : Bool :=
  if op.level.groupsRight then right.strength < op.level.strength
  else right.strength ≤ op.level.strength

/--
The canonical text.  A radix mark in front of anything but digits is followed
by a space, so that it does not run into a name.
-/
def listing : Expr → String
  | .identifier name => name
  | .digits text => text
  | .string text => quotedString text
  | .unary op operand =>
      op.operator.symbol ++
        (if op.isRadix && !operand.isDigits then " " else "") ++
        parenthesized (operand.strength < unaryStrength) operand.listing
  | .apply callee arguments =>
      parenthesized (callee.strength < atomStrength) callee.listing ++
        "(" ++ arguments.listing ++ ")"
  | .binary op left right =>
      parenthesized (leftNeedsParentheses op left) left.listing ++
        spaced op ++
        parenthesized (rightNeedsParentheses op right) right.listing

end Whirlwind.Expr

namespace Whirlwind

/-- The name of an operator between two operands. -/
def BinaryOp.name : BinaryOp → String
  | .plus => "Plus"
  | .minus => "Minus"
  | .multiply => "Multiply"
  | .divide => "Divide"
  | .dot => "Dot"
  | .bitAnd => "BitAnd"
  | .bitOr => "BitOr"
  | .comma => "Comma"
  | .assign => "Assign"

/-- The name of an operator in front of an operand. -/
def UnaryOp.name : UnaryOp → String
  | .plus => "Plus"
  | .minus => "Minus"
  | .octal => "OctalPrefix"
  | .hexadecimal => "HexPrefix"

/-- The text that shows how a tree is built, node by node. -/
def Expr.outline : Expr → String
  | .identifier name => "Identifier(" ++ Text.quoted name ++ ")"
  | .string text => "LiteralString(" ++ Text.quoted text ++ ")"
  | .digits text => "LiteralDigits(" ++ Text.quoted text ++ ")"
  | .unary op operand =>
      "Unary \x7b op: " ++ op.name ++ ", operand: " ++ operand.outline ++
        " \x7d"
  | .apply callee arguments =>
      "Binary \x7b op: Apply, left: " ++ callee.outline ++ ", right: " ++
        arguments.outline ++ " \x7d"
  | .binary op left right =>
      "Binary \x7b op: " ++ op.name ++ ", left: " ++ left.outline ++
        ", right: " ++ right.outline ++ " \x7d"

end Whirlwind
