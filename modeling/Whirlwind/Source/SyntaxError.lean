import Whirlwind.Source.Location
import Whirlwind.Token.Basic

/-!
# Syntax errors

Why a text is not well written, with the place where that shows and the text of
the line there, so that a diagnostic can point at the place.
-/

namespace Whirlwind

/-- Why a text is not well written. -/
inductive SyntaxError.Cause where
  | illegalCharacter (found : Char)
  | unterminatedString
  | expectedOperand (found : Lexeme)
  | emptyParentheses
  | unbalancedParentheses
  | badPrefixAddress
  | badSectionOffset (digits : String)
  | expectedOpname
  | expectedCommandName (found : Lexeme)
  | unexpectedToken (found : Lexeme)
  deriving DecidableEq, Repr

/-- The text of a cause. -/
def SyntaxError.Cause.message : SyntaxError.Cause → String
  | .illegalCharacter found => "Illegal character " ++ Text.quotedChar found
  | .unterminatedString => "Unterminated string"
  | .expectedOperand found =>
      "Expected an operand but found " ++ found.description
  | .emptyParentheses => "Empty parentheses"
  | .unbalancedParentheses => "Unbalanced parentheses"
  | .badPrefixAddress => "Syntax error in prefix address"
  | .badSectionOffset digits => "Section offset " ++ digits ++ " is out of range"
  | .expectedOpname => "Opname expected"
  | .expectedCommandName found =>
      "Expected a command name but found " ++ found.description
  | .unexpectedToken found => "Unexpected " ++ found.description

/-- A cause, its place, and the line there without its terminator. -/
structure SyntaxError where
  cause : SyntaxError.Cause
  location : Location
  lineText : String
  deriving DecidableEq, Repr

namespace SyntaxError

/-- The message of an error behind its place. -/
def toText (error : SyntaxError) : String :=
  error.location.toText ++ ": " ++ error.cause.message

/-- The message, the line, and a caret under the place, each on a line. -/
def diagnostic (error : SyntaxError) : String :=
  error.cause.message ++ ": \n" ++ error.lineText ++ "\n" ++
    Text.spaces error.location.column ++ "^\n"

end SyntaxError

end Whirlwind
