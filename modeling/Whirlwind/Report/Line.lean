import Whirlwind.Eval.Basic
import Whirlwind.Token.Stream

/-!
# Reports on lines

What is written about a line that is not well written, or whose operand has no
value.
-/

namespace Whirlwind

/-- A message behind the number of the line that it is about. -/
def reportOnLine (number : Nat) (message : String) : String :=
  "Line " ++ toString number ++ ": " ++ message

/-- An evaluation error and the line where it happened. -/
def reportOnValue (error : EvalError) (lineText : String) : String :=
  error.message ++ ":\n" ++ lineText ++ "\n"

namespace ParseError

/-- An error with the line it is on, and a caret under its place. -/
def diagnostic : ParseError → String
  | .malformed error => error.diagnostic
  | error => error.message ++ "\n"

/-- The number of the line that an error is on. -/
def lineNumber : ParseError → Nat
  | .malformed error => error.location.line
  | .noRoom _ => 0

/-- The report on a line with an error. -/
def report (error : ParseError) : String :=
  reportOnLine error.lineNumber error.diagnostic

end ParseError

end Whirlwind
