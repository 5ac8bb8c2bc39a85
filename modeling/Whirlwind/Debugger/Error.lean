import Whirlwind.Eval.Basic
import Whirlwind.Files.IoError
import Whirlwind.Machine.RangeError
import Whirlwind.Token.Stream

/-!
# Debugger errors

Why a command fails.  Each error has a message, and some have a cause with a
message of its own.
-/

namespace Whirlwind

/-- What an argument that has to be an integer is for. -/
inductive ArgumentRole where
  | printedValue
  | blockAddress
  | wordCount
  | breakpointAddress
  | breakpointId
  deriving DecidableEq, Repr

/-- How messages name an argument. -/
def ArgumentRole.description : ArgumentRole → String
  | .printedValue => "the value to print"
  | .blockAddress => "the block address"
  | .wordCount => "the word count"
  | .breakpointAddress => "a breakpoint address"
  | .breakpointId => "a breakpoint id"

/-- Why the arguments of a command are no good. -/
inductive ArgumentError where
  | unknownFormat (name : String)
  | formatNotName (found : Value.Kind)
  | notInteger (role : ArgumentRole) (found : Value.Kind)
  | printArity
  | printBlockArity
  | noAddress
  | noBreakpointId
  /-- A number is to be shown as the fraction in a word, and fits no word. -/
  | noWord (error : RangeError)
  /-- A number that is no address is to be shown as an instruction. -/
  | formatNeedsAddress
  deriving DecidableEq, Repr

/-- The text of an error. -/
def ArgumentError.message : ArgumentError → String
  | .unknownFormat name => "unknown format " ++ name
  | .formatNotName found => "a format must be a name, not " ++ found.name
  | .notInteger role found =>
      role.description ++ " must be an integer, not " ++ found.name
  | .printArity => "p takes an expression and an optional format"
  | .printBlockArity =>
      "pb takes an address, a word count and an optional format"
  | .noAddress => "b needs at least one address"
  | .noBreakpointId => "bd needs at least one breakpoint id"
  | .noWord error => error.message
  | .formatNeedsAddress => "format i needs an address"

/-- Why a command fails. -/
inductive DebuggerError where
  | malformed (error : ParseError)
  | noValue (error : EvalError)
  | badArguments (error : ArgumentError)
  | addressOutOfRange (number : Int64)
  | io (error : IoError)
  deriving DecidableEq, Repr

namespace DebuggerError

/-- The text of an error. -/
def message : DebuggerError → String
  | .malformed error => error.message
  | .noValue error => error.message
  | .badArguments error => error.message
  | .addressOutOfRange number =>
      "address " ++ Text.markedOctal number ++ " is outside memory"
  | .io error => "I/O error: " ++ error.message

/-- The text of the cause of an error, if it has one. -/
def causeText? : DebuggerError → Option String
  | .malformed (.malformed error) => some error.toText
  | .malformed error => some error.message
  | .noValue error => some error.message
  | .io error => some error.message
  | .badArguments _ | .addressOutOfRange _ => none

end DebuggerError

end Whirlwind
