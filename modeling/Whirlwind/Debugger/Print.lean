import Whirlwind.Debugger.Basic
import Whirlwind.Debugger.Display
import Whirlwind.Expr.Listing

/-!
# Printing values and memory

A value that is an address is shown with the word in memory there, any other
integer by itself.  A block of memory is shown word by word, up to the first
address that is outside memory.
-/

namespace Whirlwind.Debugger

/-- The format that an argument asks for, which may be missing. -/
def formatArgument : Option Value → Except DebuggerError DisplayFormat
  | none => .ok .octal
  | some value => (DisplayFormat.ofValue value).mapError .badArguments

/-- The value and the format that the arguments of a print ask for. -/
def printArguments :
    List Value → Except DebuggerError (Value × DisplayFormat)
  | [value] => .ok (value, .octal)
  | [value, format] => do return (value, ← formatArgument (some format))
  | _ => .error (.badArguments .printArity)

/-- A number and the expression that it is the value of. -/
def valueText (machine : LiveMachine) (format : DisplayFormat)
    (isAddress : Bool) (number : Int64) (expr : Expr) :
    Except DebuggerError String :=
  if isAddress then
    .ok
      (format.namedAddressText number expr ++ " = " ++
        format.memoryText machine number)
  else do
    let shown ← (format.numberText number).mapError .badArguments
    return expr.listing ++ " = " ++ shown

/-- What a print shows. -/
def printText (debugger : Debugger) (machine : LiveMachine)
    (operand : Option Expr) : Except DebuggerError String := do
  let values ← debugger.argumentValues machine operand
  let (value, format) ← printArguments values
  let number ← integerArgument .printedValue value
  match operand.bind fun whole => whole.arguments.head? with
  | some expr => valueText machine format value.isAddress number expr
  | none => throw (.badArguments .printArity)

/-- The words of a block from an address on, each on a line. -/
def blockRows (machine : LiveMachine) (format : DisplayFormat)
    (address : Int64) : Nat → String
  | 0 => ""
  | count + 1 =>
      "  " ++ format.addressText address ++ " = " ++
        format.memoryText machine address ++ "\n" ++
        (match Address.ofInteger address with
          | .ok _ => blockRows machine format (address + 1) count
          | .error _ => "")

/-- How many words a block has.  None has an address beyond all integers. -/
def blockLength (base count : Int64) : Nat :=
  (min (base.toInt + count.toInt) Integer.greatest - base.toInt).toNat

/-- The arguments of a block print, of which the format may be missing. -/
def blockArguments :
    List Value → Except DebuggerError (Value × Value × Option Value)
  | [base, count] => .ok (base, count, none)
  | [base, count, format] => .ok (base, count, some format)
  | _ => .error (.badArguments .printBlockArity)

/-- What a block print shows. -/
def blockText (debugger : Debugger) (machine : LiveMachine)
    (operand : Option Expr) : Except DebuggerError String := do
  let values ← debugger.argumentValues machine operand
  let (base, count, format) ← blockArguments values
  let base ← integerArgument .blockAddress base
  let count ← integerArgument .wordCount count
  let format ← formatArgument format
  match operand.bind fun whole => whole.arguments.head? with
  | some expr =>
      return format.namedAddressText base expr ++ ":\n" ++
        blockRows machine format base (blockLength base count)
  | none => throw (.badArguments .printBlockArity)

end Whirlwind.Debugger
