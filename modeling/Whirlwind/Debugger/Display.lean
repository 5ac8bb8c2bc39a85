import Whirlwind.Debugger.Error
import Whirlwind.Debugger.Machine

/-!
# Showing numbers and memory

Words and addresses are shown in octal unless another format is asked for.
-/

namespace Whirlwind

/-- A format to show numbers and words in. -/
inductive DisplayFormat where
  | octal
  | decimal
  | fraction
  | instruction
  deriving DecidableEq, Repr

/-- Shown in place of what is outside memory. -/
def outsideMemory : String :=
  "<addr-out-of-range>"

namespace DisplayFormat

/-- The format with a name. -/
def ofName? : String → Option DisplayFormat
  | "o" => some .octal
  | "d" => some .decimal
  | "fr" => some .fraction
  | "i" => some .instruction
  | _ => none

/-- The format that a value names. -/
def ofValue : Value → Except ArgumentError DisplayFormat
  | .string name =>
      match ofName? name with
      | some format => .ok format
      | none => .error (.unknownFormat name)
  | other => .error (.formatNotName other.kind)

/-- An address with its radix in front. -/
def addressText (format : DisplayFormat) (number : Int64) : String :=
  match format with
  | .decimal => "0d" ++ Text.decimal number
  | _ => "0o" ++ Text.signedOctal number

/-- An address and the expression that it is the value of. -/
def namedAddressText (format : DisplayFormat) (number : Int64)
    (expr : Expr) : String :=
  format.addressText number ++ "(" ++ expr.listing ++ ")"

/-- A word that is not shown as an instruction. -/
def wordText (format : DisplayFormat) (word : Word) : String :=
  match format with
  | .decimal =>
      if word.isNegativeZero then "-0" else Text.decimal word.toInteger
  | .fraction => word.toFraction.toText
  | .octal | .instruction => "0o" ++ word.toOctal

/-- What is in memory at an address. -/
def memoryText (format : DisplayFormat) (machine : LiveMachine)
    (number : Int64) : String :=
  match Address.ofInteger number with
  | .error _ => outsideMemory
  | .ok address =>
      if format = .instruction then machine.disassemble address
      else
        match machine.readMemory address with
        | some word => format.wordText word
        | none => outsideMemory

/-- A number that is no address. -/
def numberText (format : DisplayFormat) (number : Int64) :
    Except ArgumentError String :=
  match format with
  | .octal => .ok (Text.signedOctal number)
  | .decimal => .ok (Text.decimal number)
  | .fraction =>
      match Word.ofInteger number with
      | .ok word => .ok word.toFraction.toText
      | .error error => .error (.noWord error)
  | .instruction => .error .formatNeedsAddress

end DisplayFormat

end Whirlwind
