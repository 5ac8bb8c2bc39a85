import Whirlwind.Machine.Address
import Whirlwind.Machine.Word

/-!
# The machine under debug

The debugger sees a machine only through what it can read of it.
-/

namespace Whirlwind

/-- What can be read of a machine. -/
structure LiveMachine where
  /-- The number in a register, if the name is that of a register. -/
  readRegister : String → Option Int64
  /-- The word at an address, if the machine has that much memory. -/
  readMemory : Address → Option Word
  /-- The word at an address as an instruction. -/
  disassemble : Address → String
  /-- What is shown when the program stops at an address. -/
  sourceLine : Address → String := fun address =>
    address.toOctal ++ ": " ++ disassemble address

end Whirlwind
