import Whirlwind.Machine.Address
import Whirlwind.OrderedMap

/-!
# Breakpoints

Each breakpoint has a number of its own and an address of its own, and is found
by either.  Numbers are given out in order and never again, as long as the
counter does not come round.
-/

namespace Whirlwind

/-- The breakpoints that are set. -/
structure Breakpoints where
  /-- The number of the next new breakpoint, which has 32 bits. -/
  nextId : UInt32 := 0
  /-- The addresses of the breakpoints by their numbers. -/
  byId : OrderedMap Nat Address := {}
  /-- The numbers of the breakpoints by their addresses. -/
  byAddress : OrderedMap Address Nat := {}
  deriving DecidableEq, Repr

namespace Breakpoints

/-- The address of the breakpoint with a number. -/
def addressOf? (breakpoints : Breakpoints) (id : Nat) : Option Address :=
  breakpoints.byId.get? id

/-- The number of the breakpoint at an address. -/
def idAt? (breakpoints : Breakpoints) (address : Address) : Option Nat :=
  breakpoints.byAddress.get? address

/-- Whether there is a breakpoint at an address. -/
def contains (breakpoints : Breakpoints) (address : Address) : Bool :=
  breakpoints.byAddress.contains address

/-- A new breakpoint at an address, with the next number. -/
def create (breakpoints : Breakpoints) (address : Address) : Breakpoints where
  nextId := breakpoints.nextId + 1
  byId := breakpoints.byId.insert breakpoints.nextId.toNat address
  byAddress := breakpoints.byAddress.insert address breakpoints.nextId.toNat

/--
Set a breakpoint at an address, where there may be one already.  The answer is
its number.
-/
def add (breakpoints : Breakpoints) (address : Address) : Nat × Breakpoints :=
  match breakpoints.idAt? address with
  | some id => (id, breakpoints)
  | none => (breakpoints.nextId.toNat, breakpoints.create address)

/-- Delete the breakpoint with a number, if there is one. -/
def remove (breakpoints : Breakpoints) (id : Nat) : Breakpoints :=
  match breakpoints.addressOf? id with
  | none => breakpoints
  | some address =>
      { breakpoints with
        byId := breakpoints.byId.erase id
        byAddress := breakpoints.byAddress.erase address }

end Breakpoints

end Whirlwind
