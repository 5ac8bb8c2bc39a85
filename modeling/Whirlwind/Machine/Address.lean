import Whirlwind.Machine.RangeError

/-!
# Memory addresses

Core memory has 2048 words, so an address has eleven bits.
-/

namespace Whirlwind

/-- The address of one word of core memory. -/
structure Address where
  number : Nat
  number_le : number ≤ 0o3777 := by decide
  deriving DecidableEq, Repr

/-- Addresses are ordered by their numbers. -/
instance : LT Address :=
  ⟨fun first second => first.number < second.number⟩

instance : DecidableLT Address :=
  fun first second => inferInstanceAs (Decidable (first.number < second.number))

namespace Address

/-- The address of the last word. -/
def last : Address :=
  ⟨0o3777, by decide⟩

/-- The address with a given number, if core memory reaches that far. -/
def ofInteger (number : Int64) : Except RangeError Address :=
  if number.toInt < 0 then .error (.tooSmall number)
  else if inside : number.toInt.toNat ≤ 0o3777 then
    .ok ⟨number.toInt.toNat, inside⟩
  else .error (.tooLarge number)

/-- The number of an address, as an integer. -/
def toInteger (address : Address) : Int64 :=
  Int64.ofNat address.number

/-- The octal digits of an address, without leading zeros. -/
def toOctal (address : Address) : String :=
  Text.octal address.number

/-- The four octal digits of an address. -/
def toFullOctal (address : Address) : String :=
  Text.paddedOctal 4 address.number

/-- The octal digits of an address, named as one. -/
def inspect (address : Address) : String :=
  "Address(0o" ++ address.toOctal ++ ")"

end Address

end Whirlwind
