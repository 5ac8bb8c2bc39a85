import Whirlwind.Text.Numeral

/-!
# Numbers out of range

An integer that does not fit a word or an address fits neither because it is
too large nor because it is too small, never both.
-/

namespace Whirlwind

/-- Why an integer is no word or no address. -/
inductive RangeError where
  | tooLarge (number : Int64)
  | tooSmall (number : Int64)
  deriving DecidableEq, Repr

/-- The text of a range error. -/
def RangeError.message : RangeError → String
  | .tooLarge number => "value " ++ Text.decimal number ++ " is too large"
  | .tooSmall number => "value " ++ Text.decimal number ++ " is too small"

end Whirlwind
