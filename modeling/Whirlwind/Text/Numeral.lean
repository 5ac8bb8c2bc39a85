/-!
# Numerals

Words, addresses and symbol values are shown in octal, and the code of an
unprintable character in hexadecimal.  A numeral can be padded with zeros to a
least width.
-/

namespace Whirlwind.Text

/-- The digits of a number in a base, without leading zeros. -/
def numeral (base number : Nat) : String :=
  String.ofList (Nat.toDigits base number)

/-- The octal digits of a number. -/
def octal (number : Nat) : String :=
  numeral 8 number

/-- The octal digits of a number, with zeros in front up to a width. -/
def paddedOctal (width number : Nat) : String :=
  let digits := Nat.toDigits 8 number
  String.ofList (List.replicate (width - digits.length) '0' ++ digits)

/-- A text of spaces. -/
def spaces (count : Nat) : String :=
  String.ofList (List.replicate count ' ')

/--
The octal digits of a signed number's 64-bit two's complement, behind the
octal radix mark.
-/
def markedOctal (number : Int64) : String :=
  "0o" ++ octal number.toUInt64.toNat

/-- The octal digits of a signed number's magnitude, behind its sign. -/
def signedOctal (number : Int64) : String :=
  let digits := octal number.toInt.natAbs
  if number.toInt < 0 then "-" ++ digits else digits

/-- The decimal digits of a signed number, behind its sign. -/
def decimal (number : Int64) : String :=
  toString number.toInt

end Whirlwind.Text
