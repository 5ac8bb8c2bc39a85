/-!
# Blank characters

White space is Unicode's `White_Space` property.  Blanks separate tokens, and
the text of a comment or of a raw operand is kept without the blanks at its
two ends.
-/

namespace Whirlwind.Text

/-- The blanks outside the range from tab to carriage return. -/
def spacingCodes : List Nat :=
  [0x20, 0x85, 0xA0, 0x1680, 0x2000, 0x2001, 0x2002, 0x2003, 0x2004, 0x2005,
    0x2006, 0x2007, 0x2008, 0x2009, 0x200A, 0x2028, 0x2029, 0x202F, 0x205F,
    0x3000]

/-- Whether a character has the `White_Space` property. -/
def isBlank (character : Char) : Bool :=
  (0x9 ≤ character.toNat && character.toNat ≤ 0xD) ||
    spacingCodes.contains character.toNat

/-- Drop the longest run of characters at the end that satisfy a test. -/
def dropTrailing (test : Char → Bool) (characters : List Char) : List Char :=
  (characters.reverse.dropWhile test).reverse

@[simp]
theorem dropTrailing_nil (test : Char → Bool) : dropTrailing test [] = [] :=
  rfl

theorem dropTrailing_append_singleton (test : Char → Bool)
    (characters : List Char) (last : Char) :
    dropTrailing test (characters ++ [last]) =
      if test last then dropTrailing test characters
      else characters ++ [last] := by
  cases found : test last <;> simp [dropTrailing, found]

/-- Drop the blanks at both ends. -/
def trimBlanks (characters : List Char) : List Char :=
  dropTrailing isBlank (characters.dropWhile isBlank)

/-- The text without the blanks at its two ends. -/
def trim (text : String) : String :=
  String.ofList (trimBlanks text.toList)

end Whirlwind.Text
