import Whirlwind.Text.Numeral
import Whirlwind.Text.Printable

/-!
# Quoted texts

The form in which messages and record listings show a text or a character:
between quotes, with an escape for the quote, the backslash, and every
character that could not be seen as it is.
-/

namespace Whirlwind.Text

/-- The escape of a character that has a short one, between given quotes. -/
def shortEscape? (quote character : Char) : Option String :=
  if character = '\x00' then some "\\0"
  else if character = '\t' then some "\\t"
  else if character = '\r' then some "\\r"
  else if character = '\n' then some "\\n"
  else if character = '\\' then some "\\\\"
  else if character = quote then some (String.ofList ['\\', character])
  else none

/-- A character as it is written between quotes. -/
def quotedPart (quote character : Char) : String :=
  match shortEscape? quote character with
  | some escape => escape
  | none =>
      if isPrintable character then String.singleton character
      else "\\u\x7b" ++ numeral 16 character.toNat ++ "\x7d"

/-- A text between double quotes. -/
def quoted (text : String) : String :=
  "\"" ++ String.join (text.toList.map (quotedPart '"')) ++ "\""

/-- A character between single quotes. -/
def quotedChar (character : Char) : String :=
  "'" ++ quotedPart '\'' character ++ "'"

end Whirlwind.Text
