/-!
# Bytes as text

Bytes that are UTF-8 are read as the text they encode.  Names that are not are
still shown: each longest start of an encoding that goes no further is
replaced by one replacement character.
-/

namespace Whirlwind.Text

/-- The text that bytes encode, if they are UTF-8. -/
def decode? (bytes : List UInt8) : Option String :=
  String.fromUTF8? ⟨bytes.toArray⟩

/-- The bytes that encode a text. -/
def encode (text : String) : List UInt8 :=
  text.toUTF8.data.toList

/-- Bytes that are read as a text are what it is encoded as. -/
theorem encode_of_decode? {bytes : List UInt8} {text : String}
    (read : decode? bytes = some text) : encode text = bytes := by
  unfold decode? String.fromUTF8? at read
  split at read
  · rcases Option.some.inj read with rfl
    exact List.toList_toArray
  · cases read

/-- How an encoding goes on: the range of each byte that is still to come. -/
abbrev Continuation :=
  List (UInt8 × UInt8)

/-- Any continuation byte. -/
def anyTail : UInt8 × UInt8 :=
  (0x80, 0xBF)

/--
What follows the first byte of an encoding of several bytes.  Overlong
encodings, surrogates and codes beyond the last plane are shut out by the
range of the second byte.
-/
def continuation? (lead : UInt8) : Option Continuation :=
  if 0xC2 ≤ lead && lead ≤ 0xDF then some [anyTail]
  else if lead = 0xE0 then some [(0xA0, 0xBF), anyTail]
  else if lead = 0xED then some [(0x80, 0x9F), anyTail]
  else if 0xE1 ≤ lead && lead ≤ 0xEF then some [anyTail, anyTail]
  else if lead = 0xF0 then some [(0x90, 0xBF), anyTail, anyTail]
  else if lead = 0xF4 then some [(0x80, 0x8F), anyTail, anyTail]
  else if 0xF1 ≤ lead && lead ≤ 0xF3 then some [anyTail, anyTail, anyTail]
  else none

/-- Shown in place of bytes that encode nothing. -/
def replacement : Char :=
  '\uFFFD'

/--
Decode byte by byte.  `read` is the part of an encoding read so far, latest
byte first, and `expected` is what has to follow it.
-/
def decodeFrom (read : List UInt8) (expected : Continuation) :
    List UInt8 → List Char
  | [] => if read = [] then [] else [replacement]
  | byte :: rest =>
      let afresh :=
        if byte < 0x80 then
          Char.ofNat byte.toNat :: decodeFrom [] [] rest
        else
          match continuation? byte with
          | some ranges => decodeFrom [byte] ranges rest
          | none => replacement :: decodeFrom [] [] rest
      match expected with
      | [] => afresh
      | (least, greatest) :: later =>
          if least ≤ byte && byte ≤ greatest then
            if later = [] then
              match decode? (byte :: read).reverse with
              | some text => text.toList ++ decodeFrom [] [] rest
              | none => replacement :: decodeFrom [] [] rest
            else
              decodeFrom (byte :: read) later rest
          else
            replacement :: afresh

/-- The text of bytes, with replacements for those that are not UTF-8. -/
def decodeWithReplacements (bytes : List UInt8) : String :=
  match decode? bytes with
  | some text => text
  | none => String.ofList (decodeFrom [] [] bytes)

end Whirlwind.Text
