import Whirlwind.Line.Basic

/-!
# Names on tapes

A tape listing refers to the words of a section by their offsets in it: the
word at an offset is named by the digits of the offset and the letter `r`.
Assembly source names the word by the offset and the section.  Some
instructions also have other names there.
-/

namespace Whirlwind.Tape

/-- The letter behind the offset of a word in its section. -/
def relativeMark : Char :=
  'r'

/-- The offset that a relative name states, if a name is one. -/
def offsetDigits? (name : String) : Option String :=
  match name.toList.reverse with
  | [] => none
  | last :: digits =>
      if last = relativeMark && !digits.isEmpty && digits.all Char.isDigit then
        some (String.ofList digits.reverse)
      else
        none

/--
What a name in a section is called in assembly source.  Names that are not
relative stay as they are.
-/
def assemblyLabel (inside name : String) : String :=
  match offsetDigits? name with
  | some digits => digits ++ inside
  | none => name

/-- What an instruction of a tape is called in assembly source. -/
def assemblyOpcode : String → String
  | "sl" => "slr"
  | "sr" => "srr"
  | "p" => ".word"
  | other => other

end Whirlwind.Tape
