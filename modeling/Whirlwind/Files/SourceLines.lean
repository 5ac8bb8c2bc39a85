import Whirlwind.Files.Directory

/-!
# Reading lines

The lines of a source are the texts between its newlines.  A carriage return
in front of a newline belongs to the newline.
-/

namespace Whirlwind.Source

/-- The byte at the end of a line. -/
def newline : UInt8 :=
  10

/-- Decode lines, numbered from a given number on. -/
def decodeLines (number : Nat) :
    List (List UInt8) → Except (IoError × Nat) (List String)
  | [] => .ok []
  | bytes :: rest =>
      match Text.decode? bytes with
      | none => .error (.notText, number)
      | some text => do
          let later ← decodeLines (number + 1) rest
          return String.ofList (Text.dropTerminator text.toList) :: later

/--
The lines of a source without their terminators, or why they cannot be read
and the number of the line where that shows.
-/
def readLines : Source → Except (IoError × Nat) (List String)
  | .file content => decodeLines 1 (Text.lines newline content.data.toList)
  | .directory => .error (.isDirectory, 1)

end Whirlwind.Source
