import Whirlwind.Text.Lines
import Whirlwind.Text.Utf8

/-!
# File names

A file name is bytes, which need not be text.  Slashes separate its parts; the
last part that is not a dot names the file.  What stands behind the last dot of
that part is its extension, unless nothing stands before that dot.
-/

namespace Whirlwind

/-- A path to a file. -/
abbrev FileName :=
  List UInt8

namespace FileName

/-- The byte between the parts of a name. -/
def slash : UInt8 :=
  47

/-- The byte in front of an extension. -/
def dot : UInt8 :=
  46

/-- A name that is a text. -/
def ofString (text : String) : FileName :=
  Text.encode text

/-- A name as messages show it. -/
def toText (name : FileName) : String :=
  Text.decodeWithReplacements name

/-- A name as messages show it, with a remark if it is not a text. -/
def toRemarkedText (name : FileName) : String :=
  match Text.decode? name with
  | some text => text
  | none =>
      Text.decodeWithReplacements name ++
        " (some non-Unicode characters changed to make it printable)"

/--
A name, reversed, without the slashes at its end and the dots that stand there
for the place itself.
-/
def dropTrailing : List UInt8 → List UInt8
  | 47 :: rest => dropTrailing rest
  | 46 :: 47 :: rest => dropTrailing rest
  | other => other

/-- A name up to the end of its last part. -/
def trimmed (name : FileName) : FileName :=
  (dropTrailing name.reverse).reverse

/-- The last part of a name, if it names a file. -/
def lastPart? (name : FileName) : Option (List UInt8) :=
  let part := ((trimmed name).reverse.takeWhile (· != slash)).reverse
  if part = [] || part = [dot] || part = [dot, dot] then none
  else some part

/-- What stands before and behind the last dot of a part, if it has one. -/
def splitAtLastDot? (part : List UInt8) :
    Option (List UInt8 × List UInt8) :=
  let behind := (part.reverse.takeWhile (· != dot)).reverse
  if behind.length < part.length then
    some (part.take (part.length - behind.length - 1), behind)
  else
    none

/-- The last part of a name as its stem and its extension, if it has one. -/
def stemAndExtension? (name : FileName) :
    Option (List UInt8 × Option (List UInt8)) :=
  (lastPart? name).map fun part =>
    match splitAtLastDot? part with
    | some ([], _) | none => (part, none)
    | some (stem, extension) => (stem, some extension)

/-- A name with its extension, if it has one, cut off behind its dot. -/
def withoutExtension (name : FileName) : FileName :=
  match stemAndExtension? name with
  | some (_, some extension) => name.take (name.length - extension.length)
  | _ => name

/-- A name that ends with its stem, a dot and an extension. -/
def endingWith (extension : List UInt8) (name : FileName) : FileName :=
  match lastPart? name, stemAndExtension? name with
  | some part, some (stem, _) =>
      let whole := trimmed name
      whole.take (whole.length - part.length) ++ stem ++ dot :: extension
  | _, _ => name

/-- A name with another extension.  A name that names no file stays. -/
def withExtension (extension : List UInt8) (name : FileName) : FileName :=
  endingWith extension (withoutExtension name)

end FileName

end Whirlwind
