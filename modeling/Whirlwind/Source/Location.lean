/-!
# Locations

The place of a character: its line, counted from one, and the number of
characters before it on that line.  Texts count columns from one.
-/

namespace Whirlwind

/-- The place of a character in a source. -/
structure Location where
  line : Nat
  column : Nat
  deriving DecidableEq, Repr

/-- A location as messages show it. -/
def Location.toText (location : Location) : String :=
  "line " ++ toString location.line ++ ", column " ++
    toString (location.column + 1)

end Whirlwind
