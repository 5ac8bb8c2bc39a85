import Whirlwind.Files.SourceLines
import Whirlwind.Report.Failure

/-!
# Reading input

The lines of a source that has been opened under a name.  What goes wrong is a
failure of the whole run.
-/

namespace Whirlwind

/-- The lines of what has been opened under a name. -/
def inputLines (name : FileName) (opened : Except IoError Source) :
    Except Failure (List String) :=
  match opened with
  | .error error => .error (.input name error none)
  | .ok source =>
      match source.readLines with
      | .error (error, number) => .error (.input name error (some number))
      | .ok lines => .ok lines

end Whirlwind
