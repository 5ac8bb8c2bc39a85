import Whirlwind.Files.FileName
import Whirlwind.Files.IoError

/-!
# Failures

Why the run of a tool fails as a whole.  Errors of single lines are reported
when they are found; at the end only their number is left to tell.
-/

namespace Whirlwind

/-- Why a run fails. -/
inductive Failure where
  /-- A report or a result could not be written. -/
  | output (error : IoError)
  /-- A file could not be opened, or not be read from some line on. -/
  | input (name : FileName) (error : IoError) (line : Option Nat)
  /-- A file could not be written. -/
  | outputFile (name : FileName) (error : IoError)
  /-- Lines had errors, which have been reported. -/
  | linesFailed (count : Nat)
  /-- More lines had errors than the run was to stand. -/
  | tooManyErrors (count : Nat)
  deriving DecidableEq, Repr

/-- The text of a failure. -/
def Failure.message : Failure → String
  | .output error => "error writing on stdout: " ++ error.message
  | .input name error line =>
      "I/O error reading input file " ++ name.toRemarkedText ++
        (match line with
          | some number => " at line " ++ toString number
          | none => "") ++
        ": " ++ error.message
  | .outputFile name error =>
      "I/O error writing output file " ++ name.toText ++ ": " ++ error.message
  | .linesFailed 1 => "1 line had errors"
  | .linesFailed count => toString count ++ " lines had errors"
  | .tooManyErrors count => "giving up after " ++ toString count ++ " errors"

end Whirlwind
