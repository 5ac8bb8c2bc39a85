import Whirlwind.Files.Host
import Whirlwind.Line.Sequence
import Whirlwind.Rebuild.Target
import Whirlwind.Report.Attempt
import Whirlwind.Report.Input
import Whirlwind.Report.Line
import Whirlwind.Tape.Rebuilt

/-!
# Rebuilding a listing

Assembly source is rebuilt from all lines of a tape listing that are well
written; the other ones are reported, each by itself.  The listing has been read
to its end and the reports have been written before the target is touched, which
is then written line by line.
-/

namespace Whirlwind.Rebuild

variable {Effect : Type → Type} [Monad Effect]

/-- The lines of a source as they are written. -/
def writtenLines (source : List Tape.RebuiltLine) : List String :=
  source.map fun line => line.text source ++ "\n"

/-- Write texts one after the other. -/
def writeAll (failure : IoError → Failure)
    (write : ByteArray → Effect (Except IoError PUnit)) :
    List String → ExceptT Failure Effect PUnit
  | [] => return ⟨⟩
  | text :: rest => do
      attempt failure (write text.toUTF8)
      writeAll failure write rest

/-- Write texts to a target, which is made if it is a file. -/
def writeTarget (host : Host Effect) (texts : List String) :
    Target → ExceptT Failure Effect PUnit
  | .standardOutput => writeAll .output host.writeOutput texts
  | .file name => do
      let handle ← attempt (.outputFile name) (host.createFile name)
      writeAll (.outputFile name) (host.writeFile handle) texts

/-- Rebuild the listing in a file. -/
def run (host : Host Effect) (name : FileName) (target : Target) :
    ExceptT Failure Effect PUnit := do
  let opened ← (host.openFile name : ExceptT Failure Effect _)
  let texts ← ExceptT.mk (pure (inputLines name opened))
  let sequence := LineSequence.parse texts .tape
  writeAll .output host.writeDiagnostics (sequence.errors.map ParseError.report)
  let source := Tape.RebuiltLine.ofLines sequence.lines
  writeTarget host (writtenLines source) target
  match sequence.errors.length with
  | 0 => return ⟨⟩
  | count => throw (.linesFailed count)

end Whirlwind.Rebuild
