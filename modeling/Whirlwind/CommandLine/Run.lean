import Whirlwind.Check.Run
import Whirlwind.CommandLine.Invocation
import Whirlwind.Rebuild.Run

/-!
# Running a command line

A tool carries out what its command line asks for on a host.  A failure is
told on the diagnostics and in the exit code.
-/

namespace Whirlwind.CommandLine

variable {Effect : Type → Type} [Monad Effect]

/-- How a tool has ended. -/
inductive Exit where
  | success
  | failed
  /-- The command line is not well formed. -/
  | misused
  deriving DecidableEq, Repr

/-- The code of an exit. -/
def Exit.code : Exit → UInt32
  | .success => 0
  | .failed => 1
  | .misused => 2

/-- How a tool is used. -/
def Tool.usage : Tool → String
  | .check =>
      "check [--grammar <assembly|tape|expression|debugger>] " ++
        "[-v|--verbose] [--reformat] [--max-errors <count>] <input>\n"
  | .rebuild => "rebuild [-o|--output <output>] <input>\n"

/-- Check the source in a file. -/
def runCheck (host : Host Effect) (options : Check.Options)
    (name : FileName) : ExceptT Failure Effect PUnit := do
  let opened ← (host.openFile name : ExceptT Failure Effect _)
  let (ending, progress) : Except Failure PUnit × Check.Progress :=
    match (Check.run options name opened).run {} with
    | .ok _ progress => (.ok ⟨⟩, progress)
    | .error failure progress => (.error failure, progress)
  attempt .output (host.writeOutput progress.output.accepted)
  ExceptT.mk (pure ending)

/-- Carry out an invocation. -/
def carryOut (host : Host Effect) :
    Invocation → ExceptT Failure Effect PUnit
  | .check options input => runCheck host options input
  | .rebuild input target => Rebuild.run host input target

/-- Run a tool with its arguments. -/
def run (host : Host Effect) (tool : Tool) (arguments : List Argument) :
    Effect Exit := do
  match Invocation.ofArguments tool arguments with
  | .error .usage =>
      let _ ← host.writeDiagnostics tool.usage.toUTF8
      return .misused
  | .error .information =>
      let _ ← host.writeOutput tool.usage.toUTF8
      return .success
  | .ok invocation =>
      match ← carryOut host invocation with
      | .ok _ => return .success
      | .error failure =>
          let _ ← host.writeDiagnostics (failure.message ++ "\n").toUTF8
          return .failed

end Whirlwind.CommandLine
