import Whirlwind.Files.Sink
import Whirlwind.Grammar
import Whirlwind.Report.Failure
import Whirlwind.Report.Line

/-!
# Checking runs

What a checking run is asked for, what it counts, and the steps that it is made
of.  A line that fails is reported and counted, and the run goes on unless more
lines have failed than it is to stand.
-/

namespace Whirlwind.Check

/-- What a run is asked for. -/
structure Options where
  grammar : Grammar := .assembly
  /-- Write what each line says, and the value of its operand. -/
  verbose : Bool := false
  /-- Write each line in canonical form. -/
  reformat : Bool := false
  /-- How many lines may fail before the run gives up. -/
  maxErrors : Option Nat := none
  deriving DecidableEq, Repr

/-- What a run counts. -/
structure Summary where
  lines : Nat := 0
  instructions : Nat := 0
  failures : Nat := 0
  deriving DecidableEq, Repr

/-- What a run has written and counted so far. -/
structure Progress where
  output : Sink := {}
  summary : Summary := {}
  deriving DecidableEq

/-- A step of a run. -/
abbrev Checking :=
  EStateM Failure Progress

/-- Write a text. -/
def write (text : String) : Checking PUnit := fun progress =>
  match (Sink.write text).run progress.output with
  | .ok _ output => .ok ⟨⟩ { progress with output := output }
  | .error error output =>
      .error (.output error) { progress with output := output }

/-- Count something. -/
def count (step : Summary → Summary) : Checking PUnit :=
  modify fun progress => { progress with summary := step progress.summary }

/-- Count a line. -/
def countLine : Checking PUnit :=
  count fun summary => { summary with lines := summary.lines + 1 }

/-- Count an instruction. -/
def countInstruction : Checking PUnit :=
  count fun summary => { summary with instructions := summary.instructions + 1 }

/-- Count a failure. -/
def countFailure : Checking PUnit :=
  count fun summary => { summary with failures := summary.failures + 1 }

/-- Give up if more lines have failed than the run is to stand. -/
def giveUpBeyond : Option Nat → Checking PUnit
  | none => return ⟨⟩
  | some limit => do
      let failures := (← get).summary.failures
      if limit < failures then throw (.tooManyErrors failures)

/-- Count a line that has failed, and report it. -/
def fail (options : Options) (report : String) : Checking PUnit := do
  countFailure
  write report
  giveUpBeyond options.maxErrors

/-- The report that a line has failed, if any has: it fails the run. -/
def conclude : Checking Summary := do
  let summary := (← get).summary
  if 0 < summary.failures then throw (.linesFailed summary.failures)
  return summary

end Whirlwind.Check
