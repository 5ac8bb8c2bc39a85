import Whirlwind.Debugger.Execute
import Whirlwind.Report.Line

/-!
# The prompt

When the program stops, the debugger shows where and reads commands, each on a
line, until one of them lets the program go on or ends the session.  While the
program runs it stops only at breakpoints.
-/

namespace Whirlwind

/-- How a session goes on when the prompt is left. -/
inductive Resumption where
  | proceed
  | restart
  | quit
  deriving DecidableEq, Repr

/-- How the prompt was left, and what remains of the input. -/
structure PromptOutcome where
  result : Except IoError Resumption
  console : Console
  /-- The lines that have not been read. -/
  unread : List (List UInt8)

namespace Debugging

/-- What the prompt writes of a command that has failed. -/
def failureText : DebuggerError → String
  | .malformed error => error.diagnostic
  | error => "Error: " ++ error.message ++ "\n"

/-- The prompt at an address. -/
def promptText (place : Address) : String :=
  "dbg " ++ place.toOctal ++ "> "

/-- Write a text. -/
def display (text : String) : EStateM IoError Console PUnit := fun console =>
  match (Sink.write text).run console.output with
  | .ok _ output => .ok ⟨⟩ { console with output := output }
  | .error error output => .error error { console with output := output }

/-- Report a command that has failed, and read another one. -/
def reportFailure (error : DebuggerError) : EStateM IoError Console Control := do
  display (failureText error)
  return .stay

/-- A text without the line terminators at its end. -/
def typedText (text : String) : String :=
  String.ofList (Text.trimLineEnd text.toList)

/--
Execute a line that was typed at the prompt.  Only errors of reading or writing
remain; a command that fails otherwise is reported.
-/
def answerLine (machine : LiveMachine) (text : String) :
    EStateM IoError Console Control := fun console =>
  match (executeText machine (typedText text)).run console with
  | .ok control after => .ok control after
  | .error (.io error) after => .error error after
  | .error error after => (reportFailure error).run after

/-- Execute a line of the input. -/
def answerBytes (machine : LiveMachine) (bytes : List UInt8) :
    EStateM IoError Console Control :=
  match Text.decode? bytes with
  | none => throw .notText
  | some text => answerLine machine text

/-- How a session goes on when a command lets the program go on. -/
def resume (console : Console) : Resumption × Console :=
  match console.debugger.state with
  | .restarting =>
      (.restart,
        { console with
          debugger := { console.debugger with state := .running } })
  | _ => (.proceed, console)

/-- Read commands until one of them leaves the prompt. -/
def promptFrom (machine : LiveMachine) (place : Address) :
    List (List UInt8) → Console → PromptOutcome
  | [], console =>
      match (display (promptText place)).run console with
      | .error error after => ⟨.error error, after, []⟩
      | .ok _ after => ⟨.ok .quit, after, []⟩
  | bytes :: rest, console =>
      match (display (promptText place)).run console with
      | .error error after => ⟨.error error, after, bytes :: rest⟩
      | .ok _ asked =>
          match (answerBytes machine bytes).run asked with
          | .error error after => ⟨.error error, after, rest⟩
          | .ok .stay after => promptFrom machine place rest after
          | .ok .leave after =>
              let (resumption, after) := resume after
              ⟨.ok resumption, after, rest⟩
          | .ok .quit after => ⟨.ok .quit, after, rest⟩

/--
What the debugger does before the program takes its next instruction, which is
at `place`, with the lines of the input that have not been read.
-/
def prompt (machine : LiveMachine) (place : Address)
    (lines : List (List UInt8)) (console : Console) : PromptOutcome :=
  if console.debugger.state = .running &&
      !console.debugger.hasBreakpoint place then
    ⟨.ok .proceed, console, lines⟩
  else
    match (display (machine.sourceLine place ++ "\n")).run console with
    | .error error after => ⟨.error error, after, lines⟩
    | .ok _ after => promptFrom machine place lines after

end Debugging

end Whirlwind
