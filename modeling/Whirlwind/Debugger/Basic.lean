import Whirlwind.Debugger.Breakpoints
import Whirlwind.Debugger.Command
import Whirlwind.Debugger.Error
import Whirlwind.Debugger.Machine
import Whirlwind.Files.Sink

/-!
# The debugger

A debugger knows the symbols of the program, the breakpoints, and how the
program is to go on.  What it does to these, and what it writes, are actions on
a console; an action that fails leaves what it has done so far.
-/

namespace Whirlwind

/-- How the program is to go on. -/
inductive ProgramState where
  | running
  | stepping
  | restarting
  | stopped
  deriving DecidableEq, Repr

/-- What follows a command. -/
inductive Control where
  /-- Another command is read. -/
  | stay
  /-- The program goes on. -/
  | leave
  | quit
  deriving DecidableEq, Repr

/-- What a debugger knows. -/
structure Debugger where
  symbols : SymbolTable
  breakpoints : Breakpoints := {}
  state : ProgramState := .stopped
  deriving DecidableEq, Repr

/-- A debugger and where it writes. -/
structure Console where
  debugger : Debugger
  output : Sink := {}
  deriving DecidableEq

/-- An action of a debugger. -/
abbrev Debugging :=
  EStateM DebuggerError Console

namespace Debugger

/-- Make ready for another run of a program.  The breakpoints stay. -/
def reset (debugger : Debugger) (symbols : SymbolTable) : Debugger :=
  { debugger with
    symbols := symbols
    state := .stopped }

/-- Whether there is a breakpoint at an address. -/
def hasBreakpoint (debugger : Debugger) (address : Address) : Bool :=
  debugger.breakpoints.contains address

/-- Set a breakpoint.  The answer is its number. -/
def addBreakpoint (debugger : Debugger) (number : Int64) :
    Except DebuggerError (Nat × Debugger) :=
  match Address.ofInteger number with
  | .error _ => .error (.addressOutOfRange number)
  | .ok address =>
      let (id, breakpoints) := debugger.breakpoints.add address
      .ok (id, { debugger with breakpoints := breakpoints })

/-- Delete a breakpoint, if there is one with the number. -/
def deleteBreakpoint (debugger : Debugger) (id : Nat) : Debugger :=
  { debugger with breakpoints := debugger.breakpoints.remove id }

/-- A breakpoint with its address and the first of the names for it. -/
def breakpointText (debugger : Debugger) (id : Nat) (address : Address) :
    String :=
  toString id ++ " 0o" ++ address.toOctal ++
    (match debugger.symbols.namesOf address.toInteger with
      | name :: _ => "(" ++ name ++ ")"
      | [] => "")

/-- The list of all breakpoints, in the order of their numbers. -/
def breakpointList (debugger : Debugger) : String :=
  String.join
    (debugger.breakpoints.byId.entries.map fun entry =>
      debugger.breakpointText entry.1 entry.2 ++ "\n")

/-- What names stand for. -/
def environment (debugger : Debugger) (machine : LiveMachine) :
    Environment where
  symbols := debugger.symbols
  readRegister := machine.readRegister

/-- The values of the arguments of a command. -/
def argumentValues (debugger : Debugger) (machine : LiveMachine) :
    Option Expr → Except DebuggerError (List Value)
  | none => .ok []
  | some operand =>
      match operand.evaluate (debugger.environment machine) with
      | .error error => .error (.noValue error)
      | .ok (.list values) => .ok values
      | .ok value => .ok [value]

end Debugger

/-- The integer that an argument has to be. -/
def integerArgument (role : ArgumentRole) (value : Value) :
    Except DebuggerError Int64 :=
  match value, value.toInteger? with
  | .undefined name, _ => .error (.noValue (.undefinedSymbol name))
  | _, some number => .ok number
  | other, none => .error (.badArguments (.notInteger role other.kind))

namespace Debugging

/-- Write a text. -/
def write (text : String) : Debugging PUnit := fun console =>
  match (Sink.write text).run console.output with
  | .ok _ output => .ok ⟨⟩ { console with output := output }
  | .error error output => .error (.io error) { console with output := output }

/-- Answer with what was found, or fail. -/
def require {Result : Type} (found : Except DebuggerError Result) :
    Debugging Result :=
  match found with
  | .ok result => return result
  | .error error => throw error

/-- Go over to another state. -/
def enter (state : ProgramState) : Debugging PUnit :=
  modify fun console =>
    { console with debugger := { console.debugger with state := state } }

end Debugging

end Whirlwind
