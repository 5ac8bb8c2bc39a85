import Whirlwind.Debugger.Print
import Whirlwind.Line.Parser

/-!
# Executing commands

A command stops the program before it does anything else, and those that let
the program go on say how when they are done.  So a command that fails leaves
the program stopped.
-/

namespace Whirlwind

/-- How the program goes on when a command has been carried out. -/
def Command.finalState : Command → ProgramState
  | .run => .running
  | .step => .stepping
  | .restart => .restarting
  | _ => .stopped

/-- What follows a command that has been carried out. -/
def Command.control : Command → Control
  | .run | .step | .restart => .leave
  | .quit => .quit
  | _ => .stay

/-- The help on all commands. -/
def Command.helpList : String :=
  String.join (all.map fun command => command.helpText ++ "\n")

namespace Debugging

/-- Set a breakpoint at the address that an argument is, and show it. -/
def setBreakpoint (value : Value) : Debugging PUnit := do
  let number ← require (integerArgument .breakpointAddress value)
  let (id, debugger) ← require ((← get).debugger.addBreakpoint number)
  modify fun console => { console with debugger := debugger }
  match debugger.breakpoints.addressOf? id with
  | some address => write (debugger.breakpointText id address ++ "\n")
  | none => return ⟨⟩

/-- Delete the breakpoint with the number that an argument is.  The numbers of
breakpoints have 32 bits. -/
def deleteBreakpoint (value : Value) : Debugging PUnit := do
  let number ← require (integerArgument .breakpointId value)
  if 0 ≤ number.toInt ∧ number.toInt < UInt32.size then
    modify fun console =>
      { console with
        debugger := console.debugger.deleteBreakpoint number.toInt.toNat }

/-- Act on each of the arguments of a command, of which there must be some. -/
def onEach (machine : LiveMachine) (operand : Option Expr)
    (missing : ArgumentError) (action : Value → Debugging PUnit) :
    Debugging PUnit := do
  match ← require ((← get).debugger.argumentValues machine operand) with
  | [] => throw (.badArguments missing)
  | values => values.forM action

/-- Carry out a command. -/
def perform (machine : LiveMachine) (command : Command)
    (operand : Option Expr) : Debugging PUnit := do
  match command with
  | .print =>
      let text ← require ((← get).debugger.printText machine operand)
      write (text ++ "\n")
  | .printBlock =>
      write (← require ((← get).debugger.blockText machine operand))
  | .setBreakpoints => onEach machine operand .noAddress setBreakpoint
  | .deleteBreakpoints =>
      onEach machine operand .noBreakpointId deleteBreakpoint
  | .listBreakpoints => write (← get).debugger.breakpointList
  | .help => write Command.helpList
  | .run | .step | .restart | .quit => return ⟨⟩

/-- Carry out a command with its operand, and answer with what follows it. -/
def execute (machine : LiveMachine) (command : Command)
    (operand : Option Expr) : Debugging Control := do
  enter .stopped
  perform machine command
    (operand.map (·.takeLiterally command.literalArguments))
  enter command.finalState
  return command.control

/--
Carry out the command on a line.  An empty line lets the program take a step.
A name that is no command is no error.
-/
def executeText (machine : LiveMachine) (text : String) :
    Debugging Control := do
  match Line.parse text 0 .debugger with
  | .error error => throw (.malformed error)
  | .ok (_, line) =>
      match line.instruction with
      | none =>
          enter .stepping
          return .leave
      | some instruction =>
          match Command.ofName? instruction.name with
          | some command => execute machine command line.operand
          | none =>
              write "Unknown command\n"
              return .stay

end Debugging

end Whirlwind
