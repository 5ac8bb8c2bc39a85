import Whirlwind.Proofs.Debugger.Effect
import Whirlwind.Proofs.Line.Command

/-!
# What a line asks for

A line is malformed, or blank, or it starts with a name that may be that of a
command.  Which of these it is says what executing it does, and which changes
to breakpoints it makes (`Debugging.textChanges`).
-/

namespace Whirlwind

open Breakpoints (Change)

/-- What a line asks of the debugger. -/
inductive Request where
  | malformed (error : ParseError)
  | nothing
  | named (name : String) (operand : Option Expr)
  deriving DecidableEq, Repr

/-- What a text asks for when it is typed. -/
def Request.ofText (text : String) : Request :=
  match Line.parse text 0 .debugger with
  | .error error => .malformed error
  | .ok (_, line) =>
      match line.instruction with
      | none => .nothing
      | some instruction => .named instruction.name line.operand

namespace Debugging

variable {console : Console} {text name : String}

/-- Do what is asked for. -/
def fulfil (machine : LiveMachine) : Request → Debugging Control
  | .malformed error => throw (.malformed error)
  | .nothing => do
      enter .stepping
      return .leave
  | .named name operand =>
      match Command.ofName? name with
      | some command => execute machine command operand
      | none => do
          write "Unknown command\n"
          return .stay

theorem executeText_eq (machine : LiveMachine) (text : String) :
    executeText machine text = fulfil machine (.ofText text) := by
  rw [executeText, Request.ofText]
  cases Line.parse text 0 .debugger with
  | error => rfl
  | ok answer =>
      rcases answer with ⟨has, line⟩
      cases said : line.instruction with
      | none =>
          simp only [said]
          rfl
      | some instruction =>
          simp only [said]
          rfl

/-! ## Commands -/

variable {machine : LiveMachine} {command : Command} {operand : Option Expr}

/-- Carry out a command on the operand that was typed. -/
def carryOut (machine : LiveMachine) (command : Command)
    (operand : Option Expr) : Debugging PUnit :=
  perform machine command
    (operand.map (·.takeLiterally command.literalArguments))

/-- The changes to breakpoints that executing a command makes. -/
def executeChanges (machine : LiveMachine) (command : Command)
    (operand : Option Expr) (console : Console) : List Change :=
  commandChanges machine command
    (operand.map (·.takeLiterally command.literalArguments))
    (console.inState .stopped)

/-- A command is carried out when the program is stopped.  If this succeeds,
the command says how the program goes on. -/
theorem execute_run (machine : LiveMachine) (command : Command)
    (operand : Option Expr) (console : Console) :
    (execute machine command operand).run console =
      match (carryOut machine command operand).run
          (console.inState .stopped) with
      | .ok _ last => .ok command.control (last.inState command.finalState)
      | .error error last => .error error last := by
  have stops : (enter .stopped).run console =
      .ok ⟨⟩ (console.inState .stopped) := rfl
  rw [execute, run_bind_of_ok stops, ← carryOut]
  cases run : (carryOut machine command operand).run
      (console.inState .stopped) with
  | ok _ last =>
      rw [run_bind_of_ok run]
      rfl
  | error error last => rw [run_bind_of_error run]

/-- Executing a command changes the breakpoints as the command does, and leaves
the program stopped if the command fails. -/
theorem debugger_after_execute (machine : LiveMachine) (command : Command)
    (operand : Option Expr) (console : Console) :
    ∃ state, (state = command.finalState ∨ state = .stopped) ∧
      (after (execute machine command operand) console).debugger =
        { console.debugger.changed
            (executeChanges machine command operand console) with
          state := state } := by
  have effect : (after (carryOut machine command operand)
      (console.inState .stopped)).debugger =
        (console.inState .stopped).debugger.changed
          (executeChanges machine command operand console) :=
    debugger_after_perform machine command _ _
  rw [after, execute_run]
  cases run : (carryOut machine command operand).run
      (console.inState .stopped) with
  | ok _ last =>
      rw [after_of_ok run] at effect
      refine ⟨command.finalState, Or.inl rfl, ?_⟩
      simp only [Console.inState, effect]
      rfl
  | error error last =>
      rw [after_of_error run] at effect
      exact ⟨.stopped, Or.inr rfl, effect⟩

/-- The changes to breakpoints that are made when something is asked for. -/
def requestChanges (machine : LiveMachine) (console : Console) :
    Request → List Change
  | .named name operand =>
      match Command.ofName? name with
      | some command => executeChanges machine command operand console
      | none => []
  | .malformed _ | .nothing => []

/-- The changes to breakpoints that executing a text makes. -/
def textChanges (machine : LiveMachine) (text : String) (console : Console) :
    List Change :=
  requestChanges machine console (.ofText text)

/-- A text changes the breakpoints and the state, and nothing else. -/
theorem debugger_after_executeText (machine : LiveMachine) (text : String)
    (console : Console) :
    ∃ state, (after (executeText machine text) console).debugger =
      { console.debugger.changed (textChanges machine text console) with
        state := state } := by
  rw [executeText_eq, textChanges]
  cases Request.ofText text with
  | malformed error => exact ⟨_, rfl⟩
  | nothing => exact ⟨_, rfl⟩
  | named name operand =>
      simp only [fulfil, requestChanges]
      cases Command.ofName? name with
      | some command =>
          rcases debugger_after_execute machine command operand console with
            ⟨state, _, left⟩
          exact ⟨state, left⟩
      | none =>
          rw [after_bind_pure]
          exact ⟨_, debugger_after_write _ console⟩

end Debugging

end Whirlwind
