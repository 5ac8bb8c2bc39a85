import Whirlwind.Debugger.Execute
import Whirlwind.Proofs.Debugger.Breakpoints

/-!
# What commands do to a debugger

A command is made of actions on a console, and any of them can fail.  What is
followed here is the debugger that is left, however an action turns out.  Most
actions leave it as it is.  A command on breakpoints makes one change for each
of its arguments, up to the one that it fails on
(`debugger_after_perform`).
-/

namespace Whirlwind

open Breakpoints (Change)

/-- A debugger with changes made to its breakpoints. -/
def Debugger.changed (debugger : Debugger) (changes : List Change) :
    Debugger :=
  { debugger with breakpoints := debugger.breakpoints.changed changes }

@[simp]
theorem Debugger.changed_append (debugger : Debugger)
    (front back : List Change) :
    debugger.changed (front ++ back) =
      (debugger.changed front).changed back := by
  simp [changed]

/-- A console whose debugger is in another state. -/
def Console.inState (console : Console) (state : ProgramState) : Console :=
  { console with debugger := { console.debugger with state := state } }

namespace Debugging

variable {Before After Result Error : Type} {console between : Console}

/-- The console that an action leaves, whether it fails or not. -/
def after (action : EStateM Error Console Result) (console : Console) :
    Console :=
  match action.run console with
  | .ok _ last => last
  | .error _ last => last

/-! ## Single actions -/

theorem run_bind_of_ok {action : EStateM Error Console Before}
    {proceed : Before → EStateM Error Console After} {result : Before}
    (run : action.run console = .ok result between) :
    (action >>= proceed).run console = (proceed result).run between := by
  rw [EStateM.run] at run
  simp [EStateM.run, bind, EStateM.bind, run]

theorem run_bind_of_error {action : EStateM Error Console Before}
    {proceed : Before → EStateM Error Console After} {error : Error}
    (run : action.run console = .error error between) :
    (action >>= proceed).run console = .error error between := by
  rw [EStateM.run] at run
  simp [EStateM.run, bind, EStateM.bind, run]

theorem after_of_ok {action : EStateM Error Console Result} {result : Result}
    (run : action.run console = .ok result between) :
    after action console = between := by
  rw [after, run]

theorem after_of_error {action : EStateM Error Console Result} {error : Error}
    (run : action.run console = .error error between) :
    after action console = between := by
  rw [after, run]

/-- An answer that is given anyway changes nothing. -/
@[simp]
theorem after_bind_pure (action : EStateM Error Console Before)
    (answer : After) (console : Console) :
    after (action >>= fun _ => pure answer) console =
      after action console := by
  cases run : action.run console with
  | ok result between =>
      rw [after, run_bind_of_ok run, after_of_ok run]
      rfl
  | error error between =>
      rw [after, run_bind_of_error run, after_of_error run]

/-- Writing changes nothing in the debugger, even if not all is written. -/
theorem debugger_after_write (text : String) (console : Console) :
    (after (write text) console).debugger = console.debugger := by
  unfold after write EStateM.run
  dsimp only
  cases Sink.write text console.output <;> rfl

/-- What has to be found is found, or nothing is done. -/
theorem after_require_bind (found : Except DebuggerError Before)
    (proceed : Before → Debugging After) (console : Console) :
    after (require found >>= proceed) console =
      match found with
      | .ok result => after (proceed result) console
      | .error _ => console := by
  cases found <;> rfl

@[simp]
theorem after_get_bind (proceed : Console → Debugging After)
    (console : Console) :
    after (get >>= proceed) console = after (proceed console) console :=
  rfl

@[simp]
theorem after_modify_bind (update : Console → Console)
    (proceed : PUnit → Debugging After) (console : Console) :
    after (modify update >>= proceed) console =
      after (proceed ⟨⟩) (update console) :=
  rfl

/-! ## Arguments that are breakpoints -/

/-- The change that setting a breakpoint at an argument makes. -/
def settings (value : Value) : List Change :=
  match integerArgument .breakpointAddress value with
  | .error _ => []
  | .ok number =>
      match Address.ofInteger number with
      | .error _ => []
      | .ok address => [.set address]

/-- The change that deleting the breakpoint of an argument makes. -/
def deletions (value : Value) : List Change :=
  match integerArgument .breakpointId value with
  | .error _ => []
  | .ok number =>
      if 0 ≤ number.toInt ∧ number.toInt < UInt32.size then
        [.delete number.toInt.toNat]
      else []

theorem debugger_after_setBreakpoint (value : Value) (console : Console) :
    (after (setBreakpoint value) console).debugger =
      console.debugger.changed (settings value) := by
  rw [setBreakpoint, after_require_bind, settings]
  cases integerArgument .breakpointAddress value with
  | error => rfl
  | ok number =>
      simp only [after_get_bind, after_require_bind, Debugger.addBreakpoint]
      cases Address.ofInteger number with
      | error => rfl
      | ok address =>
          simp only [after_modify_bind]
          split
          · exact debugger_after_write _ _
          · rfl

theorem debugger_after_deleteBreakpoint (value : Value)
    (console : Console) :
    (after (deleteBreakpoint value) console).debugger =
      console.debugger.changed (deletions value) := by
  rw [deleteBreakpoint, after_require_bind, deletions]
  cases integerArgument .breakpointId value with
  | error => rfl
  | ok number =>
      simp only
      split <;> rfl

/-! ## Arguments in order -/

/-- The values that an action on each of them is started with. -/
def startedOn (action : Value → Debugging PUnit) :
    List Value → Console → List Value
  | [], _ => []
  | value :: rest, console =>
      value ::
        match (action value).run console with
        | .ok _ between => startedOn action rest between
        | .error _ _ => []

/-- An action on each value changes what it changes for those values that it is
started with. -/
theorem debugger_after_forM {action : Value → Debugging PUnit}
    {changesOf : Value → List Change}
    (effect : ∀ value console, (after (action value) console).debugger =
      console.debugger.changed (changesOf value))
    (values : List Value) (console : Console) :
    (after (values.forM action) console).debugger =
      console.debugger.changed
        ((startedOn action values console).flatMap changesOf) := by
  induction values generalizing console with
  | nil => rfl
  | cons value rest ih =>
      have head := effect value console
      rw [List.forM, startedOn, List.flatMap_cons, Debugger.changed_append,
        ← head]
      cases run : (action value).run console with
      | ok result between =>
          rw [after, run_bind_of_ok run, after_of_ok run]
          exact ih between
      | error error between =>
          rw [after, run_bind_of_error run, after_of_error run]
          rfl

/-- The arguments of a command that an action on each is started with. -/
def argumentsStarted (machine : LiveMachine) (operand : Option Expr)
    (action : Value → Debugging PUnit) (console : Console) : List Value :=
  match console.debugger.argumentValues machine operand with
  | .error _ => []
  | .ok values => startedOn action values console

/-- A command that acts on each of its arguments makes the changes of those
that it starts with. -/
theorem debugger_after_onEach {action : Value → Debugging PUnit}
    {changesOf : Value → List Change}
    (effect : ∀ value console, (after (action value) console).debugger =
      console.debugger.changed (changesOf value))
    (machine : LiveMachine) (operand : Option Expr)
    (missing : ArgumentError) (console : Console) :
    (after (onEach machine operand missing action) console).debugger =
      console.debugger.changed
        ((argumentsStarted machine operand action console).flatMap
          changesOf) := by
  rw [onEach, after_get_bind, after_require_bind, argumentsStarted]
  cases console.debugger.argumentValues machine operand with
  | error => rfl
  | ok values =>
      cases values with
      | nil => rfl
      | cons value rest => exact debugger_after_forM effect _ console

/-! ## Commands -/

/-- The changes that a command makes to breakpoints. -/
def commandChanges (machine : LiveMachine) (command : Command)
    (operand : Option Expr) (console : Console) : List Change :=
  match command with
  | .setBreakpoints =>
      (argumentsStarted machine operand setBreakpoint console).flatMap
        settings
  | .deleteBreakpoints =>
      (argumentsStarted machine operand deleteBreakpoint console).flatMap
        deletions
  | _ => []

/-- Carrying out a command changes the breakpoints, if anything. -/
theorem debugger_after_perform (machine : LiveMachine) (command : Command)
    (operand : Option Expr) (console : Console) :
    (after (perform machine command operand) console).debugger =
      console.debugger.changed
        (commandChanges machine command operand console) := by
  cases command with
  | setBreakpoints =>
      exact debugger_after_onEach debugger_after_setBreakpoint _ _ _ console
  | deleteBreakpoints =>
      exact debugger_after_onEach debugger_after_deleteBreakpoint _ _ _
        console
  | print | printBlock =>
      rw [perform, after_get_bind, after_require_bind]
      split
      · rw [debugger_after_write]
        rfl
      · rfl
  | listBreakpoints =>
      rw [perform, after_get_bind, debugger_after_write]
      rfl
  | help =>
      rw [perform, debugger_after_write]
      rfl
  | run | step | restart | quit => rfl

end Debugging

end Whirlwind
