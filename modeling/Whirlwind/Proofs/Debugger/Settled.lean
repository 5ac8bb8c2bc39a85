import Whirlwind.Debugger.Execute
import Whirlwind.Proofs.Files.Writing

/-!
# Commands where there is room

A line that is executed writes to the console here and there.  On a console
with room for all of it the line always comes to the same, and if it fails then
for a reason of its own and not because it could not write
(`Debugging.settled_executeText`).
-/

namespace Whirlwind

variable {Before Result : Type}

/-- An outcome that is not the failure to write. -/
def Undisturbed (outcome : Except DebuggerError Result) : Prop :=
  ∀ error, outcome ≠ .error (.io error)

theorem undisturbed_ok (result : Result) : Undisturbed (.ok result) :=
  fun _ => nofun

theorem Undisturbed.error {error : DebuggerError}
    (undisturbed : Undisturbed (.error error : Except DebuggerError Before)) :
    Undisturbed (.error error : Except DebuggerError Result) :=
  fun reason same =>
    undisturbed reason (congrArg Except.error (Except.error.inj same))

theorem Undisturbed.bind {found : Except DebuggerError Before}
    {proceed : Before → Except DebuggerError Result}
    (undisturbed : Undisturbed found)
    (later : ∀ result, Undisturbed (proceed result)) :
    Undisturbed (found >>= proceed) := by
  cases found with
  | ok result => exact later result
  | error error => exact undisturbed.error

theorem undisturbed_badArguments (found : Except ArgumentError Result) :
    Undisturbed (found.mapError .badArguments) := by
  cases found <;> exact nofun

/-! ## What commands find -/

theorem undisturbed_integerArgument (role : ArgumentRole) (value : Value) :
    Undisturbed (integerArgument role value) := by
  unfold integerArgument
  split <;> exact nofun

namespace Debugger

theorem undisturbed_argumentValues (debugger : Debugger)
    (machine : LiveMachine) (operand : Option Expr) :
    Undisturbed (debugger.argumentValues machine operand) := by
  unfold argumentValues
  split
  · exact nofun
  · split <;> exact nofun

theorem undisturbed_addBreakpoint (debugger : Debugger) (number : Int64) :
    Undisturbed (debugger.addBreakpoint number) := by
  unfold addBreakpoint
  split <;> exact nofun

theorem undisturbed_formatArgument (format : Option Value) :
    Undisturbed (formatArgument format) := by
  cases format with
  | none => exact undisturbed_ok _
  | some value => exact undisturbed_badArguments _

theorem undisturbed_printArguments (values : List Value) :
    Undisturbed (printArguments values) := by
  unfold printArguments
  split
  · exact undisturbed_ok _
  · exact (undisturbed_formatArgument _).bind fun _ => undisturbed_ok _
  · exact nofun

theorem undisturbed_valueText (machine : LiveMachine)
    (format : DisplayFormat) (isAddress : Bool) (number : Int64)
    (expr : Expr) :
    Undisturbed (valueText machine format isAddress number expr) := by
  unfold valueText
  split
  · exact undisturbed_ok _
  · exact (undisturbed_badArguments _).bind fun _ => undisturbed_ok _

theorem undisturbed_printText (debugger : Debugger) (machine : LiveMachine)
    (operand : Option Expr) :
    Undisturbed (debugger.printText machine operand) := by
  refine (undisturbed_argumentValues debugger machine operand).bind
    fun values => ?_
  refine (undisturbed_printArguments values).bind fun asked => ?_
  refine (undisturbed_integerArgument _ _).bind fun number => ?_
  split
  · exact undisturbed_valueText _ _ _ _ _
  · exact nofun

theorem undisturbed_blockArguments (values : List Value) :
    Undisturbed (blockArguments values) := by
  unfold blockArguments
  split <;> exact nofun

theorem undisturbed_blockText (debugger : Debugger) (machine : LiveMachine)
    (operand : Option Expr) :
    Undisturbed (debugger.blockText machine operand) := by
  refine (undisturbed_argumentValues debugger machine operand).bind
    fun values => ?_
  refine (undisturbed_blockArguments values).bind fun asked => ?_
  refine (undisturbed_integerArgument _ _).bind fun base => ?_
  refine (undisturbed_integerArgument _ _).bind fun count => ?_
  refine (undisturbed_formatArgument _).bind fun format => ?_
  split <;> exact nofun

end Debugger

namespace Debugging

/-- What an action of a debugger comes to where there is room, and what it
writes.  It is not disturbed by its console. -/
def Settled (action : Debugging Result) (debugger : Debugger) : Prop :=
  ∃ outcome last written, Undisturbed outcome ∧
    ComesTo Console.mk action debugger outcome last written

variable {debugger : Debugger}

theorem settled_pure (result : Result) (debugger : Debugger) :
    Settled (pure result) debugger :=
  ⟨_, _, _, undisturbed_ok result, comesTo_pure result debugger⟩

theorem settled_throw (error : DebuggerError)
    (undisturbed : Undisturbed (.error error : Except DebuggerError Result))
    (debugger : Debugger) : Settled (throw error : Debugging Result) debugger :=
  ⟨_, _, _, undisturbed, comesTo_throw error debugger⟩

theorem settled_require {found : Except DebuggerError Result}
    (undisturbed : Undisturbed found) (debugger : Debugger) :
    Settled (require found) debugger := by
  cases found with
  | ok result => exact settled_pure result debugger
  | error error => exact settled_throw error undisturbed debugger

theorem comesTo_write (text : String) (debugger : Debugger) :
    ComesTo Console.mk (write text) debugger (.ok ⟨⟩) debugger
      text.toUTF8 := by
  intro sink room
  rw [EStateM.run, write, Sink.run_write_of_hasRoom room]
  rfl

theorem settled_write (text : String) (debugger : Debugger) :
    Settled (write text) debugger :=
  ⟨_, _, _, undisturbed_ok _, comesTo_write text debugger⟩

theorem settled_modify (change : Debugger → Debugger) (debugger : Debugger) :
    Settled (modify fun console =>
      { console with debugger := change console.debugger }) debugger :=
  ⟨.ok ⟨⟩, change debugger, .empty, undisturbed_ok _,
    comesTo_of_silent fun _ => rfl⟩

theorem Settled.bind {action : Debugging Before}
    {proceed : Before → Debugging Result} (first : Settled action debugger)
    (later : ∀ result last, Settled (proceed result) last) :
    Settled (action >>= proceed) debugger := by
  rcases first with ⟨outcome, between, written, undisturbed, comes⟩
  cases outcome with
  | ok result =>
      rcases later result between with ⟨outcome, last, more, calm, goesOn⟩
      exact ⟨outcome, last, _, calm, comes.bind goesOn⟩
  | error error =>
      exact ⟨_, _, _, undisturbed.error, comes.bind_of_error⟩

/-- What looks at the console only for the debugger comes to the same as what
is told the debugger. -/
theorem comesTo_get_bind (look : Debugger → Debugging Result)
    {outcome : Except DebuggerError Result} {last : Debugger}
    {written : ByteArray}
    (comes : ComesTo Console.mk (look debugger) debugger outcome last
      written) :
    ComesTo Console.mk (get >>= fun console => look console.debugger) debugger
      outcome last written :=
  comes

theorem settled_get_bind (look : Debugger → Debugging Result)
    (debugger : Debugger) (settled : Settled (look debugger) debugger) :
    Settled (get >>= fun console => look console.debugger) debugger := by
  rcases settled with ⟨outcome, last, written, undisturbed, comes⟩
  exact ⟨outcome, last, written, undisturbed, comesTo_get_bind look comes⟩

/-! ## Commands -/

theorem settled_forM {action : Value → Debugging PUnit}
    (each : ∀ value debugger, Settled (action value) debugger)
    (values : List Value) (debugger : Debugger) :
    Settled (values.forM action) debugger := by
  induction values generalizing debugger with
  | nil => exact settled_pure _ debugger
  | cons value rest ih => exact (each value debugger).bind fun _ => ih

theorem settled_setBreakpoint (value : Value) (debugger : Debugger) :
    Settled (setBreakpoint value) debugger := by
  refine (settled_require (undisturbed_integerArgument _ _) debugger).bind
    fun number between => ?_
  refine settled_get_bind (fun debugger => require
    (debugger.addBreakpoint number) >>= _) between ?_
  refine (settled_require (Debugger.undisturbed_addBreakpoint _ _) _).bind
    fun added last => ?_
  refine (settled_modify (fun _ => added.2) last).bind fun _ last => ?_
  split
  · exact settled_write _ last
  · exact settled_pure _ last

theorem settled_deleteBreakpoint (value : Value) (debugger : Debugger) :
    Settled (deleteBreakpoint value) debugger := by
  refine (settled_require (undisturbed_integerArgument _ _) debugger).bind
    fun number last => ?_
  split
  · exact settled_modify (·.deleteBreakpoint _) last
  · exact settled_pure _ last

theorem settled_onEach {action : Value → Debugging PUnit}
    (each : ∀ value debugger, Settled (action value) debugger)
    (machine : LiveMachine) (operand : Option Expr)
    (missing : ArgumentError) (debugger : Debugger) :
    Settled (onEach machine operand missing action) debugger := by
  refine settled_get_bind (fun debugger => require
    (debugger.argumentValues machine operand) >>= _) debugger ?_
  refine (settled_require (Debugger.undisturbed_argumentValues _ _ _) _).bind
    fun values last => ?_
  cases values with
  | nil => exact settled_throw (.badArguments missing) nofun last
  | cons value rest => exact settled_forM each (value :: rest) last

theorem settled_perform (machine : LiveMachine) (command : Command)
    (operand : Option Expr) (debugger : Debugger) :
    Settled (perform machine command operand) debugger := by
  cases command with
  | print =>
      refine settled_get_bind (fun debugger => require
        (debugger.printText machine operand) >>= _) debugger ?_
      exact (settled_require (Debugger.undisturbed_printText _ _ _) _).bind
        fun text last => settled_write _ last
  | printBlock =>
      refine settled_get_bind (fun debugger => require
        (debugger.blockText machine operand) >>= _) debugger ?_
      exact (settled_require (Debugger.undisturbed_blockText _ _ _) _).bind
        fun text last => settled_write _ last
  | setBreakpoints => exact settled_onEach settled_setBreakpoint _ _ _ _
  | deleteBreakpoints => exact settled_onEach settled_deleteBreakpoint _ _ _ _
  | listBreakpoints =>
      exact settled_get_bind (fun debugger => write debugger.breakpointList)
        debugger (settled_write _ debugger)
  | help => exact settled_write _ debugger
  | run | step | restart | quit => exact settled_pure _ debugger

theorem settled_enter (state : ProgramState) (debugger : Debugger) :
    Settled (enter state) debugger :=
  settled_modify (fun before => { before with state := state }) debugger

theorem settled_execute (machine : LiveMachine) (command : Command)
    (operand : Option Expr) (debugger : Debugger) :
    Settled (execute machine command operand) debugger :=
  (settled_enter .stopped debugger).bind fun _ stopped =>
    (settled_perform machine command _ stopped).bind fun _ last =>
      (settled_enter command.finalState last).bind fun _ last =>
        settled_pure _ last

/-- Executing a line comes to the same wherever there is room for what it
writes, and does not fail to write it. -/
theorem settled_executeText (machine : LiveMachine) (text : String)
    (debugger : Debugger) : Settled (executeText machine text) debugger := by
  unfold executeText
  split
  · next error refused => exact settled_throw (.malformed error) nofun debugger
  · split
    · exact (settled_enter .stepping debugger).bind fun _ last =>
        settled_pure _ last
    · split
      · exact settled_execute _ _ _ debugger
      · exact (settled_write _ debugger).bind fun _ last =>
          settled_pure _ last

end Debugging

end Whirlwind
