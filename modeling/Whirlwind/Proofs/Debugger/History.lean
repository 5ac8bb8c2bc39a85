import Whirlwind.Debugger.Prompt
import Whirlwind.Proofs.Debugger.Request

/-!
# Breakpoints through a session

Whoever uses a debugger calls it again and again: for another run of the
program, with a line to execute, or at the prompt with all lines of an input.
Every call makes changes to the breakpoints, one after the other
(`Debugger.breakpoints_called`), so what holds of changes in order holds
through all sessions (`Debugger.keepsBreakpoints_afterCalls`).
-/

namespace Whirlwind

open Breakpoints (Change SetSince)

namespace Debugging

/-! ## The prompt -/

theorem debugger_after_display (text : String) (console : Console) :
    (after (display text) console).debugger = console.debugger := by
  unfold after display EStateM.run
  dsimp only
  cases Sink.write text console.output <;> rfl

theorem debugger_after_reportFailure (error : DebuggerError)
    (console : Console) :
    (after (reportFailure error) console).debugger = console.debugger := by
  rw [reportFailure, after_bind_pure]
  exact debugger_after_display _ console

/-- To report that a line has failed changes nothing. -/
theorem debugger_after_answerLine (machine : LiveMachine) (text : String)
    (console : Console) :
    (after (answerLine machine text) console).debugger =
      (after (executeText machine (typedText text)) console).debugger := by
  cases run : (executeText machine (typedText text)).run console with
  | ok control between =>
      rw [after_of_ok run, after, EStateM.run, answerLine, run]
  | error reason between =>
      rw [after_of_error run, after, EStateM.run, answerLine, run]
      cases reason with
      | io error => rfl
      | malformed | noValue | badArguments | addressOutOfRange =>
          exact debugger_after_reportFailure _ between

/-- The changes that are made when a line of the input is executed. -/
def lineChanges (machine : LiveMachine) (bytes : List UInt8)
    (console : Console) : List Change :=
  match Text.decode? bytes with
  | none => []
  | some text => textChanges machine (typedText text) console

theorem breakpoints_after_answerBytes (machine : LiveMachine)
    (bytes : List UInt8) (console : Console) :
    (after (answerBytes machine bytes) console).debugger.breakpoints =
      console.debugger.breakpoints.changed
        (lineChanges machine bytes console) := by
  rw [answerBytes, lineChanges]
  cases Text.decode? bytes with
  | none => rfl
  | some text =>
      rcases debugger_after_executeText machine (typedText text) console with
        ⟨state, left⟩
      simp only [debugger_after_answerLine, left]
      rfl

/-- The changes that are made at the prompt, which is left at the first line
that does not stay at it. -/
def promptFromChanges (machine : LiveMachine) (place : Address) :
    List (List UInt8) → Console → List Change
  | [], _ => []
  | bytes :: rest, console =>
      match (display (promptText place)).run console with
      | .error _ _ => []
      | .ok _ asked =>
          lineChanges machine bytes asked ++
            match (answerBytes machine bytes).run asked with
            | .ok .stay last => promptFromChanges machine place rest last
            | _ => []

theorem breakpoints_resume (console : Console) :
    (resume console).2.debugger.breakpoints =
      console.debugger.breakpoints := by
  unfold resume
  split <;> rfl

theorem breakpoints_promptFrom (machine : LiveMachine) (place : Address)
    (lines : List (List UInt8)) (console : Console) :
    (promptFrom machine place lines console).console.debugger.breakpoints =
      console.debugger.breakpoints.changed
        (promptFromChanges machine place lines console) := by
  induction lines generalizing console with
  | nil =>
      have shown := debugger_after_display (promptText place) console
      rw [promptFrom, promptFromChanges, ← shown]
      cases run : (display (promptText place)).run console with
      | ok _ asked =>
          rw [after_of_ok run]
          rfl
      | error error asked =>
          rw [after_of_error run]
          rfl
  | cons bytes rest ih =>
      have shown := debugger_after_display (promptText place) console
      rw [promptFrom, promptFromChanges, ← shown]
      cases run : (display (promptText place)).run console with
      | error error asked =>
          rw [after_of_error run]
          rfl
      | ok _ asked =>
          rw [after_of_ok run]
          have effect := breakpoints_after_answerBytes machine bytes asked
          cases answered : (answerBytes machine bytes).run asked with
          | error error last =>
              rw [after_of_error answered] at effect
              simpa [answered] using effect
          | ok control last =>
              rw [after_of_ok answered] at effect
              cases control with
              | stay => simp [answered, ih, effect]
              | leave => simp [answered, breakpoints_resume, effect]
              | quit => simpa [answered] using effect

/-- The changes that are made before the program takes its next instruction. -/
def promptChanges (machine : LiveMachine) (place : Address)
    (lines : List (List UInt8)) (console : Console) : List Change :=
  if console.debugger.state = .running &&
      !console.debugger.hasBreakpoint place then
    []
  else
    match (display (machine.sourceLine place ++ "\n")).run console with
    | .error _ _ => []
    | .ok _ last => promptFromChanges machine place lines last

theorem breakpoints_prompt (machine : LiveMachine) (place : Address)
    (lines : List (List UInt8)) (console : Console) :
    (prompt machine place lines console).console.debugger.breakpoints =
      console.debugger.breakpoints.changed
        (promptChanges machine place lines console) := by
  have shown :=
    debugger_after_display (machine.sourceLine place ++ "\n") console
  rw [prompt, promptChanges]
  split
  · rfl
  · cases run : (display (machine.sourceLine place ++ "\n")).run console with
    | error error last =>
        rw [after_of_error run] at shown
        rw [← shown]
        rfl
    | ok _ last =>
        rw [after_of_ok run] at shown
        rw [← shown]
        exact breakpoints_promptFrom machine place lines last

end Debugging

/-! ## Sessions -/

namespace Debugger

/-- A call of a debugger, with all that it is given. -/
inductive Call where
  | reset (symbols : SymbolTable)
  | execute (machine : LiveMachine) (text : String) (output : Sink)
  | prompt (machine : LiveMachine) (place : Address)
      (lines : List (List UInt8)) (output : Sink)
  | addBreakpoint (number : Int64)
  | deleteBreakpoint (id : Nat)

/-- The debugger after a call, which may have failed. -/
def called (debugger : Debugger) : Call → Debugger
  | .reset symbols => debugger.reset symbols
  | .execute machine text output =>
      (Debugging.after (Debugging.executeText machine text)
        ⟨debugger, output⟩).debugger
  | .prompt machine place lines output =>
      (Debugging.prompt machine place lines
        ⟨debugger, output⟩).console.debugger
  | .addBreakpoint number =>
      match debugger.addBreakpoint number with
      | .ok (_, after) => after
      | .error _ => debugger
  | .deleteBreakpoint id => debugger.deleteBreakpoint id

/-- The changes that a call makes to breakpoints. -/
def callChanges (debugger : Debugger) : Call → List Change
  | .reset _ => []
  | .execute machine text output =>
      Debugging.textChanges machine text ⟨debugger, output⟩
  | .prompt machine place lines output =>
      Debugging.promptChanges machine place lines ⟨debugger, output⟩
  | .addBreakpoint number =>
      match Address.ofInteger number with
      | .ok address => [.set address]
      | .error _ => []
  | .deleteBreakpoint id => [.delete id]

theorem breakpoints_called (debugger : Debugger) (call : Call) :
    (debugger.called call).breakpoints =
      debugger.breakpoints.changed (debugger.callChanges call) := by
  cases call with
  | reset symbols => rfl
  | execute machine text output =>
      rcases Debugging.debugger_after_executeText machine text
        ⟨debugger, output⟩ with ⟨state, left⟩
      rw [called, left]
      rfl
  | prompt machine place lines output =>
      exact Debugging.breakpoints_prompt machine place lines ⟨_, output⟩
  | addBreakpoint number =>
      simp only [called, callChanges, addBreakpoint]
      cases Address.ofInteger number <;> rfl
  | deleteBreakpoint id => rfl

/-- The debugger after calls, in order. -/
def afterCalls (debugger : Debugger) (calls : List Call) : Debugger :=
  calls.foldl called debugger

/-- The changes that calls make to breakpoints, in order. -/
def history (debugger : Debugger) : List Call → List Change
  | [] => []
  | call :: rest =>
      debugger.callChanges call ++ (debugger.called call).history rest

theorem breakpoints_afterCalls (debugger : Debugger) (calls : List Call) :
    (debugger.afterCalls calls).breakpoints =
      debugger.breakpoints.changed (debugger.history calls) := by
  induction calls generalizing debugger with
  | nil => rfl
  | cons call rest ih =>
      rw [history, Breakpoints.changed_append, ← breakpoints_called]
      exact ih (debugger.called call)

/-- All breakpoints that have been made in a debugger from the first call on,
and those that further changes make, are fewer than there are numbers. -/
def EnoughNumbers (debugger : Debugger) (changes : List Change) : Prop :=
  ∃ symbols calls,
    debugger = afterCalls { symbols := symbols } calls ∧
      ({} : Breakpoints).created
        (history { symbols := symbols } calls ++ changes) < UInt32.size

theorem sound_afterCalls {symbols : SymbolTable} {calls : List Call}
    (few : ({} : Breakpoints).created (history { symbols := symbols } calls) <
      UInt32.size) :
    (afterCalls { symbols := symbols } calls).breakpoints.Sound := by
  rw [breakpoints_afterCalls]
  exact Breakpoints.sound_empty.changed (Breakpoints.room_empty few)

variable {debugger : Debugger} {changes : List Change}

theorem EnoughNumbers.room (enough : debugger.EnoughNumbers changes) :
    debugger.breakpoints.Room changes := by
  rcases enough with ⟨symbols, calls, rfl, few⟩
  rw [breakpoints_afterCalls]
  exact (Breakpoints.room_empty few).drop

theorem EnoughNumbers.sound (enough : debugger.EnoughNumbers changes) :
    debugger.breakpoints.Sound := by
  rcases enough with ⟨symbols, calls, rfl, few⟩
  rw [breakpoints_afterCalls]
  exact Breakpoints.sound_empty.changed (Breakpoints.room_empty few).append

/-- What holds of the breakpoints of a debugger, and of the changes that have
been made to them from the first on. -/
structure KeepsBreakpoints (debugger : Debugger) (changes : List Change) :
    Prop where
  changed : debugger.breakpoints = ({} : Breakpoints).changed changes
  /-- The two maps are inverse to each other. -/
  inverse :
    ∀ id address, debugger.breakpoints.byId.get? id = some address ↔
      debugger.breakpoints.byAddress.get? address = some id
  /-- The breakpoints are listed by their numbers, each one once. -/
  listed :
    ∀ id address, (id, address) ∈ debugger.breakpoints.byId.entries ↔
      debugger.breakpoints.byId.get? id = some address
  ascending :
    debugger.breakpoints.byId.entries.Pairwise fun first second =>
      first.1 < second.1
  below :
    ∀ id address, debugger.breakpoints.byId.get? id = some address →
      id < debugger.breakpoints.nextId.toNat
  /-- The counter has not come round. -/
  counted :
    debugger.breakpoints.nextId.toNat = ({} : Breakpoints).created changes
  inMemory :
    ∀ id address, debugger.breakpoints.byId.get? id = some address →
      address.number ≤ 0o3777
  /-- At any two times a number stands for one address, if it stands for any. -/
  once :
    ∀ earlier later id first second,
      (({} : Breakpoints).changed (changes.take earlier)).byId.get? id =
        some first →
      (({} : Breakpoints).changed (changes.take later)).byId.get? id =
        some second →
      first = second
  /-- Where there is a breakpoint, setting one gives its number. -/
  again :
    ∀ number address id, Address.ofInteger number = .ok address →
      debugger.breakpoints.byAddress.get? address = some id →
      debugger.addBreakpoint number = .ok (id, debugger)
  /-- The number that setting a breakpoint gives stands for its address. -/
  given :
    ∀ number address, Address.ofInteger number = .ok address →
      ∃ id after, debugger.addBreakpoint number = .ok (id, after) ∧
        after.breakpoints.byId.get? id = some address
  standing :
    ∀ address, debugger.hasBreakpoint address = true ↔
      SetSince changes address

theorem keepsBreakpoints_afterCalls (symbols : SymbolTable)
    (calls : List Call)
    (few : ({} : Breakpoints).created (history { symbols := symbols } calls) <
      UInt32.size) :
    KeepsBreakpoints (afterCalls { symbols := symbols } calls)
      (history { symbols := symbols } calls) := by
  have sound := sound_afterCalls few
  have changed := breakpoints_afterCalls { symbols := symbols } calls
  generalize afterCalls { symbols := symbols } calls = debugger
    at changed sound
  generalize history { symbols := symbols } calls = changes at changed few
  have room := Breakpoints.room_empty few
  constructor
  case changed => exact changed
  case inverse => exact sound.inverse
  case listed => exact fun _ _ => sound.ascending.mem_entries_iff
  case ascending => exact sound.ascending
  case below => exact sound.given
  case counted =>
    rw [changed, Breakpoints.nextId_changed room]
    exact Nat.zero_add _
  case inMemory => exact fun _ address _ => address.number_le
  case once =>
    intro earlier later id first second
    exact Breakpoints.sound_empty.addressOf?_unique room
  case again =>
    intro number address id inside known
    rw [addBreakpoint, inside]
    simp only [Breakpoints.add_of_idAt? known]
  case given =>
    intro number address inside
    rw [addBreakpoint, inside]
    exact ⟨_, _, rfl, sound.addressOf?_add_self address⟩
  case standing =>
    intro address
    rw [hasBreakpoint, changed]
    exact Breakpoints.contains_changed_iff changes

/-- A breakpoint that is deleted and set again gets a number of its own. -/
theorem keepsBreakpoints_afterCalls_setAgain :
    let machine : LiveMachine :=
      { readRegister := fun _ => none
        readMemory := fun _ => none
        disassemble := fun _ => "" }
    let calls : List Call :=
      [.addBreakpoint 5, .execute machine "b 5, 6" {}, .deleteBreakpoint 0,
        .addBreakpoint 5]
    history { symbols := {} } calls =
        [.set ⟨5, by decide⟩, .set ⟨5, by decide⟩, .set ⟨6, by decide⟩,
          .delete 0, .set ⟨5, by decide⟩] ∧
      (afterCalls { symbols := {} } calls).breakpoints =
        { nextId := 3
          byId := ⟨[(1, ⟨6, by decide⟩), (2, ⟨5, by decide⟩)]⟩
          byAddress := ⟨[(⟨5, by decide⟩, 2), (⟨6, by decide⟩, 1)]⟩ } ∧
      KeepsBreakpoints (afterCalls { symbols := {} } calls)
        (history { symbols := {} } calls) :=
  ⟨by decide +kernel, by decide +kernel,
    keepsBreakpoints_afterCalls _ _ (by decide +kernel)⟩

end Debugger

end Whirlwind
