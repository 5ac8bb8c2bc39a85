import Whirlwind.Proofs.Debugger.History

/-!
# How the prompt leaves the program

A command may ask for a restart, and then the program is restarting until the
prompt is left.  Between the calls of a debugger that is asked at the prompt it
never is, whatever is typed there and however much of the output can be written
(`Debugger.rests_afterCalls`).
-/

namespace Whirlwind

namespace Debugging

variable {Error : Type} {console between : Console}

/-! ## One line -/

/-- How an action heeds the state of the program.  What lets the program go on
does not leave it stopped, and what does not leaves the state as it was or
stops the program. -/
def Heeds (console : Console) : EStateM.Result Error Console Control → Prop
  | .ok .leave last => last.debugger.state ≠ .stopped
  | .ok .stay last | .ok .quit last | .error _ last =>
      last.debugger.state = console.debugger.state ∨
        last.debugger.state = .stopped

/-- What is only written leaves the state alone, written or not. -/
theorem heeds_bind_stay {action : EStateM Error Console PUnit}
    (writes : (after action between).debugger = between.debugger)
    (before : between.debugger.state = console.debugger.state ∨
      between.debugger.state = .stopped) :
    Heeds console ((action >>= fun _ => pure .stay).run between) := by
  rw [← writes] at before
  cases run : action.run between with
  | ok _ last =>
      rw [after_of_ok run] at before
      rw [run_bind_of_ok run]
      exact before
  | error error last =>
      rw [after_of_error run] at before
      rw [run_bind_of_error run]
      exact before

theorem state_after_carryOut (machine : LiveMachine) (command : Command)
    (operand : Option Expr) (console : Console) :
    (after (carryOut machine command operand) console).debugger.state =
      console.debugger.state := by
  rw [carryOut, debugger_after_perform]
  rfl

theorem heeds_execute (machine : LiveMachine) (command : Command)
    (operand : Option Expr) (console : Console) :
    Heeds console ((execute machine command operand).run console) := by
  have kept := state_after_carryOut machine command operand
    (console.inState .stopped)
  rw [execute_run]
  cases run : (carryOut machine command operand).run
      (console.inState .stopped) with
  | ok _ last =>
      cases command with
      | run | step | restart => exact nofun
      | print | printBlock | setBreakpoints | deleteBreakpoints
      | listBreakpoints | help | quit => exact Or.inr rfl
  | error error last =>
      rw [after_of_error run] at kept
      exact Or.inr kept

theorem heeds_executeText (machine : LiveMachine) (text : String)
    (console : Console) :
    Heeds console ((executeText machine text).run console) := by
  rw [executeText_eq]
  cases Request.ofText text with
  | malformed error => exact Or.inl rfl
  | nothing => exact nofun
  | named name operand =>
      rw [fulfil]
      cases Command.ofName? name with
      | some command => exact heeds_execute machine command operand console
      | none => exact heeds_bind_stay (debugger_after_write _ _) (Or.inl rfl)

theorem heeds_answerLine (machine : LiveMachine) (text : String)
    (console : Console) :
    Heeds console ((answerLine machine text).run console) := by
  have heeds := heeds_executeText machine (typedText text) console
  rw [EStateM.run, answerLine]
  cases run : (executeText machine (typedText text)).run console with
  | ok control last =>
      rw [run] at heeds
      cases control <;> exact heeds
  | error error last =>
      rw [run] at heeds
      cases error with
      | io error => exact heeds
      | malformed | noValue | badArguments | addressOutOfRange =>
          exact heeds_bind_stay (debugger_after_display _ _) heeds

theorem heeds_answerBytes (machine : LiveMachine) (bytes : List UInt8)
    (console : Console) :
    Heeds console ((answerBytes machine bytes).run console) := by
  rw [answerBytes]
  cases Text.decode? bytes with
  | none => exact Or.inl rfl
  | some text => exact heeds_answerLine machine text console

/-! ## All lines -/

/-- How the prompt leaves the program, if there were lines to read.  It does
not leave it restarting, and where the program stops it lets it go on only if a
line was read. -/
structure Rests (stops : Prop) (lines : List (List UInt8))
    (outcome : PromptOutcome) : Prop where
  rests : outcome.console.debugger.state ≠ .restarting
  restarted :
    outcome.result = .ok .restart → outcome.console.debugger.state = .running
  proceeded :
    outcome.result = .ok .proceed →
      outcome.console.debugger.state = .running ∨
        outcome.console.debugger.state = .stepping
  reads :
    stops → outcome.result = .ok .proceed ∨ outcome.result = .ok .restart →
      ∃ read, read ≠ [] ∧ read ++ outcome.unread = lines

variable {machine : LiveMachine} {place : Address} {stops : Prop}
  {lines : List (List UInt8)} {bytes : List UInt8} {outcome : PromptOutcome}

theorem Rests.of_not_going_on
    (rests : outcome.console.debugger.state ≠ .restarting)
    (proceeds : outcome.result ≠ .ok .proceed)
    (restarts : outcome.result ≠ .ok .restart) : Rests stops lines outcome where
  rests := rests
  restarted := fun same => absurd same restarts
  proceeded := fun same => absurd same proceeds
  reads := fun _ same => (same.elim proceeds restarts).elim

/-- Another line in front is read with the others. -/
theorem Rests.cons (rests : Rests stops lines outcome) (bytes : List UInt8) :
    Rests stops (bytes :: lines) outcome where
  rests := rests.rests
  restarted := rests.restarted
  proceeded := rests.proceeded
  reads := by
    intro stops goesOn
    rcases rests.reads stops goesOn with ⟨read, _, same⟩
    exact ⟨bytes :: read, nofun, congrArg (bytes :: ·) same⟩

/-- Where a line has let the program go on, a restart is over. -/
theorem rests_resume (going : console.debugger.state ≠ .stopped) :
    Rests stops (bytes :: lines)
      ⟨.ok (resume console).1, (resume console).2, lines⟩ := by
  have reads : ∃ read, read ≠ [] ∧ read ++ lines = bytes :: lines :=
    ⟨[bytes], nofun, rfl⟩
  unfold resume
  cases state : console.debugger.state with
  | stopped => exact absurd state going
  | restarting => exact ⟨nofun, fun _ => rfl, nofun, fun _ _ => reads⟩
  | running =>
      exact ⟨by rw [state]; nofun, nofun, fun _ => Or.inl state,
        fun _ _ => reads⟩
  | stepping =>
      exact ⟨by rw [state]; nofun, nofun, fun _ => Or.inr state,
        fun _ _ => reads⟩

theorem ne_restarting_of_heeds
    (before : console.debugger.state ≠ .restarting)
    (either : between.debugger.state = console.debugger.state ∨
      between.debugger.state = .stopped) :
    between.debugger.state ≠ .restarting := by
  rcases either with kept | stopped
  · rwa [kept]
  · rw [stopped]
    nofun

/-- What the prompt writes leaves the state alone, and if it cannot be written
the prompt is left without going on. -/
theorem rests_display {text : String} {outcome : Console → PromptOutcome}
    {unread : List (List UInt8)}
    (before : console.debugger.state ≠ .restarting)
    (later : ∀ between : Console, between.debugger = console.debugger →
      Rests stops lines (outcome between)) :
    Rests stops lines
      (match (display text).run console with
        | .error error last => ⟨.error error, last, unread⟩
        | .ok _ last => outcome last) := by
  have shown := debugger_after_display text console
  cases run : (display text).run console with
  | ok _ last =>
      rw [after_of_ok run] at shown
      exact later last shown
  | error error last =>
      rw [after_of_error run] at shown
      rw [← shown] at before
      exact .of_not_going_on before nofun nofun

/-- The prompt does not leave the program restarting, if it was not before. -/
theorem rests_promptFrom (machine : LiveMachine) (place : Address)
    (lines : List (List UInt8)) (console : Console)
    (before : console.debugger.state ≠ .restarting) :
    Rests stops lines (promptFrom machine place lines console) := by
  induction lines generalizing console with
  | nil =>
      refine rests_display before fun asked same => ?_
      rw [← same] at before
      exact .of_not_going_on before nofun nofun
  | cons bytes rest ih =>
      refine rests_display before fun asked same => ?_
      rw [← same] at before
      have heeds := heeds_answerBytes machine bytes asked
      cases answered : (answerBytes machine bytes).run asked with
      | error error last =>
          rw [answered] at heeds
          exact .of_not_going_on (ne_restarting_of_heeds before heeds)
            nofun nofun
      | ok control last =>
          rw [answered] at heeds
          cases control with
          | stay =>
              exact (ih last (ne_restarting_of_heeds before heeds)).cons bytes
          | leave => exact rests_resume heeds
          | quit =>
              exact .of_not_going_on (ne_restarting_of_heeds before heeds)
                nofun nofun

theorem rests_prompt (machine : LiveMachine) (place : Address)
    (lines : List (List UInt8)) (console : Console)
    (before : console.debugger.state ≠ .restarting) :
    Rests (console.debugger.state ≠ .running ∨
        console.debugger.hasBreakpoint place = true)
      lines (prompt machine place lines console) := by
  rw [prompt]
  split
  · next passes =>
    simp only [Bool.and_eq_true, decide_eq_true_eq, Bool.not_eq_true'] at passes
    exact
      { rests := before
        restarted := by
          intro same
          cases same
        proceeded := fun _ => Or.inl passes.1
        reads := by
          intro stops
          rcases stops with running | present
          · exact absurd passes.1 running
          · rw [passes.2] at present
            cases present }
  · refine rests_display before fun between same => ?_
    rw [← same] at before
    exact rests_promptFrom machine place lines between before

end Debugging

/-! ## Sessions -/

namespace Debugger

/-- A call that does not execute a line away from the prompt. -/
def Call.Prompted : Call → Prop
  | .execute _ _ _ => False
  | .reset _ | .prompt _ _ _ _ | .addBreakpoint _ | .deleteBreakpoint _ => True

variable {debugger : Debugger}

theorem state_addBreakpoint {number : Int64} {id : Nat} {after : Debugger}
    (added : debugger.addBreakpoint number = .ok (id, after)) :
    after.state = debugger.state := by
  unfold addBreakpoint at added
  split at added
  · cases added
  · cases added
    rfl

theorem ne_restarting_called (call : Call) (prompted : call.Prompted)
    (before : debugger.state ≠ .restarting) :
    (debugger.called call).state ≠ .restarting := by
  cases call with
  | reset symbols => exact nofun
  | execute machine text output => exact prompted.elim
  | prompt machine place lines output =>
      exact (Debugging.rests_prompt machine place lines _ before).rests
  | addBreakpoint number =>
      rw [called]
      split
      · next added =>
        rw [state_addBreakpoint added]
        exact before
      · exact before
  | deleteBreakpoint id => exact before

theorem ne_restarting_afterCalls (calls : List Call)
    (prompted : ∀ call ∈ calls, call.Prompted)
    (before : debugger.state ≠ .restarting) :
    (debugger.afterCalls calls).state ≠ .restarting := by
  induction calls generalizing debugger with
  | nil => exact before
  | cons call rest ih =>
      rw [List.forall_mem_cons] at prompted
      exact ih prompted.2 (ne_restarting_called call prompted.1 before)

/--
A debugger that is asked at the prompt only is at rest between its calls: it is
not restarting.  The next time it is asked, it says what state the program is
in, and where the program stops it goes on only if a line was read.
-/
theorem rests_afterCalls (symbols : SymbolTable) (calls : List Call)
    (prompted : ∀ call ∈ calls, call.Prompted) :
    let debugger := afterCalls { symbols := symbols } calls
    (debugger.state = .running ∨ debugger.state = .stepping ∨
        debugger.state = .stopped) ∧
      ∀ machine place lines output,
        Debugging.Rests
          (debugger.state ≠ .running ∨ debugger.hasBreakpoint place = true)
          lines (Debugging.prompt machine place lines ⟨debugger, output⟩) := by
  intro debugger
  have rests : debugger.state ≠ .restarting :=
    ne_restarting_afterCalls calls prompted nofun
  constructor
  · cases state : debugger.state with
    | running => exact Or.inl rfl
    | stepping => exact Or.inr (Or.inl rfl)
    | stopped => exact Or.inr (Or.inr rfl)
    | restarting => exact absurd state rests
  · intro machine place lines output
    exact Debugging.rests_prompt machine place lines ⟨debugger, output⟩ rests

/-- A running program stops at a breakpoint and is restarted there. -/
theorem rests_afterCalls_restart :
    let machine : LiveMachine :=
      { readRegister := fun _ => none
        readMemory := fun _ => none
        disassemble := fun _ => "" }
    let place : Address := ⟨5, by decide⟩
    let calls : List Call :=
      [.addBreakpoint 5, .prompt machine place [Text.encode "r\n"] {}]
    let debugger := afterCalls { symbols := {} } calls
    let left := Debugging.prompt machine place [Text.encode "rs\n"]
      { debugger := debugger }
    (∀ call ∈ calls, call.Prompted) ∧ debugger.state = .running ∧
      left.result = .ok .restart ∧ left.console.debugger.state = .running ∧
      ∃ read, read ≠ [] ∧ read ++ left.unread = [Text.encode "rs\n"] := by
  intro machine place calls debugger left
  have prompted : ∀ call ∈ calls, call.Prompted :=
    List.forall_mem_cons.2 ⟨trivial, List.forall_mem_singleton.2 trivial⟩
  have restarts : left.result = .ok .restart := by decide +kernel
  have stops : debugger.hasBreakpoint place = true := by decide +kernel
  have leaves := (rests_afterCalls {} calls prompted).2 machine place
    [Text.encode "rs\n"] {}
  exact ⟨prompted, by decide +kernel, restarts, leaves.restarted restarts,
    leaves.reads (Or.inr stops) (Or.inr restarts)⟩

end Debugger

end Whirlwind
