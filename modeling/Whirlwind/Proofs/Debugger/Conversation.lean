import Whirlwind.Debugger.Prompt
import Whirlwind.Proofs.Debugger.Settled
import Whirlwind.Proofs.Text.Utf8

/-!
# The prompt as a fold

At the prompt lines are executed one after the other until one of them ends it.
Where there is room for all that is written, this is a fold of what executing
one line comes to (`Debugging.prompt_eq_foldl_hear`): the first line that does
not stay at the prompt ends the conversation, and those behind it are not read.
-/

namespace Whirlwind

namespace Debugging

/-! ## One line -/

/-- What executing a text comes to, and what it writes. -/
structure Reply where
  outcome : Except DebuggerError Control
  debugger : Debugger
  written : ByteArray

/-- Execute a text where nothing has been written and all can be. -/
def reply (machine : LiveMachine) (text : String) (debugger : Debugger) :
    Reply :=
  match (executeText machine text).run { debugger := debugger } with
  | .ok control last => ⟨.ok control, last.debugger, last.output.accepted⟩
  | .error error last => ⟨.error error, last.debugger, last.output.accepted⟩

namespace Reply

/-- What follows a line at the prompt.  One that fails stays there. -/
def control (reply : Reply) : Control :=
  match reply.outcome with
  | .ok control => control
  | .error _ => .stay

/-- What the prompt writes for a line: what executing it writes, and then why
it failed, if it did.  A line that is not well written is shown with a caret
under the place, and of any other error the message is shown. -/
def shown (reply : Reply) : ByteArray :=
  match reply.outcome with
  | .ok _ => reply.written
  | .error (.malformed (.malformed error)) =>
      reply.written ++
        (error.cause.message ++ ": \n" ++ error.lineText ++ "\n" ++
          String.ofList (List.replicate error.location.column ' ') ++
          "^\n").toUTF8
  | .error (.malformed error) =>
      reply.written ++ (error.message ++ "\n").toUTF8
  | .error error => reply.written ++ ("Error: " ++ error.message ++ "\n").toUTF8

theorem shown_of_error (error : DebuggerError) (debugger : Debugger)
    (written : ByteArray) :
    (Reply.mk (.error error) debugger written).shown =
      written ++ (failureText error).toUTF8 := by
  cases error with
  | malformed error => cases error <;> rfl
  | noValue | badArguments | addressOutOfRange | io => rfl

end Reply

variable {machine : LiveMachine} {text : String} {debugger last : Debugger}
  {outcome : Except DebuggerError Control} {written : ByteArray}

theorem reply_of_comesTo
    (comes : ComesTo Console.mk (executeText machine text) debugger outcome
      last written) :
    reply machine text debugger = ⟨outcome, last, written⟩ := by
  have run := comes {} (Sink.hasRoom_of_unlimited rfl written)
  rw [reply, run]
  cases outcome <;> simp [ended, Sink.push]

theorem comesTo_display (text : String) (debugger : Debugger) :
    ComesTo Console.mk (display text) debugger (.ok ⟨⟩) debugger
      text.toUTF8 := by
  intro sink room
  rw [EStateM.run, display, Sink.run_write_of_hasRoom room]
  rfl

theorem comesTo_reportFailure (error : DebuggerError) (debugger : Debugger) :
    ComesTo Console.mk (reportFailure error) debugger (.ok .stay) debugger
      (failureText error).toUTF8 := by
  rw [← ByteArray.append_empty (b := (failureText error).toUTF8)]
  exact (comesTo_display _ debugger).bind (comesTo_pure _ debugger)

/-- The prompt shows what executing a line writes and why it fails, and goes on
as the line says. -/
theorem comesTo_answerLine (machine : LiveMachine) (text : String)
    (debugger : Debugger) :
    ComesTo Console.mk (answerLine machine text) debugger
      (.ok (reply machine (typedText text) debugger).control)
      (reply machine (typedText text) debugger).debugger
      (reply machine (typedText text) debugger).shown := by
  rcases settled_executeText machine (typedText text) debugger with
    ⟨outcome, last, written, undisturbed, comes⟩
  rw [reply_of_comesTo comes]
  intro sink room
  cases outcome with
  | ok control =>
      rw [EStateM.run, answerLine, comes sink room]
      rfl
  | error error =>
      rw [Reply.shown_of_error] at room ⊢
      rcases Sink.hasRoom_append_iff.1 room with ⟨now, afterwards⟩
      have reported := comesTo_reportFailure error last _ afterwards
      rw [EStateM.run, answerLine, comes sink now]
      cases error with
      | io error => exact absurd rfl (undisturbed error)
      | malformed | noValue | badArguments | addressOutOfRange =>
          simp only [ended, reported, Sink.push_push]
          rfl

theorem comesTo_answerBytes (machine : LiveMachine) (text : String)
    (debugger : Debugger) :
    ComesTo Console.mk (answerBytes machine (Text.encode text)) debugger
      (.ok (reply machine (typedText text) debugger).control)
      (reply machine (typedText text) debugger).debugger
      (reply machine (typedText text) debugger).shown := by
  rw [answerBytes, Text.decode?_encode]
  exact comesTo_answerLine machine text debugger

end Debugging

/-! ## All lines -/

/-- A conversation at the prompt, as far as it has come. -/
structure Conversation where
  debugger : Debugger
  written : ByteArray
  /-- What follows the last line that has been executed. -/
  control : Control := .stay
  /-- The lines behind the one that has ended the conversation. -/
  unread : List String := []

/-- Conversations are equal if what they have come to is. -/
instance : DecidableEq Conversation := fun left right =>
  decidable_of_iff
    (left.debugger = right.debugger ∧
      left.written.data = right.written.data ∧
      left.control = right.control ∧ left.unread = right.unread)
    (by
      cases left
      cases right
      simp [ByteArray.ext_iff])

namespace Conversation

open Debugging (reply typedText promptText)

/-- A conversation begins with the line of the source where the program has
stopped. -/
def begin (machine : LiveMachine) (place : Address) (debugger : Debugger) :
    Conversation where
  debugger := debugger
  written := (machine.sourceLine place ++ "\n").toUTF8

/-- Execute a line behind a prompt, unless the conversation has ended. -/
def hear (machine : LiveMachine) (place : Address)
    (conversation : Conversation) (line : String) : Conversation :=
  match conversation.control with
  | .stay =>
      let reply := reply machine (typedText line) conversation.debugger
      { debugger := reply.debugger
        written :=
          conversation.written ++ ((promptText place).toUTF8 ++ reply.shown)
        control := reply.control }
  | .leave | .quit =>
      { conversation with unread := conversation.unread ++ [line] }

/-- All that a conversation writes when no lines follow.  If it has not ended,
there is one more prompt. -/
def transcript (place : Address) (conversation : Conversation) : ByteArray :=
  match conversation.control with
  | .stay => conversation.written ++ (promptText place).toUTF8
  | .leave | .quit => conversation.written

/-- How the session goes on when no lines follow.  A program that is to be
restarted runs from then on. -/
def conclusion (conversation : Conversation) : Resumption × Debugger :=
  match conversation.control, conversation.debugger.state with
  | .leave, .restarting =>
      (.restart, { conversation.debugger with state := .running })
  | .leave, _ => (.proceed, conversation.debugger)
  | .stay, _ | .quit, _ => (.quit, conversation.debugger)

/-- How the prompt is left when no lines follow, if its output starts with a
sink. -/
def outcome (place : Address) (conversation : Conversation) (sink : Sink) :
    PromptOutcome where
  result := .ok conversation.conclusion.1
  console :=
    { debugger := conversation.conclusion.2
      output := sink.push (conversation.transcript place) }
  unread := conversation.unread.map Text.encode

variable {machine : LiveMachine} {place : Address} {sink : Sink}
  {conversation : Conversation}

theorem hear_of_stay (stays : conversation.control = .stay) (line : String) :
    conversation.hear machine place line =
      { debugger :=
          (reply machine (typedText line) conversation.debugger).debugger
        written := conversation.written ++ ((promptText place).toUTF8 ++
          (reply machine (typedText line) conversation.debugger).shown)
        control :=
          (reply machine (typedText line)
            conversation.debugger).control } := by
  rw [hear, stays]

theorem hear_of_ended (ended : conversation.control ≠ .stay) (line : String) :
    conversation.hear machine place line =
      { conversation with unread := conversation.unread ++ [line] } := by
  rw [hear]
  cases said : conversation.control with
  | stay => exact absurd said ended
  | leave | quit => rfl

/-- Lines behind the end of a conversation are not read. -/
theorem foldl_hear_of_ended (ended : conversation.control ≠ .stay)
    (lines : List String) :
    lines.foldl (hear machine place) conversation =
      { conversation with unread := conversation.unread ++ lines } := by
  induction lines generalizing conversation with
  | nil => rw [List.append_nil, List.foldl_nil]
  | cons line rest ih =>
      rw [List.foldl_cons, hear_of_ended ended,
        List.append_cons conversation.unread line rest]
      exact ih ended

/-- What has been written stays at the beginning of what is written. -/
theorem exists_transcript_foldl_hear (lines : List String)
    (conversation : Conversation) :
    ∃ more, (lines.foldl (hear machine place) conversation).transcript place =
      conversation.written ++ more := by
  induction lines generalizing conversation with
  | nil =>
      rw [List.foldl_nil, transcript]
      split
      · exact ⟨_, rfl⟩
      · exact ⟨.empty, ByteArray.append_empty.symm⟩
      · exact ⟨.empty, ByteArray.append_empty.symm⟩
  | cons line rest ih =>
      rcases ih (conversation.hear machine place line) with ⟨more, written⟩
      rw [List.foldl_cons, written]
      by_cases stays : conversation.control = .stay
      · rw [hear_of_stay stays, ByteArray.append_assoc]
        exact ⟨_, rfl⟩
      · rw [hear_of_ended stays]
        exact ⟨more, rfl⟩

theorem hasRoom_of_hasRoom_transcript {lines : List String}
    (room : sink.HasRoom
      ((lines.foldl (hear machine place) conversation).transcript place)) :
    sink.HasRoom conversation.written := by
  rcases exists_transcript_foldl_hear lines conversation with ⟨more, written⟩
  rw [written] at room
  exact (Sink.hasRoom_append_iff.1 room).1

end Conversation

namespace Debugging

open Conversation (hear)

variable {machine : LiveMachine} {place : Address} {sink : Sink}
  {conversation : Conversation}

/-- A line is executed behind a prompt.  What has ended then is left, and
otherwise the lines behind it follow. -/
theorem promptFrom_cons (stays : conversation.control = .stay)
    (line : String) (rest : List String)
    (room : sink.HasRoom (conversation.hear machine place line).written) :
    promptFrom machine place ((line :: rest).map Text.encode)
        ⟨conversation.debugger, sink.push conversation.written⟩ =
      match (conversation.hear machine place line).control with
      | .stay =>
          promptFrom machine place (rest.map Text.encode)
            ⟨(conversation.hear machine place line).debugger,
              sink.push (conversation.hear machine place line).written⟩
      | .leave | .quit =>
          { conversation.hear machine place line with
            unread := rest }.outcome place sink := by
  rw [Conversation.hear_of_stay stays] at room ⊢
  rcases Sink.hasRoom_append_iff.1 room with ⟨_, later⟩
  rcases Sink.hasRoom_append_iff.1 later with ⟨now, afterwards⟩
  have asked := comesTo_display _ conversation.debugger _ now
  have answered := comesTo_answerBytes machine line _ _ afterwards
  rw [List.map_cons, promptFrom, asked]
  simp only [ended]
  rw [answered]
  simp only [ended, Sink.push_push, ByteArray.append_assoc]
  cases said : (reply machine (typedText line)
      conversation.debugger).control with
  | stay | quit => rfl
  | leave =>
      simp only [resume, Conversation.outcome, Conversation.conclusion]
      cases (reply machine (typedText line)
        conversation.debugger).debugger.state <;> rfl

theorem promptFrom_eq_foldl_hear (stays : conversation.control = .stay)
    (everything : conversation.unread = []) (lines : List String)
    (room : sink.HasRoom
      ((lines.foldl (hear machine place) conversation).transcript place)) :
    promptFrom machine place (lines.map Text.encode)
        ⟨conversation.debugger, sink.push conversation.written⟩ =
      (lines.foldl (hear machine place) conversation).outcome place sink := by
  induction lines generalizing conversation with
  | nil =>
      rw [List.foldl_nil] at room ⊢
      rw [Conversation.transcript, stays] at room
      have asked := comesTo_display (promptText place) conversation.debugger
        _ (Sink.hasRoom_append_iff.1 room).2
      rw [List.map_nil, promptFrom, asked]
      simp only [ended, Sink.push_push, Conversation.outcome,
        Conversation.conclusion, Conversation.transcript, stays, everything]
      rfl
  | cons line rest ih =>
      rw [List.foldl_cons] at room ⊢
      rw [promptFrom_cons stays line rest
        (Conversation.hasRoom_of_hasRoom_transcript room)]
      have noneYet : (conversation.hear machine place line).unread = [] := by
        rw [Conversation.hear_of_stay stays]
      split
      · next goesOn => exact ih goesOn noneYet room
      all_goals
        next ends =>
          rw [Conversation.foldl_hear_of_ended (by rw [ends]; nofun), noneYet,
            List.nil_append]

/--
What the debugger does at an address, given an input that is a text.  A running
program that is at no breakpoint goes on, and nothing is read or written.
Otherwise the lines of the input are executed as a fold, up to the first one
that does not stay at the prompt.
-/
theorem prompt_eq_foldl_hear (machine : LiveMachine) (place : Address)
    (text : String) (console : Console) :
    let input := Text.lines Source.newline (Text.encode text)
    let conversation := (Text.textLines text).foldl (hear machine place)
      (.begin machine place console.debugger)
    let passes := console.debugger.state = .running ∧
      console.debugger.hasBreakpoint place = false
    (passes → prompt machine place input console =
      ⟨.ok .proceed, console, input⟩) ∧
    (¬ passes → console.output.HasRoom (conversation.transcript place) →
      prompt machine place input console =
        conversation.outcome place console.output) := by
  intro input conversation passes
  have test : (console.debugger.state = .running &&
      !console.debugger.hasBreakpoint place) = true ↔ passes := by
    simp [passes]
  constructor
  · intro goesOn
    rw [prompt, if_pos (test.2 goesOn)]
  · intro stops room
    have shown := comesTo_display (machine.sourceLine place ++ "\n")
      console.debugger _ (Conversation.hasRoom_of_hasRoom_transcript room)
    rw [prompt, if_neg (mt test.1 stops), shown]
    simp only [ended, input, Text.lines_encode]
    exact promptFrom_eq_foldl_hear rfl rfl _ room

/-- A name that is no command does not leave the prompt, and the line behind
it, which ends in a carriage return, restarts the program.  A running program
is not stopped. -/
theorem prompt_eq_foldl_hear_restart :
    let machine : LiveMachine :=
      { readRegister := fun _ => none
        readMemory := fun _ => none
        disassemble := fun _ => "" }
    let place : Address := ⟨7, by decide⟩
    let input :=
      Text.lines Source.newline (Text.encode "go\nrs\r\nquit\n")
    let console : Console :=
      { debugger := { symbols := {}, state := .stepping }
        output := .withRoom (some 80) }
    let running : Console :=
      { debugger := { symbols := {}, state := .running } }
    prompt machine place input console =
        ⟨.ok .restart,
          { debugger := running.debugger
            output := console.output.push
              "7: \ndbg 7> Unknown command\ndbg 7> ".toUTF8 },
          [Text.encode "quit\n"]⟩ ∧
      prompt machine place input running = ⟨.ok .proceed, running, input⟩ := by
  intro machine place input console running
  have heard :
      (Text.textLines "go\nrs\r\nquit\n").foldl (hear machine place)
          (.begin machine place console.debugger) =
        { debugger := { symbols := {}, state := .restarting }
          written := "7: \ndbg 7> Unknown command\ndbg 7> ".toUTF8
          control := .leave
          unread := ["quit\n"] } := by
    decide +kernel
  have stopped := (prompt_eq_foldl_hear machine place "go\nrs\r\nquit\n"
    console).2 (by decide)
  rw [heard] at stopped
  constructor
  · exact stopped (by intro room limited; cases limited; decide)
  · exact (prompt_eq_foldl_hear machine place "go\nrs\r\nquit\n"
      running).1 (by decide)

end Debugging

end Whirlwind
