import Whirlwind.Token.Lexer.Weight

/-!
# The lexer as a state machine

Tokens can be read one character at a time.  A machine looks at the next
character and, by the phase that it is in, goes on with the token that it has
started or is done with it (`Automaton.act`).  Its phase is kept from one call
to the next, and whatever is done sets it anew.

A turn that goes on reads a character or leaves a phase for one that is closer
to reading (`Automaton.act_follows`), so every call comes to an end.
-/

namespace Whirlwind

/-- A cursor that has a character ahead takes no line. -/
theorem Cursor.settle_of_ahead {cursor : Cursor} (left : cursor.ahead ≠ []) :
    cursor.settle = cursor := by
  unfold settle
  split
  · next none_ahead _ => exact absurd none_ahead left
  · rfl

namespace Automaton

/-- What a machine is in the middle of. -/
inductive Phase where
  /-- Between two tokens. -/
  | start
  /-- Behind one at sign. -/
  | atSign
  /-- In a comment behind two at signs. -/
  | autoComment
  /-- Behind a leading zero, which may start a radix mark. -/
  | zero
  | digits
  | hexDigits
  | identifier
  | comment
  /-- Behind one at sign in a comment. -/
  | commentAt
  | quoted
  /-- Behind a backslash in a string. -/
  | quotedEscape
  /-- In a run, in a notation that has them. -/
  | run
  deriving DecidableEq, Repr

/-- How many turns a machine can take in a phase before it has to read. -/
def Phase.rank : Phase → Nat
  | .zero => 2
  | .digits | .hexDigits | .commentAt | .quotedEscape => 1
  | .start | .atSign | .autoComment | .identifier | .comment | .quoted
  | .run => 0

/-- The text of a token as far as it has been read, and where it starts. -/
structure Draft where
  text : List Char
  start : Location
  deriving DecidableEq, Repr

/-- Add a character to the text of a token. -/
def Draft.push (draft : Draft) (character : Char) : Draft :=
  { draft with text := draft.text ++ [character] }

end Automaton

/-- A state machine that reads the tokens of a text. -/
structure Automaton where
  cursor : Cursor
  grammar : Grammar
  phase : Automaton.Phase := .start
  deriving DecidableEq, Repr

namespace Automaton

/-- A machine at the start of a text whose first line has a given number. -/
def ofText (text : String) (firstLine : Nat) (grammar : Grammar) :
    Automaton where
  cursor := Cursor.ofText text firstLine
  grammar := grammar

/-- What a machine does about the next character. -/
inductive Turn where
  /-- It goes on with the token. -/
  | onward (machine : Automaton) (draft : Draft)
  /-- It is done with the token. -/
  | done (result : EStateM.Result SyntaxError Automaton Token)

/-- Have the next character buffered. -/
def settle (machine : Automaton) : Automaton :=
  { machine with cursor := machine.cursor.settle }

/-- Read the next character. -/
def advance (machine : Automaton) : Automaton :=
  { machine with cursor := (Cursor.advance.run machine.cursor).2 }

/-- Go on with a token in a phase. -/
def goOn (machine : Automaton) (phase : Phase) (draft : Draft) : Turn :=
  .onward { machine with phase := phase } draft

/-- Answer with a token, and be in a phase behind it. -/
def emitThen (machine : Automaton) (lexeme : Lexeme) (location : Location)
    (phase : Phase) : Turn :=
  .done (.ok ⟨lexeme, location⟩ { machine with phase := phase })

/-- Answer with a token, and start afresh behind it. -/
def emit (machine : Automaton) (lexeme : Lexeme) (location : Location) : Turn :=
  machine.emitThen lexeme location .start

/-- Answer with an error, and start afresh behind it. -/
def fail (machine : Automaton) (cause : SyntaxError.Cause)
    (location : Location) : Turn :=
  .done (.error ⟨cause, location, machine.cursor.lineText⟩
    { machine with phase := .start })

/-- A bound on the turns that are still to come. -/
def weight (machine : Automaton) : Nat :=
  3 * machine.cursor.remaining.length + machine.phase.rank

@[simp]
theorem weight_settle (machine : Automaton) :
    machine.settle.weight = machine.weight := by
  simp [weight, settle]

/-- Reading a character that is ahead skips it. -/
theorem advance_eq {machine : Automaton} {character : Char} {rest : List Char}
    (ahead : machine.cursor.ahead = character :: rest) :
    machine.advance =
      { machine with cursor := machine.cursor.skip [character] } := by
  have settled : machine.cursor.settle = machine.cursor :=
    Cursor.settle_of_ahead (by simp [ahead])
  show { machine with cursor := machine.cursor.settle.skip _ } = _
  rw [settled, ahead]
  rfl

/-- Whether a character belongs to a run, in a notation that has runs. -/
def isInRun (grammar : Grammar) (character : Char) : Bool :=
  !(Text.isBlank character || character = '"' || grammar.isMark character)

/-! ## What a machine does in a phase -/

section

variable (machine : Automaton) (draft : Draft)

/-- Start a number or a name, or fail if the character starts neither. -/
def startWord (next : Char) : Turn :=
  if next = '0' then machine.advance.goOn .zero (draft.push next)
  else if next.isDigit then machine.advance.goOn .digits (draft.push next)
  else if Scan.isNameStart next then
    machine.advance.goOn .identifier (draft.push next)
  else machine.fail (.illegalCharacter next) machine.cursor.locationHere

def actStart : Option Char → Turn
  | none => machine.emit .finish machine.cursor.locationHere
  | some next =>
      let draft := { draft with start := machine.cursor.locationHere }
      if machine.grammar.hasTabs && next = '\t' then
        machine.advance.emit .tab draft.start
      else if Text.isBlank next then machine.advance.goOn .start draft
      else if next = '"' then machine.advance.goOn .quoted draft
      else if machine.grammar.hasComments && next = ';' then
        machine.advance.goOn .comment draft
      else if machine.grammar.hasAtSign && next = '@' then
        machine.advance.goOn .atSign draft
      else if machine.grammar.isMark next then
        machine.advance.emit (.operator (.mark next)) draft.start
      else if machine.grammar.hasRuns then
        machine.advance.goOn .run (draft.push next)
      else machine.startWord draft next

def actAtSign : Option Char → Turn
  | some '@' => machine.advance.goOn .autoComment draft
  | _ => machine.emit (.operator (.mark '@')) draft.start

def actAutoComment : Option Char → Turn
  | none | some '\n' =>
      machine.emit (.autoComment (String.ofList (Text.trimReturns draft.text)))
        draft.start
  | some next => machine.advance.goOn .autoComment (draft.push next)

def actComment : Option Char → Turn
  | none | some '\n' =>
      machine.emit (.comment (String.ofList (Text.trimReturns draft.text)))
        draft.start
  | some '@' => machine.advance.goOn .commentAt draft
  | some next => machine.advance.goOn .comment (draft.push next)

/-- The second at sign ends the comment, and another comment is due. -/
def actCommentAt : Option Char → Turn
  | some '@' =>
      machine.advance.emitThen (.comment (String.ofList draft.text)) draft.start
        .autoComment
  | _ => machine.goOn .comment (draft.push '@')

/-- Be done with a word, if what follows can end it. -/
def close (turn : Turn) : Option Char → Turn
  | none => turn
  | some next =>
      if machine.grammar.isTerminator next then turn
      else machine.fail (.illegalCharacter next) machine.cursor.locationHere

def actZero (next : Option Char) : Turn :=
  if next = some 'o' then
    machine.advance.emitThen (.operator .octal) draft.start .digits
  else if next = some 'x' then
    machine.advance.emitThen (.operator .hexadecimal) draft.start .hexDigits
  else if next.any Char.isDigit then machine.goOn .digits draft
  else if next.any Scan.isNameChar then machine.goOn .identifier draft
  else
    machine.close
      (machine.emit (.digits (String.ofList draft.text)) draft.start) next

/-- A radix mark may have no digits behind it. -/
def actDigits (isDigit : Char → Bool) (next : Option Char) : Turn :=
  match next.filter isDigit, next.filter Scan.isNameChar with
  | some digit, _ => machine.advance.goOn machine.phase (draft.push digit)
  | none, some letter => machine.advance.goOn .identifier (draft.push letter)
  | none, none =>
      machine.close
        (if draft.text = [] then machine.goOn .start draft
          else machine.emit (.digits (String.ofList draft.text)) draft.start)
        next

def actIdentifier (next : Option Char) : Turn :=
  match next.filter Scan.isNameChar with
  | some letter => machine.advance.goOn .identifier (draft.push letter)
  | none =>
      machine.close
        (machine.emit (.identifier (String.ofList draft.text)) draft.start) next

def actQuoted : Option Char → Turn
  | none | some '\n' => machine.fail .unterminatedString draft.start
  | some '"' =>
      machine.advance.emit (.string (String.ofList draft.text)) draft.start
  | some '\\' => machine.advance.goOn .quotedEscape draft
  | some next => machine.advance.goOn .quoted (draft.push next)

/-- A backslash in front of a letter without a meaning stands for itself. -/
def actQuotedEscape : Option Char → Turn
  | none | some '\n' => machine.fail .unterminatedString draft.start
  | some next =>
      match Scan.escape? next with
      | some decoded => machine.advance.goOn .quoted (draft.push decoded)
      | none => machine.goOn .quoted (draft.push '\\')

def actRun (next : Option Char) : Turn :=
  match next.filter (isInRun machine.grammar) with
  | some character => machine.advance.goOn .run (draft.push character)
  | none =>
      let text := String.ofList draft.text
      machine.emit
        (if Scan.isName draft.text then .identifier text else .digits text)
        draft.start

/-- What a machine does about the next character, by its phase. -/
def act (next : Option Char) : Turn :=
  match machine.phase with
  | .start => machine.actStart draft next
  | .atSign => machine.actAtSign draft next
  | .autoComment => machine.actAutoComment draft next
  | .zero => machine.actZero draft next
  | .digits => machine.actDigits draft Char.isDigit next
  | .hexDigits => machine.actDigits draft Scan.isHexDigit next
  | .identifier => machine.actIdentifier draft next
  | .comment => machine.actComment draft next
  | .commentAt => machine.actCommentAt draft next
  | .quoted => machine.actQuoted draft next
  | .quotedEscape => machine.actQuotedEscape draft next
  | .run => machine.actRun draft next

end

/-! ## Every call comes to an end -/

/--
What a turn can be: the machine reads the next character, it leaves its phase
for one of a lower rank, or it is done.
-/
inductive Turn.Follows (machine : Automaton) (next : Option Char) : Turn → Prop
  | reads {character : Char} {phase : Phase} {draft : Draft}
      (there : next = some character) :
      Follows machine next (machine.advance.goOn phase draft)
  | stays {phase : Phase} {draft : Draft}
      (lower : phase.rank < machine.phase.rank) :
      Follows machine next (machine.goOn phase draft)
  | done {result : EStateM.Result SyntaxError Automaton Token} :
      Follows machine next (.done result)

section

variable {machine : Automaton} {draft : Draft} {next : Option Char}

theorem close_follows {turn : Turn} (follows : turn.Follows machine next) :
    (machine.close turn next).Follows machine next := by
  unfold close
  split
  · exact follows
  split
  · exact follows
  · exact .done

theorem startWord_follows {character : Char} (there : next = some character) :
    (machine.startWord draft character).Follows machine next := by
  unfold startWord
  repeat' split
  all_goals first | exact .done | exact .reads there

theorem actStart_follows :
    (machine.actStart draft next).Follows machine next := by
  unfold actStart
  split
  · exact .done
  · repeat' split
    all_goals
      first | exact .done | exact .reads rfl | exact startWord_follows rfl

theorem actZero_follows (rank : machine.phase.rank = 2) :
    (machine.actZero draft next).Follows machine next := by
  unfold actZero
  split
  · exact .done
  split
  · exact .done
  split
  · exact .stays (by rw [rank]; decide)
  split
  · exact .stays (by rw [rank]; decide)
  · exact close_follows .done

theorem actDigits_follows {isDigit : Char → Bool}
    (rank : machine.phase.rank = 1) :
    (machine.actDigits draft isDigit next).Follows machine next := by
  unfold actDigits
  split
  · next digit _ found =>
    exact .reads (Option.filter_eq_some_iff.1 found).1
  · next letter _ found =>
    exact .reads (Option.filter_eq_some_iff.1 found).1
  · refine close_follows ?_
    split
    · exact .stays (by rw [rank]; decide)
    · exact .done

theorem actIdentifier_follows :
    (machine.actIdentifier draft next).Follows machine next := by
  unfold actIdentifier
  split
  · next letter found =>
    exact .reads (Option.filter_eq_some_iff.1 found).1
  · exact close_follows .done

theorem actQuotedEscape_follows (rank : machine.phase.rank = 1) :
    (machine.actQuotedEscape draft next).Follows machine next := by
  unfold actQuotedEscape
  split
  · exact .done
  · exact .done
  split
  · exact .reads rfl
  · exact .stays (by rw [rank]; decide)

theorem actRun_follows : (machine.actRun draft next).Follows machine next := by
  unfold actRun
  split
  · next character found =>
    exact .reads (Option.filter_eq_some_iff.1 found).1
  · exact .done

theorem act_follows (machine : Automaton) (draft : Draft)
    (next : Option Char) : (machine.act draft next).Follows machine next := by
  unfold act
  split
  · exact actStart_follows
  · unfold actAtSign
    split
    · exact .reads rfl
    · exact .done
  · unfold actAutoComment
    split
    · exact .done
    · exact .done
    · exact .reads rfl
  · next phase => exact actZero_follows (by rw [phase]; rfl)
  · next phase => exact actDigits_follows (by rw [phase]; rfl)
  · next phase => exact actDigits_follows (by rw [phase]; rfl)
  · exact actIdentifier_follows
  · unfold actComment
    split
    · exact .done
    · exact .done
    · exact .reads rfl
    · exact .reads rfl
  · next phase =>
    unfold actCommentAt
    split
    · exact .done
    · exact .stays (by rw [phase]; decide)
  · unfold actQuoted
    split
    · exact .done
    · exact .done
    · exact .done
    · exact .reads rfl
    · exact .reads rfl
  · next phase => exact actQuotedEscape_follows (by rw [phase]; rfl)
  · exact actRun_follows

/-- Reading a character leaves room for all turns that may follow. -/
theorem weight_lt_of_onward {later : Automaton} {draftLater : Draft}
    (goesOn : machine.act draft machine.cursor.ahead.head? =
      .onward later draftLater) :
    later.weight < machine.weight := by
  have follows := machine.act_follows draft machine.cursor.ahead.head?
  rw [goesOn] at follows
  generalize same : Turn.onward later draftLater = turn at follows
  cases follows with
  | @reads character phase draft there =>
      rcases Turn.onward.inj same with ⟨rfl, _⟩
      have low : phase.rank < 3 := by cases phase <;> decide
      rcases List.head?_eq_some_iff.1 there with ⟨rest, ahead⟩
      have before := machine.cursor.length_remaining
      have after := machine.cursor.length_remaining_skip [character]
      rw [ahead, List.length_cons] at before after
      rw [List.length_singleton] at after
      rw [advance_eq ahead]
      simp only [weight]
      omega
  | stays lower =>
      rcases Turn.onward.inj same with ⟨rfl, _⟩
      simp only [weight]
      omega
  | done => cases same

end

/-! ## Calls -/

/-- Go on with a token until it is done. -/
def run (machine : Automaton) (draft : Draft) :
    EStateM.Result SyntaxError Automaton Token :=
  let here := machine.settle
  match _turned : here.act draft here.cursor.ahead.head? with
  | .onward later draft => later.run draft
  | .done result => result
  termination_by machine.weight
  decreasing_by
    have spent := weight_lt_of_onward _turned
    rwa [weight_settle] at spent

/-- Read a token. -/
def next : EStateM SyntaxError Automaton Token := fun machine =>
  let here := machine.settle
  here.run ⟨[], here.cursor.locationHere⟩

end Automaton

end Whirlwind
