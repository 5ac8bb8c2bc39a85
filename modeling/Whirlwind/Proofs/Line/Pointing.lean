import Whirlwind.Proofs.Line.Simulation
import Whirlwind.Proofs.Token.Pointing

/-!
# Errors point into the right line

An error takes its place from a token and its line from the cursor, which may
have moved on since the token was read.  It has not: when a token is blamed or
handed back, it is the last one that was read, so its line is still the one that
is buffered.  This invariant is a simulation of a stream by itself.
-/

namespace Whirlwind

namespace TokenStream

/-- A stream right behind a token of a text, with nothing handed back. -/
structure IsBehind (stream : TokenStream) (token : Token) (firstLine : Nat)
    (text : List Char) : Prop where
  nothing : stream.returned = []
  room : 0 < stream.capacity
  lexer : stream.lexer.IsIn firstLine text
  marks : stream.lexer.cursor.Marks text token.location
  finish : token.lexeme = .finish → token.location = .atEnd firstLine text
  due : stream.lexer.mode = .autoComment →
    ∃ written, token.lexeme = .comment written

/--
A stream that reads a text has nothing handed back but the token that was read
last.
-/
inductive IsIn (firstLine : Nat) (text : List Char) : TokenStream → Prop
  | reading {stream : TokenStream} (nothing : stream.returned = [])
      (room : 0 < stream.capacity) (lexer : stream.lexer.IsIn firstLine text) :
      IsIn firstLine text stream
  | holding {rest : TokenStream} {token : Token}
      (behind : rest.IsBehind token firstLine text) :
      IsIn firstLine text (rest.holding token)

end TokenStream

/-- The error that an answer is, if it is one. -/
def Except.error? {Error Result : Type} : Except Error Result → Option Error
  | .ok _ => none
  | .error error => some error

theorem Except.eq_error_of_error? {Error Result : Type}
    {answer : Except Error Result} {error : Error}
    (fails : Except.error? answer = some error) : answer = .error error := by
  cases answer with
  | ok => cases fails
  | error found => exact congrArg Except.error (Option.some.inj fails)

theorem Reading.answer_eq_error {Answer : Type} {action : Reading Answer}
    {stream : TokenStream} {error : ParseError}
    (failed : action.answer stream = .error error) :
    ∃ after, action stream = .error error after := by
  unfold Reading.answer EStateM.run at failed
  split at failed
  · cases failed
  · next run =>
    rcases Except.error.inj failed with rfl
    exact ⟨_, run⟩

open TokenStream

/-- Streams that read a text are in step with themselves. -/
def pointing (firstLine : Nat) (text : List Char) : Agreement where
  Agrees stream twin := stream = twin ∧ stream.IsIn firstLine text
  Behind token rest other := rest = other ∧ rest.IsBehind token firstLine text
  Admits error :=
    ∃ found, error = .malformed found ∧ found.PointsInto firstLine text

section

variable {firstLine : Nat} {text : List Char}

/-- A read in a text goes on right behind a token or fails with its error. -/
theorem pointing_alike_next (counts : 1 ≤ firstLine) {start twin : TokenStream}
    (agrees : (pointing firstLine text).Agrees start twin) :
    (pointing firstLine text).Alike (pointing firstLine text).Behind start.next
      twin.next := by
  rcases agrees with ⟨rfl, isIn⟩
  cases isIn with
  | holding behind => exact .ok ⟨rfl, behind⟩
  | reading nothing room lexer =>
      have points := lexer.points_next counts
      simp only [TokenStream.next, nothing]
      generalize start.lexer.next = read at points
      cases points with
      | token isIn marks finish due =>
          exact .ok ⟨rfl, rfl, room, isIn, marks, finish, due⟩
      | error isIn points =>
          exact .error ⟨_, rfl, points⟩ ⟨rfl, .reading rfl room isIn⟩

/-- A cause that blames a lexeme names no other one. -/
theorem SyntaxError.Cause.Blames.found_eq {cause : SyntaxError.Cause}
    {lexeme found : Lexeme} (blames : cause.Blames lexeme)
    (names : cause.found? = some found) : lexeme = found := by
  cases cause with
  | expectedOperand | expectedCommandName | unexpectedToken =>
      rcases blames with rfl
      exact Option.some.inj names
  | _ => cases names

/-- The error of the token that was read last points into the text. -/
theorem TokenStream.IsBehind.pointsInto {stream : TokenStream} {token : Token}
    {cause : SyntaxError.Cause} (behind : stream.IsBehind token firstLine text)
    (blames : cause.Blames token.lexeme) :
    (⟨cause, token.location, stream.lexer.cursor.lineText⟩ :
      SyntaxError).PointsInto firstLine text := by
  have numbered : stream.lexer.cursor.firstLine = firstLine := by
    rcases behind.lexer with ⟨_, _, _, _, _, numbered⟩
    exact numbered
  rw [← numbered]
  refine behind.marks.pointsInto ?_ ?_ ?_
  · intro names
    rw [numbered]
    exact behind.finish (blames.found_eq names)
  · rintro found rfl
    exact blames.elim
  · rintro rfl
    exact blames.elim

theorem Lexer.IsIn.settle {lexer : Lexer} (isIn : lexer.IsIn firstLine text) :
    ({ lexer with cursor := lexer.cursor.settle } : Lexer).IsIn firstLine
      text := by
  rcases isIn with ⟨front, rest, split, stands, signs, numbered⟩
  refine .between front rest split stands.settle signs ?_
  rw [Cursor.firstLine_settle, numbered]

/-- What is left of a line is skipped within the text. -/
theorem Lexer.IsIn.skip {lexer : Lexer} {mode : Mode}
    (isIn : lexer.IsIn firstLine text) (test : Char → Bool)
    (settled : mode ≠ .autoComment) :
    ({ lexer with
        cursor := lexer.cursor.skip (lexer.cursor.ahead.takeWhile test)
        mode := mode } : Lexer).IsIn firstLine text := by
  rcases isIn with ⟨front, rest, split, stands, _, numbered⟩
  rcases stands.skip (List.takeWhile_append_dropWhile (p := test)).symm
    with ⟨later, same, _, standsLater⟩
  refine .between _ later ?_ standsLater (fun due => absurd due settled)
    numbered
  rw [split, same, List.append_assoc]

/-- Behind the first field of a tape line the lexer starts over in the text. -/
theorem Lexer.IsIn.nextField {lexer after : Lexer} {field : Token}
    (isIn : lexer.IsIn firstLine text)
    (ran : Lexer.nextField.run lexer = (field, after)) :
    after.IsIn firstLine text ∧ after.grammar = lexer.grammar ∧
      after.mode = .start := by
  rcases Prod.mk.inj ran with ⟨-, rfl⟩
  exact ⟨isIn.settle.settle.skip _ nofun, rfl, rfl⟩

/-- What reads a text stays in it, and all its errors point into it. -/
def pointingSimulation (counts : 1 ≤ firstLine) (text : List Char) :
    LineSimulation where
  toAgreement := pointing firstLine text
  agrees_of_behind := by
    intro token rest other behind
    rcases behind with ⟨rfl, behind⟩
    exact ⟨rfl, .reading behind.nothing behind.room behind.lexer⟩
  alike_next := pointing_alike_next counts
  vacant := by
    intro token rest other behind
    rcases behind with ⟨rfl, behind⟩
    have vacant : rest.returned.length < rest.capacity := by
      rw [behind.nothing]
      exact behind.room
    exact ⟨vacant, vacant⟩
  agrees_holding := by
    intro token rest other behind
    rcases behind with ⟨rfl, behind⟩
    exact ⟨rfl, .holding behind⟩
  admits_errorAt := by
    intro token rest other cause behind blames
    rcases behind with ⟨rfl, behind⟩
    exact ⟨rfl, _, rfl, behind.pointsInto blames⟩
  hasReturned_eq := by
    intro start twin agrees
    rcases agrees with ⟨rfl, _⟩
    rfl
  respects_restOfLine := by
    intro token rest other behind apart _
    rcases behind with ⟨rfl, behind⟩
    have settled : rest.lexer.mode ≠ .autoComment := by
      intro due
      rcases behind.due due with ⟨written, same⟩
      exact apart written same
    exact .ok ⟨rfl, .reading behind.nothing behind.room
      (behind.lexer.settle.skip _ settled)⟩

end

namespace TokenStream

/-- The actions that read a text and hand back no tokens of others. -/
inductive ReadsText : {Result : Type} → Reading Result → Prop
  | next : ReadsText next
  | peek : ReadsText peek
  | atom : ReadsText atom
  | expression : ReadsText expression
  | completeExpression : ReadsText completeExpression
  | statements : ReadsText statements

/-- The streams that such actions lead to from the start of a text. -/
inductive Reached (text : String) (firstLine : Nat) (grammar : Grammar) :
    TokenStream → Prop
  | start : Reached text firstLine grammar (ofText text firstLine grammar)
  | answer {Result : Type} {action : Reading Result} {result : Result}
      {stream after : TokenStream}
      (reached : Reached text firstLine grammar stream)
      (reads : ReadsText action) (run : action stream = .ok result after) :
      Reached text firstLine grammar after
  | error {Result : Type} {action : Reading Result} {error : ParseError}
      {stream after : TokenStream}
      (reached : Reached text firstLine grammar stream)
      (reads : ReadsText action) (run : action stream = .error error after) :
      Reached text firstLine grammar after

variable {text : String} {firstLine : Nat} {grammar : Grammar}
  {stream : TokenStream} {Result : Type} {action : Reading Result}

theorem isIn_ofText (text : String) (firstLine : Nat) (grammar : Grammar) :
    (ofText text firstLine grammar).IsIn firstLine text.toList :=
  .reading rfl (by decide : 0 < 4) (Lexer.isIn_ofText text firstLine grammar)

theorem ReadsText.respects {simulation : Simulation} {start twin : TokenStream}
    (reads : ReadsText action) (agrees : simulation.Agrees start twin) :
    simulation.Respects action (fun _ => simulation.Agrees) start twin := by
  cases reads with
  | next =>
      exact Agreement.Alike.mono (Simulation.respects_next agrees)
        fun _ _ _ => simulation.agrees_of_behind
  | peek => exact Simulation.respects_peek agrees
  | atom => exact Simulation.respects_atom agrees
  | expression => exact Simulation.respects_expression agrees
  | completeExpression => exact Simulation.respects_completeExpression agrees
  | statements => exact Simulation.respects_statements agrees

/-- What goes alike on a stream and itself stays in the text. -/
theorem isIn_of_respects {counts : 1 ≤ firstLine} {characters : List Char}
    (respects : (pointingSimulation counts characters).Respects action
      (fun _ => (pointingSimulation counts characters).Agrees) stream stream) :
    (∀ {result after}, action stream = .ok result after →
      after.IsIn firstLine characters) ∧
    ∀ {error after}, action stream = .error error after →
      after.IsIn firstLine characters ∧ ∃ found, error = .malformed found ∧
        found.PointsInto firstLine characters := by
  unfold Simulation.Respects at respects
  generalize action stream = run at respects
  constructor
  · rintro result after rfl
    cases respects with
    | ok agrees => exact agrees.2
  · rintro error after rfl
    cases respects with
    | error admits agrees => exact ⟨agrees.2, admits⟩

theorem IsIn.agrees {characters : List Char} (counts : 1 ≤ firstLine)
    (isIn : stream.IsIn firstLine characters) :
    (pointingSimulation counts characters).Agrees stream stream :=
  ⟨rfl, isIn⟩

/-- An invariant of all runs: whatever a step does, the stream stays in its text. -/
theorem Reached.isIn (counts : 1 ≤ firstLine)
    (reached : Reached text firstLine grammar stream) :
    stream.IsIn firstLine text.toList := by
  induction reached with
  | start => exact isIn_ofText text firstLine grammar
  | answer _ reads run ih =>
      exact (isIn_of_respects (reads.respects (ih.agrees counts))).1 run
  | error _ reads run ih =>
      exact ((isIn_of_respects (reads.respects (ih.agrees counts))).2 run).1

/-- The first field of a tape line is read within the text. -/
theorem respects_nextField (counts : 1 ≤ firstLine) :
    (pointingSimulation counts text.toList).Respects (onLexer Lexer.nextField)
      (fun _ => (pointingSimulation counts text.toList).Agrees)
      (ofText text firstLine grammar) (ofText text firstLine grammar) := by
  have lexer := Lexer.isIn_ofText text firstLine grammar
  exact .ok ⟨rfl, .reading rfl (by decide : 0 < 4) (lexer.nextField rfl).1⟩

/--
All errors of what reads a text point into it: the line that is shown is the
line of the text with the number of the location, the column is on that line,
and at the end of the text the line is the last one.  So do the errors of a
text that is read as one line of a notation.  The lines are to have numbers of
32 bits, and then so has the location.
-/
theorem pointsInto_of_reached (counts : 1 ≤ firstLine)
    (fit : Text.NumbersFit firstLine text.toList) :
    (∀ {Result : Type} {action : Reading Result} {stream after : TokenStream}
      {error : ParseError}, Reached text firstLine grammar stream →
      ReadsText action → action stream = .error error after →
        ∃ found, error = .malformed found ∧
          found.PointsInto firstLine text.toList ∧
          found.location.line < UInt32.size) ∧
    ∀ {error : ParseError}, Line.parse text firstLine grammar = .error error →
      ∃ found, error = .malformed found ∧
        found.PointsInto firstLine text.toList ∧
        found.location.line < UInt32.size := by
  constructor
  · intro Result action stream after error reached reads run
    have agrees := (reached.isIn counts).agrees counts
    rcases ((isIn_of_respects (reads.respects agrees)).2 run).2 with
      ⟨found, same, points⟩
    exact ⟨found, same, points, points.line_lt fit⟩
  · intro error failed
    have agrees := (isIn_ofText text firstLine grammar).agrees counts
    have respects := LineSimulation.respects_line grammar
      { rawText := String.ofList (Text.trimLineEnd text.toList)
        lineNumber := firstLine } agrees (respects_nextField counts)
    rcases Reading.answer_eq_error failed with ⟨after, run⟩
    rcases ((isIn_of_respects respects).2 run).2 with ⟨found, same, points⟩
    exact ⟨found, same, points, points.line_lt fit⟩

/-- Statements on two lines that end in a group, and a line behind a blank one. -/
theorem pointsInto_of_reached_lines :
    1 ≤ 7 ∧ Text.NumbersFit 7 "a;\r\n(b\n".toList ∧
      Text.NumbersFit 7 "\r\n (".toList ∧
    (∃ found, statements.answer (ofText "a;\r\n(b\n" 7 .expression) =
        .error (.malformed found) ∧
      found = ⟨.unbalancedParentheses, ⟨8, 2⟩, "(b"⟩ ∧
      found.PointsInto 7 "a;\r\n(b\n".toList) ∧
    ∃ found, Line.parse "\r\n (" 7 .debugger = .error (.malformed found) ∧
      found = ⟨.expectedCommandName (.operator (.mark '(')), ⟨8, 1⟩, " ("⟩ ∧
      found.PointsInto 7 "\r\n (".toList := by
  have read : statements.answer (ofText "a;\r\n(b\n" 7 .expression) =
      .error (.malformed ⟨.unbalancedParentheses, ⟨8, 2⟩, "(b"⟩) :=
    Except.eq_error_of_error? (by decide +kernel)
  have parsed : Line.parse "\r\n (" 7 .debugger = .error (.malformed
      ⟨.expectedCommandName (.operator (.mark '(')), ⟨8, 1⟩, " ("⟩) :=
    Except.eq_error_of_error? (by decide +kernel)
  have fit : Text.NumbersFit 7 "a;\r\n(b\n".toList := by decide +kernel
  have fitLine : Text.NumbersFit 7 "\r\n (".toList := by decide +kernel
  refine ⟨by decide, fit, fitLine, ⟨_, read, rfl, ?_⟩, _, parsed, rfl, ?_⟩
  · rcases Reading.answer_eq_error read with ⟨after, run⟩
    rcases (pointsInto_of_reached (by decide) fit).1 .start .statements run with
      ⟨found, ⟨⟩, points, _⟩
    exact points
  · rcases (pointsInto_of_reached (by decide) fitLine).2 parsed with
      ⟨found, ⟨⟩, points, _⟩
    exact points

end TokenStream

end Whirlwind
