import Whirlwind.Proofs.Token.Agreeing
import Whirlwind.Proofs.Token.Following

/-!
# What outlives a call

A machine is in one of twelve phases while it reads a token, and in one of four
when it has answered.  Which one it is can be told from what it has read last:
behind a radix mark its digits are due, behind the at signs that end a comment
another comment is, and behind anything else, an error included, nothing
(`Automaton.Phase.Outlives`).  This holds whatever has been asked and in which
order, since a call that reads no token leaves the phase as it is or starts
afresh (`Lexer.Remembers.ask`).
-/

namespace Whirlwind

/-! ## Calls and answers -/

namespace Lexer

/-- What a lexer is asked for. -/
inductive Call where
  | next
  | nextField
  | restOfLine
  | locate
  deriving DecidableEq, Repr

/-- What a lexer answers. -/
inductive Answer where
  | token (token : Token)
  | error (error : SyntaxError)
  | field (token : Token)
  | line (text : String)
  | place (location : Location)
  deriving DecidableEq, Repr

/-- Whether an answer is that of a call that reads a token or a field. -/
def Answer.isReading : Answer → Bool
  | .token _ | .error _ | .field _ => true
  | .line _ | .place _ => false

/-- The answer that a result is, and what the call leaves. -/
def Answer.ofResult {Reader : Type} :
    EStateM.Result SyntaxError Reader Token → Answer × Reader
  | .ok found after => (.token found, after)
  | .error failure after => (.error failure, after)

/-- Ask a lexer. -/
def ask : Call → StateM Lexer Answer
  | .next => fun lexer => Answer.ofResult (next lexer)
  | .nextField => .field <$> nextField
  | .restOfLine => .line <$> restOfLine
  | .locate => .place <$> locate

end Lexer

namespace Automaton

/-- Run an action of the cursor. -/
def onCursor {Result : Type} (action : StateM Cursor Result) :
    StateM Automaton Result := fun machine =>
  let (result, cursor) := action.run machine.cursor
  (result, { machine with cursor := cursor })

/-- Read up to the next tab or the end of the line, and start afresh. -/
def nextField : StateM Automaton Token := do
  let location ← onCursor Cursor.locate
  let text ← onCursor (Cursor.takeUntil fun character =>
    character = '\t' || character = '\n')
  modify fun machine => { machine with phase := .start }
  return ⟨.comment (String.ofList (Text.trimReturns text)), location⟩

/-- Ask a machine. -/
def ask : Lexer.Call → StateM Automaton Lexer.Answer
  | .next => fun machine => Lexer.Answer.ofResult (next machine)
  | .nextField => .field <$> nextField
  | .restOfLine => .line <$> onCursor Cursor.restOfLine
  | .locate => .place <$> onCursor Cursor.locate

end Automaton

/-! ## What is left in force -/

/--
A token of a text is a comment that two at signs end, which stand right behind
it.
-/
def Token.EndsAtSigns (token : Token) (firstLine : Nat) (text : List Char) :
    Prop :=
  ∃ front span rest, text = front ++ (span ++ '@' :: '@' :: rest) ∧
    token.lexeme.SplitsAt span ∧ token.location = .behind firstLine front

/--
The phase in which a call leaves a machine, by what has been read last.  Most
phases never outlive a call, and behind an error none does.
-/
structure Automaton.Phase.Outlives (phase : Phase) (firstLine : Nat)
    (text : List Char) (last : Option Lexer.Answer) : Prop where
  between : phase ∈ [.start, .digits, .hexDigits, .autoComment]
  digits : phase = .digits ↔
    ∃ location, last = some (.token ⟨.operator .octal, location⟩)
  hexDigits : phase = .hexDigits ↔
    ∃ location, last = some (.token ⟨.operator .hexadecimal, location⟩)
  autoComment : phase = .autoComment ↔
    ∃ token : Token, last = some (.token token) ∧
      token.EndsAtSigns firstLine text
  error : ∀ error, last = some (.error error) → phase = .start

/-- Only one place of a text has a location. -/
theorem Location.behind_injOn {firstLine : Nat}
    {front back more rest : List Char} (split : front ++ more = back ++ rest)
    (same : behind firstLine front = behind firstLine back) :
    front = back := by
  rcases List.append_eq_append_iff.1 split with
    ⟨gap, rfl, _⟩ | ⟨gap, rfl, _⟩
  · rw [eq_nil_of_behind_eq same.symm, List.append_nil]
  · rw [eq_nil_of_behind_eq same, List.append_nil]

/-- A comment that runs to the end of its line has no at signs behind it. -/
theorem Lexeme.Occupies.not_splitsAt {lexeme : Lexeme}
    {span written later rest : List Char}
    (occupies : lexeme.Occupies span later)
    (split : span ++ later = written ++ '@' :: '@' :: rest) :
    ¬lexeme.SplitsAt written := by
  rintro ⟨text, rfl, rfl, inLine, _⟩
  rcases occupies with ⟨body, rfl, alone, ⟨inBody, ends⟩, _⟩
  have stops : Scan.upToNewline later = [] := by
    cases later with
    | nil => rfl
    | cons first later =>
        rw [ends first rfl]
        rfl
  have behind : body ++ later = text.toList ++ '@' :: '@' :: rest :=
    (List.cons.inj split).2
  have lines := congrArg Scan.upToNewline behind
  rw [Scan.upToNewline_append inBody, stops, List.append_nil,
    Scan.upToNewline_append inLine] at lines
  refine alone ⟨text.toList, Scan.upToNewline rest, ?_⟩
  rw [lines, List.append_assoc]
  rfl

theorem Finds.endsAtSigns_iff {grammar : Grammar} {mode next : Mode}
    {firstLine : Nat} {front gap span later : List Char} {lexeme : Lexeme}
    (finds : Finds grammar mode gap (span ++ later) (.lexeme lexeme span next))
    (apart : mode ≠ .autoComment) :
    next = .autoComment ↔
      (⟨lexeme, .behind firstLine (front ++ gap)⟩ : Token).EndsAtSigns firstLine
        (front ++ (gap ++ (span ++ later))) := by
  rw [← List.append_assoc front]
  constructor
  · intro due
    rcases finds.occupies apart with ⟨_, settled⟩ | ⟨written, rfl, splits, _⟩
    · exact absurd due settled
    · exact ⟨front ++ gap, written, later, by simp, splits, rfl⟩
  · rintro ⟨before, written, rest, split, splits, located⟩
    obtain rfl := Location.behind_injOn split located
    have behind := List.append_cancel_left split
    rcases finds.occupies apart with ⟨occupies, _⟩ | ⟨_, _, _, due⟩
    · exact absurd splits (occupies.not_splitsAt behind)
    · exact due

theorem Mode.phase_injective : Function.Injective Mode.phase := by
  intro one other same
  cases one <;> cases other <;> first | rfl | cases same

/-- Only a comment can be ended by at signs. -/
theorem Token.not_endsAtSigns {token : Token} {firstLine : Nat}
    {text : List Char} (other : ∀ written, token.lexeme ≠ .comment written) :
    ¬token.EndsAtSigns firstLine text := by
  rintro ⟨_, _, _, _, ⟨written, same, _⟩, _⟩
  exact other written same

namespace Automaton

variable {firstLine : Nat} {text : List Char} {last : Option Lexer.Answer}

/-- Behind a token the lexeme and its end tell what is in force. -/
theorem outlives_token {mode : Mode} {token : Token}
    (leaves : token.lexeme.Leaves mode)
    (signs : mode = .autoComment ↔ token.EndsAtSigns firstLine text) :
    mode.phase.Outlives firstLine text (some (.token token)) where
  between := by cases mode <;> decide
  digits := by
    have radix : mode = .octalDigits ↔ token.lexeme = .operator .octal :=
      leaves.eq_radix_iff rfl nofun
    rw [show Phase.digits = Mode.octalDigits.phase from rfl,
      Mode.phase_injective.eq_iff, radix]
    rcases token with ⟨lexeme, location⟩
    simp
  hexDigits := by
    rw [show Phase.hexDigits = Mode.hexDigits.phase from rfl,
      Mode.phase_injective.eq_iff, leaves.eq_hexDigits_iff]
    rcases token with ⟨lexeme, location⟩
    simp
  autoComment := by
    rw [show Phase.autoComment = Mode.autoComment.phase from rfl,
      Mode.phase_injective.eq_iff, signs]
    simp
  error := nofun

/-- Behind a token that leaves nothing and is no comment nothing is in force. -/
theorem outlives_plain {token : Token}
    (leaves : token.lexeme.Leaves .start)
    (other : ∀ written, token.lexeme ≠ .comment written) :
    Phase.start.Outlives firstLine text (some (.token token)) := by
  have apart : ¬token.EndsAtSigns firstLine text :=
    Token.not_endsAtSigns other
  have signs : Mode.start = .autoComment ↔ token.EndsAtSigns firstLine text :=
    iff_of_false (by decide) apart
  exact outlives_token leaves signs

/-- Where no token has been read last, nothing is in force. -/
theorem outlives_start (apart : ∀ token, last ≠ some (.token token)) :
    Phase.start.Outlives firstLine text last where
  between := by decide
  digits := ⟨nofun, fun ⟨_, same⟩ => absurd same (apart _)⟩
  hexDigits := ⟨nofun, fun ⟨_, same⟩ => absurd same (apart _)⟩
  autoComment := ⟨nofun, fun ⟨_, same, _⟩ => absurd same (apart _)⟩
  error _ _ := rfl

end Automaton

/-! ## Where calls leave a lexer -/

namespace Cursor

variable {cursor : Cursor} {firstLine : Nat} {text span more : List Char}

/-- A cursor is somewhere in a text whose first line has a given number. -/
def IsIn (cursor : Cursor) (firstLine : Nat) (text : List Char) : Prop :=
  cursor.firstLine = firstLine ∧
    ∃ front rest, text = front ++ rest ∧ cursor.StandsAt front rest

theorem isIn_ofText (text : String) (firstLine : Nat) :
    (ofText text firstLine).IsIn firstLine text.toList :=
  ⟨rfl, [], text.toList, rfl, standsAt_ofText text firstLine⟩

theorem IsIn.settle (isIn : cursor.IsIn firstLine text) :
    cursor.settle.IsIn firstLine text := by
  rcases isIn with ⟨numbered, front, rest, split, stands⟩
  exact ⟨by rw [firstLine_settle, numbered], front, rest, split, stands.settle⟩

theorem IsIn.skip (isIn : cursor.IsIn firstLine text)
    (start : span <+: cursor.ahead) :
    (cursor.skip span).IsIn firstLine text := by
  rcases isIn with ⟨numbered, front, rest, split, stands⟩
  rcases start with ⟨more, ahead⟩
  rcases stands.skip ahead.symm with ⟨later, same, _, standsLater⟩
  exact ⟨numbered, front ++ span, later, by rw [split, same, List.append_assoc],
    standsLater⟩

theorem IsIn.skipWhile (isIn : cursor.IsIn firstLine text)
    (test : Char → Bool) : (cursor.skipWhile test).IsIn firstLine text := by
  rcases isIn with ⟨numbered, front, rest, split, stands⟩
  rcases stands.exists_skipWhile test with ⟨skipped, later, same, standsLater⟩
  exact ⟨by rw [firstLine_skipWhile, numbered], front ++ skipped, later,
    by rw [split, same, List.append_assoc], standsLater⟩

end Cursor

namespace Lexer

variable {lexer : Lexer} {cursor : Cursor} {grammar : Grammar}
  {firstLine : Nat} {text : List Char} {last : Option Answer}

/-- A lexer of a notation is somewhere in a text. -/
structure Stays (lexer : Lexer) (grammar : Grammar) (firstLine : Nat)
    (text : List Char) : Prop where
  notation_eq : lexer.grammar = grammar
  isIn : lexer.cursor.IsIn firstLine text

theorem Stays.accept (stays : lexer.Stays grammar firstLine text)
    (isIn : cursor.IsIn firstLine text) {finding : Finding}
    (start : finding.span <+: cursor.ahead) :
    Leaves (Stays · grammar firstLine text) (lexer.accept cursor finding) := by
  cases finding <;> exact ⟨stays.notation_eq, isIn.skip start⟩

/-- Whatever a call answers, it leaves the lexer in its text. -/
theorem Stays.next (stays : lexer.Stays grammar firstLine text) :
    Leaves (Stays · grammar firstLine text) lexer.next := by
  have settled := stays.isIn.settle
  have skipped := settled.skipWhile lexer.grammar.isGap
  unfold Lexer.next
  dsimp only
  split
  · split
    · exact ⟨stays.notation_eq, skipped⟩
    · next ahead =>
      refine stays.accept skipped ?_
      rw [ahead]
      exact Scan.token_span_isPrefixOf _ _ _
  · refine stays.accept settled ?_
    rw [Scan.word_span]
    exact List.takeWhile_prefix _
  · refine stays.accept settled ?_
    rw [Scan.word_span]
    exact List.takeWhile_prefix _
  · exact stays.accept settled (Scan.upToNewline_isPrefixOf _)

/-- A lexer in a text is in the mode that its last answer calls for. -/
structure Remembers (lexer : Lexer) (grammar : Grammar) (firstLine : Nat)
    (text : List Char) (last : Option Answer) : Prop where
  stays : lexer.Stays grammar firstLine text
  outlives : lexer.mode.phase.Outlives (max 1 firstLine) text last

theorem remembers_ofText (text : String) (firstLine : Nat)
    (grammar : Grammar) :
    (ofText text firstLine grammar).Remembers grammar firstLine text.toList
      none :=
  ⟨⟨rfl, Cursor.isIn_ofText text firstLine⟩, Automaton.outlives_start nofun⟩

/-- Reading a token leaves in force what the token or the error tells. -/
theorem Stays.outlives_next (stays : lexer.Stays grammar firstLine text) :
    (Answer.ofResult lexer.next).2.mode.phase.Outlives (max 1 firstLine) text
      (some (Answer.ofResult lexer.next).1) := by
  by_cases due : lexer.mode = .autoComment
  · -- The rest of the line may have been taken before, so there may be no at
    -- sign right in front of the cursor; the comment is found all the same.
    have inForce : lexer.modeAt lexer.cursor.settle.ahead = .autoComment := by
      simp [modeAt, due]
    have read : lexer.next = lexer.accept lexer.cursor.settle
        (Scan.autoComment [] lexer.cursor.settle.ahead) := by
      rw [Lexer.next, inForce]
    rw [read]
    refine Automaton.outlives_plain rfl ?_
    rintro written ⟨⟩
  · rcases stays.isIn with ⟨numbered, front, rest, split, stands⟩
    have standsAt : lexer.StandsAt grammar (max 1 firstLine) lexer.mode front
        rest := ⟨stays.notation_eq, rfl, by rw [numbered], stands,
          fun signs => absurd signs due⟩
    have step := standsAt.step
    generalize lexer.next = result at step
    cases step with
    | @finish token after _ _ finishes behind =>
        rw [Answer.ofResult, behind.mode_eq]
        refine Automaton.outlives_plain ?_ ?_
        · rw [finishes]
          rfl
        · rw [finishes]
          rintro written ⟨⟩
    | @token gap span later lexeme next after same finds behind =>
        rw [Answer.ofResult, behind.mode_eq, split, same]
        exact Automaton.outlives_token finds.leaves (finds.endsAtSigns_iff due)
    | error _ _ _ behind =>
        rw [Answer.ofResult, behind.mode_eq]
        refine Automaton.outlives_start ?_
        rintro token ⟨⟩

theorem Remembers.next
    (remembers : lexer.Remembers grammar firstLine text last) :
    (Answer.ofResult lexer.next).2.Remembers grammar firstLine text
      (some (Answer.ofResult lexer.next).1) := by
  refine ⟨?_, remembers.stays.outlives_next⟩
  have stays := remembers.stays.next
  generalize lexer.next = result at stays
  cases result <;> exact stays

/--
A machine that stands where a lexer stands answers a call as the lexer does,
and the answer, if it reads something, tells what is in force behind it.
-/
theorem Remembers.ask (remembers : lexer.Remembers grammar firstLine text last)
    (call : Call) :
    ∃ answer after, (Lexer.ask call).run lexer = (answer, after) ∧
      (Automaton.ask call).run (.ofLexer lexer) = (answer, .ofLexer after) ∧
      after.Remembers grammar firstLine text
        (if answer.isReading then some answer else last) := by
  rcases remembers.stays with ⟨notation_eq, isIn⟩
  cases call with
  | next =>
      rcases isIn with ⟨_, front, rest, _, stands⟩
      have behind := remembers.next
      have agrees := Automaton.next_ofLexer stands.faces
      have machine : (Automaton.ask .next).run (.ofLexer lexer) =
          Answer.ofResult (Automaton.ofLexer lexer).next := rfl
      refine ⟨(Answer.ofResult lexer.next).1, (Answer.ofResult lexer.next).2,
        rfl, ?_, ?_⟩
      · rw [machine, agrees]
        cases lexer.next <;> rfl
      · generalize lexer.next = result at behind
        cases result <;> exact behind
  | nextField =>
      exact ⟨_, _, rfl, rfl,
        ⟨notation_eq, isIn.settle.settle.skip (List.takeWhile_prefix _)⟩,
        Automaton.outlives_start nofun⟩
  | restOfLine =>
      exact ⟨_, _, rfl, rfl,
        ⟨notation_eq, isIn.settle.skip (List.takeWhile_prefix _)⟩,
        remembers.outlives⟩
  | locate =>
      exact ⟨_, _, rfl, rfl, ⟨notation_eq, isIn.settle⟩, remembers.outlives⟩

/-! ## Runs of calls -/

/-- Calls are made one after the other. -/
theorem run_mapM_cons {Reader : Type} {ask : Call → StateM Reader Answer}
    {reader between after : Reader} {call : Call} {calls : List Call}
    {answer : Answer} {answers : List Answer}
    (asked : (ask call).run reader = (answer, between))
    (run : (calls.mapM ask).run between = (answers, after)) :
    ((call :: calls).mapM ask).run reader = (answer :: answers, after) := by
  have later : (calls.mapM ask >>= fun answers =>
      pure (answer :: answers)).run between = (answer :: answers, after) := by
    rw [StateT.run_bind, run]
    rfl
  rw [List.mapM_cons, StateT.run_bind, asked]
  exact later

/-- Whatever is asked, a machine answers as the lexer where it stands does, and
the last answer that reads something tells what is in force in the end. -/
theorem Remembers.run (remembers : lexer.Remembers grammar firstLine text last)
    (calls : List Call) :
    ∃ answers after, (calls.mapM Lexer.ask).run lexer = (answers, after) ∧
      (calls.mapM Automaton.ask).run (.ofLexer lexer) =
        (answers, .ofLexer after) ∧
      after.Remembers grammar firstLine text
        ((answers.findRev? Answer.isReading).or last) := by
  induction calls generalizing lexer last with
  | nil => exact ⟨[], lexer, rfl, rfl, remembers⟩
  | cons call calls ih =>
      rcases remembers.ask call with ⟨answer, between, asked, askedToo, behind⟩
      rcases ih behind with ⟨answers, after, run, runToo, inTheEnd⟩
      have latest : ((answer :: answers).findRev? Answer.isReading).or last =
          (answers.findRev? Answer.isReading).or
            (if answer.isReading then some answer else last) := by
        rw [List.findRev?]
        cases answers.findRev? Answer.isReading <;>
          cases answer.isReading <;> rfl
      exact ⟨answer :: answers, after, run_mapM_cons asked run,
        run_mapM_cons askedToo runToo, latest ▸ inTheEnd⟩

end Lexer

/--
Whatever a lexer is asked, whether or not it fails, and in which order, the
machine that reads one character at a time answers the same, and between two
calls it is in one of four phases: that of digits or of hexadecimal digits if
and only if a radix mark has been read last, that of a comment that is due if
and only if a comment has been that two at signs end, and that of the start
behind everything else.
-/
theorem Automaton.outlives_of_calls (text : String) (firstLine : Nat)
    (grammar : Grammar) (calls : List Lexer.Call) :
    ∃ answers lexer,
      (calls.mapM Lexer.ask).run (.ofText text firstLine grammar) =
        (answers, lexer) ∧
      (calls.mapM ask).run (ofText text firstLine grammar) =
        (answers, ofLexer lexer) ∧
      (ofLexer lexer).phase.Outlives (max 1 firstLine) text.toList
        (answers.findRev? Lexer.Answer.isReading) := by
  rcases (Lexer.remembers_ofText text firstLine grammar).run calls with
    ⟨answers, lexer, run, runToo, remembers⟩
  rw [Option.or_none] at remembers
  exact ⟨answers, lexer, run, runToo, remembers.outlives⟩

/-- A mark with digits, one without, a comment that is split, and an error. -/
example :
    let calls : List Lexer.Call :=
      [.next, .next, .next, .locate, .next, .restOfLine, .nextField, .next,
        .next]
    let phases := calls.inits.map fun made =>
      ((made.mapM Automaton.ask).run
        (.ofText "0o7 0x ;a@@b\n0x$" 1 .assembly)).2.phase
    phases =
      [.start, .digits, .start, .hexDigits, .hexDigits, .autoComment,
        .autoComment, .start, .hexDigits, .start] := by
  decide +kernel

end Whirlwind
