import Whirlwind.Proofs.Token.Sequence

/-!
# What a lexer reads of a text

A lexer looks at one line at a time, and what it scans there is what the mode
finds in the whole text (`Lexer.StandsAt.exists_shows`).  So a step leads from
one place of the text to the next one, and all tokens that are read, with the
error that ends them, are those of the text (`Lexer.tokens_ofText_iff`).
-/

namespace Whirlwind

namespace Lexer

/-- How a text starts tells whether a mode is over in front of it. -/
theorem isOver_iff_of_head? {grammar : Grammar} {mode : Mode}
    {line text : List Char} (same : line.head? = text.head?) :
    mode.IsOver grammar line ↔ mode.IsOver grammar text := by
  simp [Mode.IsOver, Grammar.Closes, same]

theorem modeAt_of_isOver {lexer : Lexer} {line : List Char}
    (fresh : lexer.mode.IsOver lexer.grammar line) :
    lexer.modeAt line = .start := by
  rcases fresh with started | ⟨apart, closes⟩
  · simp [modeAt, started]
  · cases mode : lexer.mode with
    | start => simp [modeAt, mode]
    | autoComment => exact absurd mode apart
    | octalDigits | hexDigits =>
        cases line with
        | nil => simp [modeAt, mode]
        | cons first rest => simp [modeAt, mode, Grammar.closes_cons.1 closes]

theorem modeAt_of_not_isOver {lexer : Lexer} {line : List Char}
    (due : ¬lexer.mode.IsOver lexer.grammar line) :
    lexer.modeAt line = lexer.mode := by
  simp only [Mode.IsOver, not_or, not_and] at due
  cases mode : lexer.mode with
  | start => exact absurd mode due.1
  | autoComment => simp [modeAt, mode]
  | octalDigits | hexDigits =>
      have stays := due.2 (by simp [mode])
      cases line with
      | nil => exact absurd lexer.grammar.closes_nil stays
      | cons first rest =>
          simp [modeAt, mode, mt Grammar.closes_cons.2 stays]

end Lexer

namespace Scan

theorem word_illegal {grammar : Grammar} {isDigit : Char → Bool}
    {text span : List Char} {next : Char}
    (found : word grammar isDigit text = .illegal span next) :
    span ++ [next] <+: text := by
  have split := List.takeWhile_append_dropWhile (p := isNameChar) (l := text)
  simp only [word] at found
  cases behind : text.dropWhile isNameChar with
  | nil => simp [behind] at found
  | cons first later =>
      simp only [behind] at found
      split at found
      · cases found
      · rcases Finding.illegal.inj found with ⟨rfl, rfl⟩
        rw [behind] at split
        exact ⟨later, by rw [List.append_assoc]; exact split⟩

/-- A character that is illegal stands behind the span that it follows. -/
theorem token_illegal {grammar : Grammar} {first next : Char}
    {rest span : List Char}
    (found : token grammar first rest = .illegal span next) :
    span ++ [next] <+: first :: rest := by
  unfold token at found
  split at found
  · cases found
  split at found
  · unfold string at found
    split at found <;> cases found
  split at found
  · unfold comment at found
    split at found <;> cases found
  split at found
  · split at found <;> cases found
  split at found
  · cases found
  split at found
  · cases found
  split at found
  · cases found
  · cases found
  · exact word_illegal found

end Scan

namespace Cursor

variable {cursor : Cursor} {grammar : Grammar} {isDigit : Char → Bool}
  {front text rest : List Char} {finding : Finding}

/-- A token is the same on its line as in the whole text. -/
theorem Faces.exists_token_settle {first : Char}
    (faces : cursor.Faces (first :: rest))
    (apart : grammar.isGap first = false) :
    ∃ line, cursor.settle.ahead = first :: line ∧
      Scan.token grammar first line = Scan.token grammar first rest := by
  have other := Grammar.ne_newline_of_apart apart
  rcases faces.exists_settle_append with ⟨more, split, ended⟩
  have head := faces.head?_settle
  cases ahead : cursor.settle.ahead with
  | nil => simp [ahead] at head
  | cons next line =>
      rw [ahead] at head split ended
      rcases List.cons.inj split with ⟨rfl, behind⟩
      have split : rest = line ++ more := behind
      refine ⟨line, rfl, ?_⟩
      rw [split]
      rcases ended with rfl | ended
      · rw [List.append_nil]
      · exact (Scan.token_append_of_mem
          ((List.mem_cons.1 ended).resolve_left other) more).symm

theorem Faces.word_settle (faces : cursor.Faces text) :
    Scan.word grammar isDigit cursor.settle.ahead =
      Scan.word grammar isDigit text := by
  rcases faces.exists_settle_append with ⟨more, split, rfl | ended⟩
  · rw [split, List.append_nil]
  · rw [split, Scan.word_append_of_mem ended]

theorem Faces.autoComment_settle (faces : cursor.Faces text) :
    Scan.autoComment [] cursor.settle.ahead = Scan.autoComment [] text := by
  rcases faces.exists_settle_append with ⟨more, split, rfl | ended⟩
  · rw [split, List.append_nil]
  · rw [split, Scan.autoComment_append_of_mem ended]

/-- A cursor in front of a text has a finding on the line that it is on. -/
structure Shows (cursor : Cursor) (front text : List Char)
    (finding : Finding) : Prop where
  stands : cursor.StandsAt front text
  located : cursor.locationHere = .behind (max 1 cursor.firstLine) front
  start : finding.span <+: cursor.ahead
  illegal : ∀ span found, finding = .illegal span found →
    span ++ [found] <+: cursor.ahead
  filled : cursor.ahead = [] → ∃ lexeme span next,
    finding = .lexeme lexeme span next

/-- Where there is a character ahead, the location is that of the border. -/
theorem StandsAt.shows (stands : cursor.StandsAt front text)
    (left : cursor.ahead ≠ []) (start : finding.span <+: cursor.ahead)
    (illegal : ∀ span found, finding = .illegal span found →
      span ++ [found] <+: cursor.ahead) :
    cursor.Shows front text finding :=
  ⟨stands, stands.locationHere left, start, illegal,
    fun empty => absurd empty left⟩

theorem StandsAt.shows_word (stands : cursor.StandsAt front text)
    (left : text ≠ []) :
    cursor.settle.Shows front text (Scan.word grammar isDigit text) := by
  have filled : cursor.settle.ahead ≠ [] := by
    intro empty
    have head := stands.faces.head?_settle
    rw [empty] at head
    exact left (List.head?_eq_none_iff.1 head.symm)
  rw [← stands.faces.word_settle]
  refine stands.settle.shows filled ?_ fun _ _ => Scan.word_illegal
  rw [Scan.word_span]
  exact List.takeWhile_prefix _

/-- A shown lexeme is accepted with the place in front of it. -/
theorem Shows.accept_lexeme {lexeme : Lexeme} {span : List Char}
    {next : Mode} (lexer : Lexer)
    (shows : cursor.Shows front text (.lexeme lexeme span next)) :
    lexer.accept cursor (.lexeme lexeme span next) =
      .ok ⟨lexeme, .behind (max 1 cursor.firstLine) front⟩
        { lexer with cursor := cursor.skip span, mode := next } := by
  rw [← shows.located]
  rfl

/-- A shown error is reported with the place and the line where it shows. -/
theorem Shows.accept_error {error : SyntaxError} (lexer : Lexer)
    (shows : cursor.Shows front text finding)
    (fails : finding.error? (max 1 cursor.firstLine) front text = some error) :
    lexer.accept cursor finding = .error error
      { lexer with cursor := cursor.skip finding.span, mode := .start } := by
  cases finding with
  | lexeme => cases fails
  | illegal span found =>
      rcases shows.illegal span found rfl with ⟨line, ahead⟩
      rw [List.append_assoc] at ahead
      rcases shows.stands.skip ahead.symm with ⟨later, _, _, behind⟩
      have left : cursor.ahead ≠ [] := by simp [← ahead]
      have leftBehind : (cursor.skip span).ahead ≠ [] := by
        simp [← ahead]
      rcases Option.some.inj fails with rfl
      rw [← shows.stands.lineText left, ← lineText_skip ahead.symm,
        ← firstLine_skip cursor span, ← behind.locationHere leftBehind]
      rfl
  | unterminated span =>
      rcases shows.start with ⟨line, ahead⟩
      have left : cursor.ahead ≠ [] := by
        intro empty
        rcases shows.filled empty with ⟨_, _, _, same⟩
        cases same
      rcases Option.some.inj fails with rfl
      rw [← shows.stands.lineText left, ← lineText_skip ahead.symm,
        ← shows.located]
      rfl

end Cursor

namespace Lexer

/-- Where a lexer stands, and the mode that it is in. -/
structure StandsAt (lexer : Lexer) (grammar : Grammar) (firstLine : Nat)
    (mode : Mode) (front rest : List Char) : Prop where
  notation_eq : lexer.grammar = grammar
  mode_eq : lexer.mode = mode
  numbered : max 1 lexer.cursor.firstLine = firstLine
  cursor : lexer.cursor.StandsAt front rest
  signs : mode = .autoComment → ∃ start, front = start ++ ['@']

variable {lexer : Lexer} {grammar : Grammar} {firstLine : Nat} {mode : Mode}
  {front gap text rest : List Char} {finding : Finding}

theorem standsAt_ofText (text : String) (firstLine : Nat)
    (grammar : Grammar) :
    (ofText text firstLine grammar).StandsAt grammar (max 1 firstLine) .start
      [] text.toList :=
  ⟨rfl, rfl, rfl, Cursor.standsAt_ofText text firstLine, fun due => nomatch due⟩

theorem StandsAt.modeAt
    (stands : lexer.StandsAt grammar firstLine mode front rest)
    (fresh : mode.IsOver grammar rest) :
    lexer.modeAt lexer.cursor.settle.ahead = .start := by
  refine modeAt_of_isOver ?_
  rw [isOver_iff_of_head? stands.cursor.faces.head?_settle, stands.mode_eq,
    stands.notation_eq]
  exact fresh

theorem StandsAt.modeAt_due
    (stands : lexer.StandsAt grammar firstLine mode front rest)
    (due : ¬mode.IsOver grammar rest) :
    lexer.modeAt lexer.cursor.settle.ahead = mode := by
  rw [modeAt_of_not_isOver, stands.mode_eq]
  rw [isOver_iff_of_head? stands.cursor.faces.head?_settle, stands.mode_eq,
    stands.notation_eq]
  exact due

/-- Behind a gap that ends the text a lexer finds that it has ended. -/
theorem StandsAt.next_of_isOver
    (stands : lexer.StandsAt grammar firstLine mode front gap)
    (fresh : mode.IsOver grammar gap) (gaps : grammar.Skips gap) :
    ∃ token after, lexer.next = .ok token after ∧ token.lexeme = .finish ∧
      after.StandsAt grammar firstLine .start (front ++ gap) [] := by
  have skipped := stands.cursor.settle.skipWhile grammar.isGap
  rw [List.dropWhile_eq_nil_iff.2 gaps,
    List.takeWhile_eq_self_iff.2 gaps] at skipped
  have ahead := skipped.faces.settle_nil.1
  rw [Cursor.settle_skipWhile] at ahead
  let cursor := lexer.cursor.settle.skipWhile grammar.isGap
  refine ⟨⟨.finish, cursor.locationHere⟩, ⟨cursor, grammar, .start⟩, ?_, rfl,
    rfl, rfl, ?_, skipped, nofun⟩
  · rw [Lexer.next, stands.modeAt fresh]
    simp only [stands.notation_eq, ahead, cursor]
  · rw [Cursor.firstLine_skipWhile, Cursor.firstLine_settle, stands.numbered]

/-- Behind a gap a token is scanned on the line that it is on. -/
theorem StandsAt.exists_shows_token {first : Char}
    (stands : lexer.StandsAt grammar firstLine mode front
      (gap ++ first :: rest))
    (fresh : mode.IsOver grammar (gap ++ first :: rest))
    (gaps : grammar.Skips gap) (apart : grammar.isGap first = false) :
    ∃ cursor : Cursor,
      cursor.Shows (front ++ gap) (first :: rest)
        (Scan.token grammar first rest) ∧
      lexer.next = lexer.accept cursor (Scan.token grammar first rest) ∧
      cursor.firstLine = lexer.cursor.firstLine := by
  have skipped : (lexer.cursor.settle.skipWhile grammar.isGap).StandsAt
      (front ++ gap) (first :: rest) := by
    have moved := stands.cursor.settle.skipWhile grammar.isGap
    rwa [List.takeWhile_append_of_pos gaps, List.dropWhile_append_of_pos gaps,
      List.takeWhile_cons_of_neg (by simp [apart]),
      List.dropWhile_cons_of_neg (by simp [apart]), List.append_nil] at moved
  rcases skipped.faces.exists_token_settle apart with ⟨line, ahead, same⟩
  rw [Cursor.settle_skipWhile] at ahead
  refine ⟨_, skipped.shows ?_ ?_ ?_, ?_, ?_⟩
  · simp [ahead]
  · rw [← same, ahead]
    exact Scan.token_span_isPrefixOf grammar first line
  · rw [← same, ahead]
    exact fun _ _ => Scan.token_illegal
  · rw [Lexer.next, stands.modeAt fresh, ← same]
    simp only [stands.notation_eq, ahead]
  · rw [Cursor.firstLine_skipWhile, Cursor.firstLine_settle]

/-- Behind at signs the comment that is due is scanned up to the line's end. -/
theorem StandsAt.shows_comment
    (stands : lexer.StandsAt grammar firstLine .autoComment front text) :
    lexer.cursor.settle.Shows front text (Scan.autoComment [] text) := by
  have settled := stands.cursor.settle
  rw [← stands.cursor.faces.autoComment_settle]
  constructor
  · exact settled
  · by_cases left : lexer.cursor.settle.ahead = []
    · rcases stands.signs rfl with ⟨start, rfl⟩
      exact settled.locationHere_of_ended left (by decide)
    · exact settled.locationHere left
  · exact Scan.upToNewline_isPrefixOf _
  · intro span found illegal
    cases illegal
  · intro _
    exact ⟨_, _, _, rfl⟩

/-- What a mode finds between two texts is scanned on the line there. -/
theorem StandsAt.exists_shows
    (stands : lexer.StandsAt grammar firstLine mode front (gap ++ text))
    (finds : Finds grammar mode gap text finding) :
    ∃ cursor : Cursor, cursor.Shows (front ++ gap) text finding ∧
      lexer.next = lexer.accept cursor finding ∧
      cursor.firstLine = lexer.cursor.firstLine := by
  cases finds with
  | token fresh gaps apart => exact stands.exists_shows_token fresh gaps apart
  | octal due | hexadecimal due =>
      rw [List.nil_append] at stands
      rw [List.append_nil]
      refine ⟨_, stands.cursor.shows_word ?_, ?_, Cursor.firstLine_settle _⟩
      · rintro rfl
        exact due grammar.closes_nil
      · rw [Lexer.next, stands.modeAt_due (by simpa [Mode.IsOver] using due),
          stands.notation_eq, ← stands.cursor.faces.word_settle]
  | comment =>
      rw [List.nil_append] at stands
      rw [List.append_nil]
      refine ⟨_, stands.shows_comment, ?_, Cursor.firstLine_settle _⟩
      rw [Lexer.next, stands.modeAt_due (by simp [Mode.IsOver]),
        ← stands.cursor.faces.autoComment_settle]

/-! ## Reading all tokens -/

theorem cost_of_ne_finish {lexeme : Lexeme} (goesOn : lexeme ≠ .finish) :
    lexeme.cost = 1 := by
  cases lexeme with
  | finish => exact absurd rfl goesOn
  | _ => rfl

/-- A lexeme that a mode finds is read, and leaves the lexer behind it. -/
theorem StandsAt.next_lexeme {next : Mode} {span : List Char}
    {lexeme : Lexeme}
    (stands : lexer.StandsAt grammar firstLine mode front
      (gap ++ (span ++ rest)))
    (finds : Finds grammar mode gap (span ++ rest)
      (.lexeme lexeme span next)) :
    ∃ after,
      lexer.next = .ok ⟨lexeme, .behind firstLine (front ++ gap)⟩ after ∧
      after.StandsAt grammar firstLine next (front ++ gap ++ span) rest := by
  rcases stands.exists_shows finds with ⟨cursor, shows, read, same⟩
  have numbered : max 1 cursor.firstLine = firstLine := by
    rw [same, stands.numbered]
  rw [shows.accept_lexeme, numbered] at read
  refine ⟨_, read, stands.notation_eq, rfl, numbered, ?_, fun due => ?_⟩
  · rcases shows.start with ⟨line, ahead⟩
    rcases shows.stands.skip ahead.symm with ⟨later, split, _, behind⟩
    exact List.append_cancel_left split ▸ behind
  · rcases finds.signs due with ⟨start, same⟩
    exact ⟨front ++ gap ++ start, by rw [same, ← List.append_assoc]⟩

/-- An error that a mode finds is the error that the lexer reports. -/
theorem StandsAt.next_error {error : SyntaxError}
    (stands : lexer.StandsAt grammar firstLine mode front (gap ++ text))
    (finds : Finds grammar mode gap text finding)
    (fails : finding.error? firstLine (front ++ gap) text = some error) :
    ∃ after later, lexer.next = .error error after ∧
      after.StandsAt grammar firstLine .start (front ++ gap ++ finding.span)
        later := by
  rcases stands.exists_shows finds with ⟨cursor, shows, read, same⟩
  have numbered : max 1 cursor.firstLine = firstLine := by
    rw [same, stands.numbered]
  rw [← numbered] at fails
  rcases shows.start with ⟨line, ahead⟩
  rcases shows.stands.skip ahead.symm with ⟨later, _, _, behind⟩
  rw [read]
  exact ⟨_, later, shows.accept_error lexer fails, stands.notation_eq, rfl,
    numbered, behind, nofun⟩

/--
What a call does in front of a text: it finds the end of the text, or what its
mode finds there, or it fails.  Behind an error no mode is in force.
-/
inductive Step (grammar : Grammar) (firstLine : Nat) (mode : Mode)
    (front rest : List Char) : EStateM.Result SyntaxError Lexer Token → Prop
  | finish {token : Token} {after : Lexer} (fresh : mode.IsOver grammar rest)
      (gaps : grammar.Skips rest) (finishes : token.lexeme = .finish)
      (stands : after.StandsAt grammar firstLine .start (front ++ rest) []) :
      Step grammar firstLine mode front rest (.ok token after)
  | token {gap span later : List Char} {lexeme : Lexeme} {next : Mode}
      {after : Lexer} (split : rest = gap ++ (span ++ later))
      (finds : Finds grammar mode gap (span ++ later)
        (.lexeme lexeme span next))
      (stands : after.StandsAt grammar firstLine next (front ++ gap ++ span)
        later) :
      Step grammar firstLine mode front rest
        (.ok ⟨lexeme, .behind firstLine (front ++ gap)⟩ after)
  | error {gap text later : List Char} {finding : Finding}
      {error : SyntaxError} {after : Lexer} (split : rest = gap ++ text)
      (finds : Finds grammar mode gap text finding)
      (fails : finding.error? firstLine (front ++ gap) text = some error)
      (stands : after.StandsAt grammar firstLine .start
        (front ++ gap ++ finding.span) later) :
      Step grammar firstLine mode front rest (.error error after)

theorem StandsAt.step
    (stands : lexer.StandsAt grammar firstLine mode front rest) :
    Step grammar firstLine mode front rest lexer.next := by
  rcases Finds.exists_or_isOver grammar mode rest with
    ⟨fresh, gaps⟩ | ⟨gap, text, finding, rfl, finds⟩
  · rcases stands.next_of_isOver fresh gaps with
      ⟨token, after, read, finishes, ended⟩
    exact read ▸ .finish fresh gaps finishes ended
  · cases fails : finding.error? firstLine (front ++ gap) text with
    | some error =>
        rcases stands.next_error finds fails with ⟨after, later, read, behind⟩
        exact read ▸ .error rfl finds fails behind
    | none =>
        cases finding with
        | lexeme lexeme span next =>
            rcases finds.start with ⟨later, rfl⟩
            rcases stands.next_lexeme finds with ⟨after, read, behind⟩
            exact read ▸ .token rfl finds behind
        | illegal | unterminated => cases fails

theorem StandsAt.tokens_of_lexes {tokens : List Token}
    {error : Option SyntaxError}
    (stands : lexer.StandsAt grammar firstLine mode front rest)
    (lexes : Lexes grammar firstLine mode front rest tokens error) :
    lexer.tokens = (tokens, error) := by
  induction lexes generalizing lexer with
  | finish fresh gaps =>
      rcases stands.next_of_isOver fresh gaps with
        ⟨token, after, read, finishes, _⟩
      exact tokens_of_finish read finishes
  | token finds later ih =>
      rcases stands.next_lexeme finds with ⟨after, read, standsAfter⟩
      rw [tokens_of_ok read finds.ne_finish, ih standsAfter]
  | error finds fails =>
      rcases stands.next_error finds fails with ⟨after, _, read, _⟩
      exact tokens_of_error read

/-- The tokens of a lexer are those of the text in front of it. -/
theorem StandsAt.lexes
    (stands : lexer.StandsAt grammar firstLine mode front rest) :
    Lexes grammar firstLine mode front rest lexer.tokens.1 lexer.tokens.2 := by
  -- On the weight, since a comment that is due may take up no text.
  induction weighed : lexer.weight using Nat.strong_induction_on
    generalizing lexer mode front rest with
  | _ weight ih =>
    have step := stands.step
    generalize read : lexer.next = result at step
    cases step with
    | finish fresh gaps finishes =>
        rw [tokens_of_finish read finishes]
        exact .finish fresh gaps
    | error split finds fails =>
        rw [tokens_of_error read, split]
        exact .error finds fails
    | token split finds standsAfter =>
        have spent := weight_next read
        rw [cost_of_ne_finish finds.ne_finish] at spent
        rw [tokens_of_ok read finds.ne_finish, split]
        exact .token finds (ih _ (by omega) standsAfter rfl)

/--
The tokens and the error that a lexer finds in a text are those that the text
has.  No line is numbered zero.
-/
theorem tokens_ofText_iff {text : String} {firstLine : Nat}
    {tokens : List Token} {error : Option SyntaxError} :
    (ofText text firstLine grammar).tokens = (tokens, error) ↔
      Lexes grammar (max 1 firstLine) .start [] text.toList tokens error := by
  have stands := standsAt_ofText text firstLine grammar
  constructor
  · intro found
    have lexes := stands.lexes
    rwa [found] at lexes
  · exact stands.tokens_of_lexes

end Lexer

end Whirlwind
