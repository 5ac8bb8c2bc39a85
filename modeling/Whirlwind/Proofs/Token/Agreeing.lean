import Whirlwind.Proofs.Token.Reaching

/-!
# The state machine answers as the lexer does

A machine that starts a token reads what the scan of a token finds
(`Automaton.resume_token`), a gap in front of it is read over the ends of lines
(`Automaton.run_skipWhile`), and a radix mark that has no digits behind it is
over (`Automaton.resume_of_isOver`).  So a call answers as it does for the
lexer that stands where the machine stands, and leaves the one where it leaves
the other (`Automaton.next_ofLexer`).
-/

namespace Whirlwind

namespace Cursor

variable {cursor : Cursor} {text : List Char}

/-- A cursor that has a line takes no other one. -/
@[simp]
theorem settle_settle (cursor : Cursor) :
    cursor.settle.settle = cursor.settle := by
  by_cases left : cursor.settle.ahead = []
  · have last := unread_eq_nil_of_settle left
    rw [settle.eq_def cursor.settle]
    split
    · next taken =>
      rw [last] at taken
      cases taken
    · rfl
  · exact settle_of_ahead left

/-- A settled cursor has a whole line ahead, or the rest of the text. -/
theorem Faces.hasLine_settle (faces : cursor.Faces text) :
    cursor.settle.HasLine [] cursor.settle.ahead := by
  refine ⟨rfl, List.not_mem_nil, ?_⟩
  rcases faces.exists_settle_append with ⟨more, split, rfl | ended⟩
  · have none_left : cursor.settle.unread.flatten = [] := by
      have whole := faces.settle.remaining
      rw [split] at whole
      exact List.append_cancel_left whole
    refine Or.inr (List.eq_nil_iff_forall_not_mem.2 fun line member => ?_)
    exact cursor.settle.unread_ne_nil line member
      (List.flatten_eq_nil_iff.1 none_left line member)
  · exact Or.inl ended

end Cursor

namespace Automaton

section

variable {cursor : Cursor} {grammar : Grammar} {first : Char}
  {gap rest more : List Char} {location : Location}

theorem head?_ne_of_forall (other : ∀ later, rest = first :: later → False) :
    rest.head? ≠ some first := by
  intro there
  rcases List.head?_eq_some_iff.1 there with ⟨later, same⟩
  exact other later same

/-- What starts behind a gap is read as a scan finds it. -/
theorem resume_token (line : cursor.HasLine [] (first :: rest))
    (apart : grammar.isGap first = false) :
    resume cursor grammar .start [] [] =
      deliver cursor grammar (Scan.token grammar first rest) := by
  have lineAfter : cursor.HasLine [first] rest :=
    line.read (Grammar.ne_newline_of_apart apart).symm
  have starts : resume cursor grammar .start [] [] =
      (actStart ⟨cursor, grammar, .start⟩ ⟨[], cursor.locationHere⟩
        (some first)).outcome := resume_eq line
  simp only [starts, actStart, advance_here line, Scan.token]
  by_cases tab : (grammar.hasTabs && decide (first = '\t')) = true
  · simp only [if_pos tab]
    rfl
  have visible : ¬Text.isBlank first = true := by
    simpa [Grammar.isGap, tab] using apart
  simp only [if_neg tab, if_neg visible]
  by_cases quote : first = '"'
  · simp only [if_pos quote]
    subst quote
    exact resume_string lineAfter
  simp only [if_neg quote]
  by_cases semicolon : (grammar.hasComments && decide (first = ';')) = true
  · simp only [if_pos semicolon]
    rcases of_decide_eq_true (Bool.and_eq_true_iff.1 semicolon).2 with rfl
    exact resume_semicolon lineAfter
  simp only [if_neg semicolon]
  by_cases sign : (grammar.hasAtSign && decide (first = '@')) = true
  · simp only [if_pos sign]
    rcases of_decide_eq_true (Bool.and_eq_true_iff.1 sign).2 with rfl
    split
    · exact resume_atSigns lineAfter
    · next single =>
      exact resume_atSign lineAfter (head?_ne_of_forall single)
  simp only [if_neg sign]
  by_cases mark : grammar.isMark first = true
  · simp only [if_pos mark]
    rfl
  simp only [if_neg mark]
  by_cases runs : grammar.hasRuns = true
  · simp only [if_pos runs]
    refine resume_run lineAfter ?_
    simp [isInRun, visible, quote, mark]
  simp only [if_neg runs]
  split
  · exact (startWord_zero line).trans (resume_octal lineAfter)
  · exact (startWord_zero line).trans (resume_hexadecimal lineAfter)
  · next noOctal noHexadecimal =>
    have inside :=
      Scan.isTerminator_of_apart apart tab semicolon sign mark
    refine resume_startWord line inside ?_ ?_
    · exact fun zero => head?_ne_of_forall fun later => noOctal later zero
    · exact fun zero => head?_ne_of_forall fun later => noHexadecimal later zero

end

/-! ## Gaps -/

section

variable {cursor : Cursor} {grammar : Grammar} {gap more : List Char}
  {location : Location}

/-- At the start of a token nothing tells where it starts. -/
theorem run_start (cursor : Cursor) (grammar : Grammar)
    (one other : Location) :
    (⟨cursor, grammar, .start⟩ : Automaton).run ⟨[], one⟩ =
      (⟨cursor, grammar, .start⟩ : Automaton).run ⟨[], other⟩ := by
  rw [run_eq_outcome, run_eq_outcome]
  show (actStart _ _ _).outcome = (actStart _ _ _).outcome
  rw [actStart.eq_def, actStart.eq_def]

theorem run_settle (machine : Automaton) (draft : Draft) :
    machine.settle.run draft = machine.run draft := by
  rw [run_eq_outcome, run_eq_outcome]
  simp only [settle, Cursor.settle_settle]

/-- A gap is read, and what is behind it starts a token. -/
theorem run_gap (ahead : cursor.ahead = gap ++ more)
    (gaps : grammar.Skips gap) :
    (⟨cursor, grammar, .start⟩ : Automaton).run ⟨[], location⟩ =
      (⟨cursor.skip gap, grammar, .start⟩ : Automaton).run ⟨[], location⟩ := by
  induction gap generalizing cursor with
  | nil => rfl
  | cons next gap ih =>
      have left : cursor.ahead ≠ [] := by simp [ahead]
      have passes := gaps next List.mem_cons_self
      simp only [Grammar.isGap, Bool.and_eq_true, Bool.not_eq_true'] at passes
      have acts : (⟨cursor, grammar, .start⟩ : Automaton).actStart
          ⟨[], location⟩ cursor.ahead.head? =
            .onward ⟨cursor.skip [next], grammar, .start⟩
              ⟨[], cursor.locationHere⟩ := by
        have advanced : (⟨cursor, grammar, .start⟩ : Automaton).advance = _ :=
          advance_eq ahead
        simp [ahead, actStart, goOn, passes, advanced]
      have reads :
          (⟨cursor, grammar, .start⟩ : Automaton).run ⟨[], location⟩ =
            (⟨cursor.skip [next], grammar, .start⟩ : Automaton).run
              ⟨[], cursor.locationHere⟩ := by
        rw [run_eq_outcome]
        simp only [settle, Cursor.settle_of_ahead left]
        exact congrArg Turn.outcome acts
      have aheadAfter : (cursor.skip [next]).ahead = gap ++ more := by
        simp [ahead]
      rw [reads, run_start, ih aheadAfter (List.forall_mem_cons.1 gaps).2,
        Cursor.skip_skip]
      rfl

/-- A gap is read over the ends of lines. -/
theorem run_skipWhile (cursor : Cursor) (grammar : Grammar)
    (location : Location) :
    (⟨cursor, grammar, .start⟩ : Automaton).run ⟨[], location⟩ =
      (⟨cursor.skipWhile grammar.isGap, grammar, .start⟩ : Automaton).run
        ⟨[], location⟩ := by
  fun_induction Cursor.skipWhile grammar.isGap cursor with
  | case1 cursor here next others ended taken ih =>
      rw [run_gap List.takeWhile_append_dropWhile.symm
        (fun _ => List.mem_takeWhile_imp), ← run_settle]
      exact ih
  | case2 cursor here stops =>
      exact run_gap List.takeWhile_append_dropWhile.symm
        (fun _ => List.mem_takeWhile_imp)

end

/-! ## Calls -/

section

variable {cursor : Cursor} {grammar : Grammar} {mode : Mode}
  {text : List Char}

/-- Where digits cannot start, the mark in front of them has none. -/
theorem resume_counts_over {phase : Phase} {isDigit : Char → Bool}
    (counts : Counts phase isDigit) (line : cursor.HasLine [] text)
    (closes : grammar.Closes text) :
    resume cursor grammar phase [] [] =
      resume cursor grammar .start [] [] := by
  have noName : text.head?.filter Scan.isNameChar = none :=
    Option.filter_eq_none_iff.2 fun _ there named =>
      Scan.head_ne_of_closes closes named there
  have noDigit : text.head?.filter isDigit = none :=
    Option.filter_eq_none_iff.2 fun _ there digit =>
      Scan.head_ne_of_closes closes (counts.isNameChar digit) there
  refine resume_of_stays line ?_
  rw [counts.act_eq]
  simp only [actDigits, noDigit, noName, if_true]
  cases text with
  | nil => rfl
  | cons next rest =>
      rw [List.head?_cons, close, if_pos (Grammar.closes_cons.1 closes)]

/-- A mode that is over lets a token start. -/
theorem resume_of_isOver (line : cursor.HasLine [] text)
    (fresh : mode.IsOver grammar text) :
    resume cursor grammar mode.phase [] [] =
      resume cursor grammar .start [] [] := by
  rcases fresh with rfl | ⟨apart, closes⟩
  · rfl
  cases mode with
  | start => rfl
  | autoComment => exact absurd rfl apart
  | octalDigits => exact resume_counts_over .decimal line closes
  | hexDigits => exact resume_counts_over .hexadecimal line closes

/-- From its start a machine reads what is behind a gap as a scan finds it. -/
theorem resume_start (faces : cursor.Faces text) :
    resume cursor grammar .start [] [] =
      let here := cursor.skipWhile grammar.isGap
      match here.ahead with
      | [] => .ok ⟨.finish, here.locationHere⟩ ⟨here, grammar, .start⟩
      | first :: rest =>
          deliver here grammar (Scan.token grammar first rest) := by
  have skips : resume cursor grammar .start [] [] =
      resume (cursor.skipWhile grammar.isGap) grammar .start [] [] :=
    (run_skipWhile cursor grammar cursor.locationHere).trans
      (run_start _ grammar cursor.locationHere _)
  have line := (faces.skipWhile grammar.isGap).hasLine_settle
  rw [Cursor.settle_skipWhile] at line
  rw [skips]
  cases ahead : (cursor.skipWhile grammar.isGap).ahead with
  | nil =>
      rw [resume_eq line, ahead]
      simp only [ahead]
      rfl
  | cons first rest =>
      simp only [ahead]
      exact resume_token (ahead ▸ line) (Cursor.test_head_skipWhile ahead)

/-- A machine that stands where a lexer stands answers as the lexer does. -/
theorem next_ofLexer {lexer : Lexer} (faces : lexer.cursor.Faces text) :
    (ofLexer lexer).next = ofResult lexer.next := by
  have line := faces.hasLine_settle
  have reads : (ofLexer lexer).next =
      resume lexer.cursor.settle lexer.grammar lexer.mode.phase [] [] := rfl
  rw [reads]
  by_cases fresh : lexer.mode.IsOver lexer.grammar lexer.cursor.settle.ahead
  · rw [resume_of_isOver line fresh, resume_start faces.settle, Lexer.next,
      Lexer.modeAt_of_isOver fresh]
    cases ahead : (lexer.cursor.settle.skipWhile lexer.grammar.isGap).ahead <;>
      simp only [ahead] <;> rfl
  · rw [Lexer.next, Lexer.modeAt_of_not_isOver fresh]
    simp only [Mode.IsOver, not_or, not_and] at fresh
    cases mode : lexer.mode with
    | start => exact absurd mode fresh.1
    | octalDigits =>
        have inside := fresh.2 (by simp [mode])
        exact resume_digits .decimal line (List.forall_mem_nil _)
          (Or.inr inside)
    | hexDigits =>
        have inside := fresh.2 (by simp [mode])
        exact resume_digits .hexadecimal line (List.forall_mem_nil _)
          (Or.inr inside)
    | autoComment => exact resume_dueComment line

end

end Automaton

end Whirlwind
