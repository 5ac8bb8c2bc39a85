import Whirlwind.Proofs.Token.Stepping

/-!
# How far runs, comments and strings reach

A run reaches as far as its characters do, and so does a comment that nothing
ends but its line.  In a comment one at sign is only put into its text when no
other one follows, and in a string a backslash only when the letter behind it
has no meaning.  So the machine, which looks at one character, finds the end of
each where the scan finds it, which looks at the whole line, and with the same
text (`Automaton.resume_run`, `resume_semicolon`, `resume_dueComment`,
`resume_string`).
-/

namespace Whirlwind

namespace Automaton

section

variable {cursor : Cursor} {grammar : Grammar} {span more : List Char}

/-- Where a run stops, a machine is done with it as a scan is. -/
theorem resume_run_stops (line : cursor.HasLine span more)
    (inside : ∀ character ∈ span, isInRun grammar character = true)
    (stops : more.head?.filter (isInRun grammar) = none) :
    resume cursor grammar .run span span =
      deliver cursor grammar (Scan.run grammar (span ++ more)) := by
  have whole : (span ++ more).takeWhile (isInRun grammar) = span := by
    rw [List.takeWhile_append_of_pos inside]
    cases more with
    | nil => simp
    | cons next more =>
        rw [List.takeWhile_cons_of_neg (by simpa using stops), List.append_nil]
  have found : Scan.run grammar (span ++ more) =
      .lexeme (Scan.runLexeme ((span ++ more).takeWhile (isInRun grammar)))
        ((span ++ more).takeWhile (isInRun grammar)) .start := rfl
  rw [resume_eq line, found, whole]
  simp only [act, actRun, stops]
  rfl

/-- A run is read as far as it goes. -/
theorem resume_run (line : cursor.HasLine span more)
    (inside : ∀ character ∈ span, isInRun grammar character = true) :
    resume cursor grammar .run span span =
      deliver cursor grammar (Scan.run grammar (span ++ more)) := by
  induction more generalizing span with
  | nil => exact resume_run_stops line inside rfl
  | cons next more ih =>
      cases within : isInRun grammar next with
      | false =>
          exact resume_run_stops line inside (Option.filter_some_neg within)
      | true =>
          have other : next ≠ '\n' := by
            rintro rfl
            cases within
          have reads : resume cursor grammar .run span span =
              resume cursor grammar .run (span ++ [next]) (span ++ [next]) := by
            refine resume_of_reads line ?_
            simp only [act, actRun, Option.filter_some_pos within]
            rfl
          have insideAll : ∀ character ∈ span ++ [next],
              isInRun grammar character = true :=
            List.forall_mem_append.2 ⟨inside, by simpa using within⟩
          rw [reads, ih (line.read other) insideAll, ← List.append_cons]

/-- A comment behind two at signs is read up to the end of its line. -/
theorem resume_autoComment {opening body later tail : List Char}
    (line : cursor.HasLine (opening ++ body) (later ++ tail))
    (runsOut : Text.RunsOut later tail) :
    resume cursor grammar .autoComment (opening ++ body) body =
      .ok ⟨.autoComment (String.ofList (Text.trimReturns (body ++ later))),
          cursor.locationHere⟩
        ⟨cursor.skip (opening ++ (body ++ later)), grammar, .start⟩ := by
  induction later generalizing body with
  | nil =>
      rw [resume_eq line, List.nil_append, List.append_nil]
      cases tail with
      | nil => rfl
      | cons first tail =>
          rw [runsOut.2 first rfl]
          rfl
  | cons next later ih =>
      rcases runsOut with ⟨inLine, ends⟩
      rw [List.mem_cons, not_or] at inLine
      have reads : resume cursor grammar .autoComment (opening ++ body) body =
          resume cursor grammar .autoComment (opening ++ (body ++ [next]))
            (body ++ [next]) := by
        rw [← List.append_assoc]
        refine resume_of_reads line ?_
        rw [act, actAutoComment]
        · rfl
        · exact inLine.1 ∘ Eq.symm
      have lineAfter := line.read (Ne.symm inLine.1)
      rw [List.append_assoc] at lineAfter
      rw [reads, ih lineAfter ⟨inLine.2, ends⟩, ← List.append_cons]

theorem resume_dueComment {opening : List Char}
    (line : cursor.HasLine opening more) :
    resume cursor grammar .autoComment opening [] =
      deliver cursor grammar (Scan.autoComment opening more) := by
  rcases Scan.upToNewline_isPrefixOf more with ⟨tail, split⟩
  rw [← split, ← List.append_nil opening] at line
  have reads : resume cursor grammar .autoComment (opening ++ []) [] = _ :=
    resume_autoComment line (Scan.runsOut_upToNewline split.symm)
  rw [List.append_nil] at reads
  exact reads

theorem resume_atSigns (line : cursor.HasLine ['@'] ('@' :: more)) :
    resume cursor grammar .atSign ['@'] [] =
      deliver cursor grammar (Scan.autoComment ['@', '@'] more) := by
  have reads : resume cursor grammar .atSign ['@'] [] =
      resume cursor grammar .autoComment ['@', '@'] [] :=
    resume_of_reads line rfl
  rw [reads]
  exact resume_dueComment (line.read (by decide))

theorem resume_atSign (line : cursor.HasLine ['@'] more)
    (single : more.head? ≠ some '@') :
    resume cursor grammar .atSign ['@'] [] =
      deliver cursor grammar
        (.lexeme (.operator (.mark '@')) ['@'] .start) := by
  rw [resume_eq line, act, actAtSign]
  · rfl
  · exact single

/-- A comment is read up to two at signs or to the end of its line. -/
theorem resume_comment {body later tail : List Char}
    (line : cursor.HasLine (';' :: body) (later ++ tail))
    (runsOut : Text.RunsOut later tail) :
    resume cursor grammar .comment (';' :: body) body =
      match Scan.beforeAtSigns? later with
      | some early =>
          .ok ⟨.comment (String.ofList (body ++ early)), cursor.locationHere⟩
            ⟨cursor.skip (';' :: (body ++ early ++ ['@', '@'])), grammar,
              .autoComment⟩
      | none =>
          .ok ⟨.comment (String.ofList (Text.trimReturns (body ++ later))),
              cursor.locationHere⟩
            ⟨cursor.skip (';' :: (body ++ later)), grammar, .start⟩ := by
  fun_induction Scan.beforeAtSigns? later generalizing body with
  | case1 =>
      rw [resume_eq line, List.nil_append, List.append_nil]
      cases tail with
      | nil => rfl
      | cons first tail =>
          rw [runsOut.2 first rfl]
          rfl
  | case2 rest =>
      have opens : resume cursor grammar .comment (';' :: body) body =
          resume cursor grammar .commentAt (';' :: body ++ ['@']) body :=
        resume_of_reads line rfl
      have ends := resume_of_ends (line.read (by decide))
        (rfl : act ⟨cursor.skip _, grammar, .commentAt⟩
          ⟨body, cursor.locationHere⟩ (some '@') = _)
      rw [opens, ends]
      simp
  | case3 character rest apart ih =>
      rcases runsOut with ⟨inLine, ends⟩
      rw [List.mem_cons, not_or] at inLine
      have lineAfter : cursor.HasLine (';' :: (body ++ [character]))
          (rest ++ tail) := line.read (Ne.symm inLine.1)
      have reads : resume cursor grammar .comment (';' :: body) body =
          resume cursor grammar .comment (';' :: (body ++ [character]))
            (body ++ [character]) := by
        by_cases sign : character = '@'
        · -- The sign is put back into the text, as no other one follows it.
          subst sign
          have single : (rest ++ tail).head? ≠ some '@' := by
            cases rest with
            | nil => exact fun sign => absurd (ends '@' sign) (by decide)
            | cons next rest =>
                rintro ⟨⟩
                exact apart rest rfl rfl
          have opens : resume cursor grammar .comment (';' :: body) body =
              resume cursor grammar .commentAt (';' :: (body ++ ['@'])) body :=
            resume_of_reads line rfl
          rw [opens]
          refine resume_of_stays lineAfter ?_
          rw [act, actCommentAt]
          · rfl
          · exact single
        · refine resume_of_reads line ?_
          rw [act, actComment]
          · rfl
          · exact inLine.1 ∘ Eq.symm
          · exact sign
      rw [reads, ih lineAfter ⟨inLine.2, ends⟩]
      cases Scan.beforeAtSigns? rest <;> simp

theorem resume_semicolon (line : cursor.HasLine [';'] more) :
    resume cursor grammar .comment [';'] [] =
      deliver cursor grammar (Scan.comment more) := by
  rcases Scan.upToNewline_isPrefixOf more with ⟨tail, split⟩
  rw [← split] at line
  rw [resume_comment line (Scan.runsOut_upToNewline split.symm), Scan.comment]
  cases Scan.beforeAtSigns? (Scan.upToNewline more) <;> rfl

/-- The answer about a string, of which a part has been read and decoded. -/
def quotedResult (cursor : Cursor) (grammar : Grammar)
    (body text more : List Char) : EStateM.Result SyntaxError Automaton Token :=
  match Scan.quotedBody? more with
  | some later =>
      .ok ⟨.string (String.ofList (text ++ Scan.unescape later)),
          cursor.locationHere⟩
        ⟨cursor.skip ('"' :: (body ++ later ++ ['"'])), grammar, .start⟩
  | none =>
      let after := cursor.skip ('"' :: (body ++ Scan.upToNewline more))
      .error ⟨.unterminatedString, cursor.locationHere, after.lineText⟩
        ⟨after, grammar, .start⟩

/-- A line that ends in a string leaves it without its closing quote. -/
theorem resume_quoted_ends {phase : Phase} {body text : List Char}
    (open_ended : phase = .quoted ∨ phase = .quotedEscape)
    (line : cursor.HasLine ('"' :: body) more)
    (ends : more.head? = none ∨ more.head? = some '\n') :
    resume cursor grammar phase ('"' :: body) text =
      let after := cursor.skip ('"' :: body)
      .error ⟨.unterminatedString, cursor.locationHere, after.lineText⟩
        ⟨after, grammar, .start⟩ := by
  rw [resume_eq line]
  rcases open_ended with rfl | rfl <;> rcases ends with last | last <;>
    rw [last] <;> rfl

/-- A piece of a string that is no part of its end is read and decoded. -/
theorem quotedResult_append (piece : List Char) {body text decoded : List Char}
    (within : Scan.quotedBody? (piece ++ more) =
      (Scan.quotedBody? more).map (piece ++ ·))
    (decodes : ∀ later,
      Scan.unescape (piece ++ later) = decoded ++ Scan.unescape later)
    (inLine : '\n' ∉ piece) :
    quotedResult cursor grammar body text (piece ++ more) =
      quotedResult cursor grammar (body ++ piece) (text ++ decoded) more := by
  rw [quotedResult, within, quotedResult]
  cases Scan.quotedBody? more with
  | none => simp [Scan.upToNewline_append inLine]
  | some later => simp [decodes]

theorem resume_backslash {body text : List Char}
    (line : cursor.HasLine ('"' :: body) ('\\' :: more)) :
    resume cursor grammar .quoted ('"' :: body) text =
      resume cursor grammar .quotedEscape ('"' :: (body ++ ['\\'])) text :=
  resume_of_reads line rfl

/-- A line that ends behind a backslash leaves the string open as well. -/
theorem resume_backslash_ends {body text : List Char}
    (line : cursor.HasLine ('"' :: body) ('\\' :: more))
    (ends : more.head? = none ∨ more.head? = some '\n') :
    resume cursor grammar .quoted ('"' :: body) text =
      let after := cursor.skip ('"' :: (body ++ ['\\']))
      .error ⟨.unterminatedString, cursor.locationHere, after.lineText⟩
        ⟨after, grammar, .start⟩ := by
  have lineAfter : cursor.HasLine ('"' :: (body ++ ['\\'])) more :=
    line.read (by decide)
  rw [resume_backslash line, resume_quoted_ends (Or.inr rfl) lineAfter ends]

theorem resume_plain {body text : List Char} {character : Char}
    (line : cursor.HasLine ('"' :: body) (character :: more))
    (noQuote : character ≠ '"') (inLine : character ≠ '\n')
    (noEscape : character ≠ '\\') :
    resume cursor grammar .quoted ('"' :: body) text =
      resume cursor grammar .quoted ('"' :: (body ++ [character]))
        (text ++ [character]) := by
  refine resume_of_reads line ?_
  rw [act, actQuoted]
  · rfl
  · exact inLine
  · exact noQuote
  · exact noEscape

/-- A backslash is read with the letter behind it, and decoded with it. -/
theorem resume_escape {body text : List Char} {letter : Char}
    (line : cursor.HasLine ('"' :: body) ('\\' :: letter :: more))
    (inLine : letter ≠ '\n') :
    resume cursor grammar .quoted ('"' :: body) text =
      resume cursor grammar .quoted ('"' :: (body ++ ['\\', letter]))
        (text ++ Scan.unescape ['\\', letter]) := by
  have lineEscape : cursor.HasLine ('"' :: (body ++ ['\\']))
      (letter :: more) := line.read (by decide)
  rw [resume_backslash line, List.append_cons body '\\' [letter]]
  cases known : Scan.escape? letter with
  | some decoded =>
      have decodes : Scan.unescape ['\\', letter] = [decoded] := by
        simp [Scan.unescape, known]
      rw [decodes]
      refine resume_of_reads lineEscape ?_
      rw [act, actQuotedEscape]
      · rw [known]
        rfl
      · exact inLine
  | none =>
      have decodes : Scan.unescape ['\\', letter] = ['\\', letter] := by
        simp [Scan.unescape, known]
      have stays : resume cursor grammar .quotedEscape
          ('"' :: (body ++ ['\\'])) text =
          resume cursor grammar .quoted ('"' :: (body ++ ['\\']))
            (text ++ ['\\']) := by
        refine resume_of_stays lineEscape ?_
        rw [List.head?_cons, act, actQuotedEscape]
        · rw [known]
          rfl
        · exact inLine
      have noQuote : letter ≠ '"' := by
        rintro rfl
        cases known
      have noEscape : letter ≠ '\\' := by
        rintro rfl
        cases known
      rw [decodes, stays, resume_plain lineEscape noQuote inLine noEscape,
        List.append_assoc text]
      rfl

/-- A string is read up to its closing quote or to the end of its line. -/
theorem resume_quoted {body text : List Char}
    (line : cursor.HasLine ('"' :: body) more) :
    resume cursor grammar .quoted ('"' :: body) text =
      quotedResult cursor grammar body text more := by
  fun_induction Scan.quotedBody? more generalizing body text with
  | case1 =>
      rw [resume_quoted_ends (Or.inl rfl) line (Or.inl rfl)]
      simp [quotedResult, Scan.quotedBody?, Scan.upToNewline]
  | case2 rest =>
      rw [resume_of_ends line rfl]
      simp [quotedResult, Scan.quotedBody?, Scan.unescape]
  | case3 rest =>
      rw [resume_quoted_ends (Or.inl rfl) line (Or.inr rfl)]
      simp [quotedResult, Scan.quotedBody?, Scan.upToNewline]
  | case4 rest =>
      rw [resume_backslash_ends line (Or.inr rfl)]
      simp [quotedResult, Scan.quotedBody?, Scan.upToNewline]
  | case5 letter rest inLine ih =>
      have lineEscape : cursor.HasLine ('"' :: (body ++ ['\\']))
          (letter :: rest) := line.read (by decide)
      have lineAfter : cursor.HasLine ('"' :: (body ++ ['\\', letter]))
          rest := by simpa using lineEscape.read inLine
      rw [resume_escape line inLine, ih lineAfter]
      refine (quotedResult_append ['\\', letter] ?_ ?_ ?_).symm
      · simp [Scan.quotedBody?, inLine]
      · intro later
        cases known : Scan.escape? letter <;> simp [Scan.unescape, known]
      · simpa using Ne.symm inLine
  | case6 character rest noQuote noNewline noEscape ih =>
      by_cases backslash : character = '\\'
      · subst backslash
        cases rest with
        | cons letter rest => exact absurd rfl (noEscape letter rest rfl)
        | nil =>
            rw [resume_backslash_ends line (Or.inl rfl)]
            simp [quotedResult, Scan.quotedBody?, Scan.upToNewline]
      · have lineAfter : cursor.HasLine ('"' :: (body ++ [character])) rest :=
          line.read noNewline
        rw [resume_plain line noQuote noNewline backslash, ih lineAfter]
        refine (quotedResult_append [character] ?_ ?_ ?_).symm
        · rw [List.singleton_append, Scan.quotedBody?]
          · rfl
          · exact noQuote
          · exact noNewline
          · exact noEscape
        · intro later
          rw [List.singleton_append, Scan.unescape]
          · rfl
          · exact fun _ _ same => absurd same backslash
        · simpa using Ne.symm noNewline

theorem resume_string (line : cursor.HasLine ['"'] more) :
    resume cursor grammar .quoted ['"'] [] =
      deliver cursor grammar (Scan.string more) := by
  rw [resume_quoted line, quotedResult, Scan.string]
  cases Scan.quotedBody? more <;> rfl

end

end Automaton

end Whirlwind
