import Whirlwind.Proofs.Source.Numbering
import Whirlwind.Proofs.Token.Standing

/-!
# Where tokens and errors are

A lexer that stands anywhere in a text reads a token whose location is a place
on the line it has buffered, or fails with an error that points into the text,
and stands in the text again (`Lexer.IsIn.points_next`).  What a scan has to
tell for that is little: what it finds starts the line ahead, and what it
blames is shown there (`Finding.FitsIn`).
-/

namespace Whirlwind

theorem Text.isShown_of_visible {character : Char}
    (visible : isBlank character = false) : IsShown character := by
  constructor <;> (rintro rfl; cases visible)

namespace Grammar

theorem isShown_of_apart {grammar : Grammar} {first : Char}
    (apart : grammar.isGap first = false) : Text.IsShown first := by
  constructor
  · rintro rfl
    cases grammar <;> cases apart
  · exact Ne.symm (ne_newline_of_apart apart)

theorem isShown_of_inside {grammar : Grammar} {first : Char}
    (inside : grammar.isTerminator first = false) : Text.IsShown first := by
  simp only [isTerminator, Bool.or_eq_false_iff] at inside
  exact Text.isShown_of_visible inside.1.1.1

end Grammar

/--
What is found stands at the start of the line ahead.  A character that is
illegal, and the quote of a string that does not end, are shown there, and only
at signs that end a comment make another one due.
-/
inductive Finding.FitsIn (ahead : List Char) : Finding → Prop
  | lexeme {lexeme : Lexeme} {span : List Char} {next : Mode}
      (start : span <+: ahead) (goesOn : lexeme ≠ .finish)
      (due : next = .autoComment →
        (∃ front, span = front ++ ['@']) ∧ ∃ text, lexeme = .comment text) :
      FitsIn ahead (.lexeme lexeme span next)
  | illegal {span : List Char} {found : Char}
      (start : span ++ [found] <+: ahead) (shown : Text.IsShown found) :
      FitsIn ahead (.illegal span found)
  | unterminated {span : List Char} (start : span <+: ahead)
      (quote : ahead.head? = some '"') :
      FitsIn ahead (.unterminated span)

namespace Scan

theorem word_fitsIn (grammar : Grammar) (isDigit : Char → Bool)
    (text : List Char) : (word grammar isDigit text).FitsIn text := by
  have start : text.takeWhile isNameChar <+: text := List.takeWhile_prefix _
  have accepted : ∀ run : List Char, run <+: text → Finding.FitsIn text
      (.lexeme (if run.all isDigit then .digits (String.ofList run)
        else .identifier (String.ofList run)) run .start) := by
    intro run within
    refine .lexeme within ?_ nofun
    split <;> nofun
  generalize found : word grammar isDigit text = finding
  unfold word at found
  split at found
  · exact found ▸ accepted _ start
  · next next later behind =>
    split at found
    · exact found ▸ accepted _ start
    · next inside =>
      have split := List.takeWhile_append_dropWhile (p := isNameChar) (l := text)
      rw [behind] at split
      rw [← found]
      refine .illegal ⟨later, ?_⟩
        (Grammar.isShown_of_inside (by simpa using inside))
      rw [List.append_assoc]
      exact split

theorem string_fitsIn (rest : List Char) : (string rest).FitsIn ('"' :: rest) := by
  have start := string_span_isPrefixOf rest
  unfold string at start ⊢
  split
  · next body found =>
    rw [found] at start
    exact .lexeme start nofun nofun
  · next unended =>
    rw [unended] at start
    exact .unterminated start rfl

theorem comment_fitsIn (rest : List Char) :
    (comment rest).FitsIn (';' :: rest) := by
  have start := comment_span_isPrefixOf rest
  unfold comment at start ⊢
  split
  · next body found =>
    rw [found] at start
    refine .lexeme start nofun fun _ => ⟨⟨';' :: (body ++ ['@']), ?_⟩, _, rfl⟩
    simp
  · next alone =>
    rw [alone] at start
    exact .lexeme start nofun nofun

theorem autoComment_fitsIn (opening rest : List Char) :
    (autoComment opening rest).FitsIn (opening ++ rest) :=
  .lexeme ((List.prefix_append_right_inj opening).2
    (upToNewline_isPrefixOf rest)) nofun nofun

theorem run_fitsIn (grammar : Grammar) (text : List Char) :
    (run grammar text).FitsIn text := by
  refine .lexeme (List.takeWhile_prefix _) ?_ nofun
  split <;> nofun

/-- Whatever is scanned fits the line that it is scanned in. -/
theorem token_fitsIn (grammar : Grammar) (first : Char) (rest : List Char) :
    (token grammar first rest).FitsIn (first :: rest) := by
  have single : [first] <+: first :: rest := ⟨rest, rfl⟩
  unfold token
  split
  · exact .lexeme single nofun nofun
  split
  · next quote => exact quote ▸ string_fitsIn rest
  split
  · next semicolon =>
    simp only [Bool.and_eq_true, decide_eq_true_eq] at semicolon
    exact semicolon.2 ▸ comment_fitsIn rest
  split
  · next sign =>
    simp only [Bool.and_eq_true, decide_eq_true_eq] at sign
    rcases sign with ⟨_, rfl⟩
    split
    · exact autoComment_fitsIn ['@', '@'] _
    · exact .lexeme single nofun nofun
  split
  · exact .lexeme single nofun nofun
  split
  · exact run_fitsIn grammar _
  split
  · exact .lexeme ⟨_, rfl⟩ nofun nofun
  · exact .lexeme ⟨_, rfl⟩ nofun nofun
  · exact word_fitsIn grammar _ _

end Scan

namespace Lexer

variable {lexer after : Lexer} {cursor : Cursor} {firstLine : Nat}
  {text front rest : List Char} {finding : Finding}

/--
A lexer is in a text whose first line has a number: it stands between what it
has read and the rest, and a comment is due only behind at signs.
-/
inductive IsIn (lexer : Lexer) (firstLine : Nat) (text : List Char) : Prop
  | between (front rest : List Char) (split : text = front ++ rest)
      (stands : lexer.cursor.StandsAt front rest)
      (signs : lexer.mode = .autoComment → ∃ start, front = start ++ ['@'])
      (numbered : lexer.cursor.firstLine = firstLine)

theorem isIn_ofText (text : String) (firstLine : Nat) (grammar : Grammar) :
    (ofText text firstLine grammar).IsIn firstLine text.toList :=
  .between [] text.toList rfl (Cursor.standsAt_ofText text firstLine) nofun rfl

/-- A lexer in a text reads a token that is there, or its error points there. -/
inductive Points (firstLine : Nat) (text : List Char) :
    EStateM.Result SyntaxError Lexer Token → Prop
  | token {token : Token} {after : Lexer} (isIn : after.IsIn firstLine text)
      (marks : after.cursor.Marks text token.location)
      (finish : token.lexeme = .finish →
        token.location = .atEnd firstLine text)
      (due : after.mode = .autoComment →
        ∃ written, token.lexeme = .comment written) :
      Points firstLine text (.ok token after)
  | error {error : SyntaxError} {after : Lexer}
      (isIn : after.IsIn firstLine text)
      (points : error.PointsInto firstLine text) :
      Points firstLine text (.error error after)

/-- What fits the line ahead is accepted as a token or an error in the text. -/
theorem points_accept (lexer : Lexer) (split : text = front ++ rest)
    (stands : cursor.StandsAt front rest)
    (marks : cursor.Marks text cursor.locationHere)
    (numbered : cursor.firstLine = firstLine)
    (fits : finding.FitsIn cursor.ahead) :
    Points firstLine text (lexer.accept cursor finding) := by
  have behind : ∀ {span more : List Char} (mode : Mode),
      cursor.ahead = span ++ more →
      (mode = .autoComment → ∃ start, span = start ++ ['@']) →
      ({ lexer with cursor := cursor.skip span, mode := mode } : Lexer).IsIn
        firstLine text := by
    intro span more mode ahead signs
    rcases stands.skip ahead with ⟨later, same, _, standsLater⟩
    refine .between (front ++ span) later ?_ standsLater ?_ numbered
    · rw [split, same, List.append_assoc]
    · intro due
      rcases signs due with ⟨start, rfl⟩
      exact ⟨front ++ start, (List.append_assoc _ _ _).symm⟩
  cases fits with
  | lexeme start goesOn due =>
      rcases start with ⟨more, ahead⟩
      exact .token (behind _ ahead.symm fun late => (due late).1)
        (marks.skip ahead.symm) (fun ended => absurd ended goesOn)
        (fun late => (due late).2)
  | @illegal span found start shown =>
      rcases start with ⟨more, ahead⟩
      rw [List.append_assoc] at ahead
      have there : (cursor.skip span).ahead = found :: more := by
        simp [← ahead]
      have marksThere :=
        (marks.isOn.skip ahead.symm).marks_of_shown there shown
      refine .error (behind _ ahead.symm nofun) ?_
      rw [← numbered]
      refine marksThere.pointsInto nofun ?_ nofun
      rintro _ ⟨⟩
      exact Cursor.getElem?_lineText there shown
  | @unterminated span start quote =>
      rcases start with ⟨more, ahead⟩
      have marksHere := marks.skip ahead.symm
      rcases List.head?_eq_some_iff.1 quote with ⟨line, there⟩
      refine .error (behind _ ahead.symm nofun) ?_
      rw [← numbered]
      refine marksHere.pointsInto nofun nofun fun _ => ?_
      rw [Cursor.lineText_skip ahead.symm]
      exact Cursor.getElem?_lineText there ⟨by decide, by decide⟩

/-- Behind a gap a cursor has a line of its text buffered, or is at the end. -/
theorem IsIn.exists_past_gap (isIn : lexer.IsIn firstLine text)
    (counts : 1 ≤ firstLine)
    (past : lexer.cursor.settle.skipWhile lexer.grammar.isGap = cursor) :
    ∃ front rest, text = front ++ rest ∧ cursor.StandsAt front rest ∧
      cursor.firstLine = firstLine ∧ cursor.IsOn text ∧
      (cursor.ahead = [] → cursor.unread = []) := by
  rcases isIn with ⟨front, rest, split, stands, _, numbered⟩
  rcases stands.settle.exists_skipWhile lexer.grammar.isGap with
    ⟨skipped, later, same, standsLater⟩
  have splitLater : text = front ++ skipped ++ later := by
    rw [split, same, List.append_assoc]
  have numberedLater : cursor.firstLine = firstLine := by
    rw [← past, Cursor.firstLine_skipWhile, Cursor.firstLine_settle, numbered]
  have none_unread : cursor.ahead = [] → cursor.unread = [] := by
    rw [← past, ← Cursor.settle_skipWhile]
    exact Cursor.unread_eq_nil_of_settle
  rw [past] at standsLater
  refine ⟨front ++ skipped, later, splitLater, standsLater, numberedLater, ?_,
    none_unread⟩
  rw [splitLater]
  exact standsLater.isOn (by rwa [numberedLater]) none_unread

/-- Reading a token keeps a lexer in its text, whether or not it fails. -/
theorem IsIn.points_next (isIn : lexer.IsIn firstLine text)
    (counts : 1 ≤ firstLine) : Points firstLine text lexer.next := by
  have past := isIn.exists_past_gap counts rfl
  rcases isIn with ⟨front, rest, split, stands, signs, numbered⟩
  have settled := stands.settle
  have numberedHere : lexer.cursor.settle.firstLine = firstLine := by
    rw [Cursor.firstLine_settle, numbered]
  have isOn := settled.isOn (by rwa [numberedHere])
    Cursor.unread_eq_nil_of_settle
  rw [← split] at isOn
  unfold next
  dsimp only
  split
  · -- At the start of a token or of a gap the gap is skipped.
    rcases past with ⟨front, later, splitLater, standsLater, numberedLater,
      isOnLater, none_unread⟩
    split
    · next none_ahead =>
      have none_left := none_unread none_ahead
      refine .token (.between _ later splitLater standsLater nofun
        numberedLater) (isOnLater.marks_of_ended none_ahead none_left) ?_ nofun
      intro _
      rw [← numberedLater]
      exact isOnLater.locationHere_eq_atEnd none_ahead none_left
    · next first line ahead =>
      have shown :=
        Grammar.isShown_of_apart (Cursor.test_head_skipWhile ahead)
      refine points_accept lexer splitLater standsLater
        (isOnLater.marks_of_shown ahead shown) numberedLater ?_
      rw [ahead]
      exact Scan.token_fitsIn _ first line
  · next due =>
    rcases open_ended_of_modeAt (Or.inl rfl) due with
      ⟨first, line, ahead, inside⟩
    exact points_accept lexer split settled
      (isOn.marks_of_shown ahead (Grammar.isShown_of_inside inside))
      numberedHere (Scan.word_fitsIn _ _ _)
  · next due =>
    rcases open_ended_of_modeAt (Or.inr rfl) due with
      ⟨first, line, ahead, inside⟩
    exact points_accept lexer split settled
      (isOn.marks_of_shown ahead (Grammar.isShown_of_inside inside))
      numberedHere (Scan.word_fitsIn _ _ _)
  · next due =>
    rcases signs (mode_of_modeAt_autoComment due) with ⟨start, rfl⟩
    rcases settled.exists_behind (by decide) with ⟨earlier, behind⟩
    exact points_accept lexer split settled (isOn.marks_of_sign behind)
      numberedHere (Scan.autoComment_fitsIn [] _)

/-- The places of all tokens of a text, and of its first error, are on lines of
the text. -/
theorem IsIn.line_lt_of_tokens (isIn : lexer.IsIn firstLine text)
    (counts : 1 ≤ firstLine) (fit : Text.NumbersFit firstLine text) :
    (∀ token ∈ lexer.tokens.1, token.location.line < UInt32.size) ∧
      ∀ error ∈ lexer.tokens.2, error.location.line < UInt32.size := by
  fun_induction tokens lexer with
  | case1 => simp
  | case2 lexer token after read goesOn ih =>
      have points := read ▸ isIn.points_next counts
      cases points with
      | token isIn marks _ _ =>
          rcases ih isIn with ⟨tokens, error⟩
          have here : token.location.line < UInt32.size := by
            rw [marks.line]
            refine marks.isOn.lineNumber_lt ?_
            rcases isIn with ⟨_, _, _, _, _, numbered⟩
            rwa [numbered]
          exact ⟨List.forall_mem_cons.2 ⟨here, tokens⟩, error⟩
  | case3 lexer error after read =>
      have points := read ▸ isIn.points_next counts
      cases points with
      | error _ points =>
          refine ⟨List.forall_mem_nil _, fun found same => ?_⟩
          rcases Option.some.inj same with rfl
          exact points.line_lt fit

end Lexer

end Whirlwind
