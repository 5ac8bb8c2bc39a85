import Whirlwind.Proofs.Token.Pointing

/-!
# Tokens are local to lines

No mode and no location is carried over the end of a line.  The tokens of a
text that is cut behind a newline are those of its two parts, where the second
part starts with the number of its first line, and an error in the first part
hides the second one (`Lexer.tokens_append`).  So it makes no difference whether
a text is read as a whole or line by line.
-/

namespace Whirlwind

/-! ## Moving a text to later lines -/

namespace Text

theorem lastLine_append_of_ended {before : List Char}
    (ended : lastLine before = []) (front : List Char) :
    lastLine (before ++ front) = lastLine front := by
  by_cases member : '\n' ∈ front
  · exact lastLine_append_of_mem member
  · have alone : lastLine ([] ++ front) = lastLine [] ++ front :=
      lastLine_append_of_not_mem member
    rw [lastLine_append_of_not_mem member, ended]
    exact alone.symm

end Text

theorem Location.behind_append {before : List Char}
    (ended : Text.lastLine before = []) (firstLine : Nat)
    (front : List Char) :
    Location.behind firstLine (before ++ front) =
      Location.behind (firstLine + before.count '\n') front := by
  rw [Location.behind, Location.behind, Text.lastLine_append_of_ended ended,
    List.count_append, Nat.add_assoc]

theorem Finding.error?_append {before : List Char}
    (ended : Text.lastLine before = []) (firstLine : Nat)
    (front text : List Char) (finding : Finding) :
    finding.error? firstLine (before ++ front) text =
      finding.error? (firstLine + before.count '\n') front text := by
  have line : Text.lineAt (before ++ front) text = Text.lineAt front text := by
    rw [Text.lineAt, Text.lastLine_append_of_ended ended, Text.lineAt]
  cases finding with
  | lexeme => rfl
  | illegal span found =>
      rw [error?, error?, line, List.append_assoc,
        Location.behind_append ended]
  | unterminated span =>
      rw [error?, error?, line, Location.behind_append ended]

section

variable {grammar : Grammar} {firstLine : Nat} {mode : Mode}
  {before front gap text rest : List Char} {tokens : List Token}
  {error : Option SyntaxError} {finding : Finding}

/-- Behind lines that have ended a text has its tokens on later lines. -/
theorem Lexes.behind_lines (ended : Text.lastLine before = [])
    (lexes : Lexes grammar (firstLine + before.count '\n') mode front rest
      tokens error) :
    Lexes grammar firstLine mode (before ++ front) rest tokens error := by
  induction lexes with
  | finish fresh gaps => exact .finish fresh gaps
  | @token mode next front gap span rest lexeme tokens error finds _ ih =>
      have moved : before ++ (front ++ gap) = before ++ front ++ gap :=
        (List.append_assoc before front gap).symm
      rw [← Location.behind_append ended, moved]
      refine .token finds ?_
      rwa [← moved, List.append_assoc before]
  | @error mode front gap text finding error finds fails =>
      rw [← Finding.error?_append ended, ← List.append_assoc] at fails
      exact .error finds fails

/-! ## Reading on behind the end of a line -/

theorem Text.getLast?_append (visible : text ≠ []) (front : List Char) :
    (front ++ text).getLast? = text.getLast? := by
  rw [List.getLast?_append, List.getLast?_eq_some_getLast visible,
    Option.some_or]

theorem Grammar.closes_append (visible : text ≠ []) (more : List Char) :
    grammar.Closes (text ++ more) ↔ grammar.Closes text := by
  rcases List.exists_cons_of_ne_nil visible with ⟨first, rest, rfl⟩
  exact Iff.rfl

theorem Mode.isOver_append (visible : text ≠ []) (more : List Char) :
    mode.IsOver grammar (text ++ more) ↔ mode.IsOver grammar text := by
  rw [IsOver, Grammar.closes_append visible, IsOver]

/-- Nothing is found in an empty text unless a comment is due there. -/
theorem Finds.text_ne_nil (finds : Finds grammar mode gap text finding)
    (left : gap ++ text ≠ []) : text ≠ [] := by
  rintro rfl
  generalize none_left : ([] : List Char) = text at finds
  cases finds with
  | token => cases none_left
  | octal due | hexadecimal due => exact due (none_left ▸ grammar.closes_nil)
  | comment => exact left (by simp)

/-- What is found in front of a newline does not depend on later lines. -/
theorem Finds.append (finds : Finds grammar mode gap text finding)
    (ended : '\n' ∈ text) (more : List Char) :
    Finds grammar mode gap (text ++ more) finding := by
  have closes : grammar.Closes (text ++ more) ↔ grammar.Closes text :=
    Grammar.closes_append (List.ne_nil_of_mem ended) more
  cases finds with
  | @token _ _ rest first fresh gaps apart =>
      have behind := (List.mem_cons.1 ended).resolve_left
        (Grammar.ne_newline_of_apart apart)
      rw [← Mode.isOver_append (by simp) more, List.append_assoc] at fresh
      rw [← Scan.token_append_of_mem behind more]
      exact .token fresh gaps apart
  | octal due =>
      rw [← Scan.word_append_of_mem ended more]
      exact .octal (mt closes.1 due)
  | hexadecimal due =>
      rw [← Scan.word_append_of_mem ended more]
      exact .hexadecimal (mt closes.1 due)
  | comment =>
      rw [← Scan.autoComment_append_of_mem ended more]
      exact .comment

theorem Finds.newline_not_mem_span
    (finds : Finds grammar mode gap text finding) : '\n' ∉ finding.span := by
  cases finds with
  | token _ _ apart => exact Scan.newline_not_mem_token_span apart _
  | octal | hexadecimal => exact Scan.newline_not_mem_word_span _
  | comment => exact Scan.newline_not_mem_autoComment_span (by simp) _

theorem Finding.error?_line (ended : '\n' ∈ text) (more : List Char) :
    finding.error? firstLine front (text ++ more) =
      finding.error? firstLine front text := by
  have line : Text.lineAt front (text ++ more) = Text.lineAt front text := by
    rw [Text.lineAt, Scan.upToNewline_append_of_mem ended, Text.lineAt]
  cases finding with
  | lexeme => rfl
  | illegal => rw [error?, error?, line]
  | unterminated => rw [error?, error?, line]

/-- What is found on lines that have ended leaves the last newline behind it. -/
theorem Finds.getLast?_text (finds : Finds grammar mode gap text finding)
    (ended : (gap ++ text).getLast? = some '\n') :
    text.getLast? = some '\n' := by
  have visible := finds.text_ne_nil (by
    intro none_left
    rw [none_left] at ended
    cases ended)
  rwa [Text.getLast?_append visible] at ended

theorem Finds.behind_gap {gap' : List Char} (visible : gap ≠ [])
    (fresh : mode.IsOver grammar gap) (gaps : grammar.Skips gap)
    (finds : Finds grammar .start gap' text finding) :
    Finds grammar mode (gap ++ gap') text finding := by
  cases finds with
  | token _ more apart =>
      refine .token ?_ (Grammar.skips_append gaps more) apart
      rwa [List.append_assoc, Mode.isOver_append visible]

/-- A gap in front of a text that starts afresh has no tokens. -/
theorem Lexes.behind_gap (visible : gap ≠ [])
    (fresh : mode.IsOver grammar gap) (gaps : grammar.Skips gap)
    (lexes : Lexes grammar firstLine .start (front ++ gap) rest tokens error) :
    Lexes grammar firstLine mode front (gap ++ rest) tokens error := by
  cases lexes with
  | finish _ more =>
      refine .finish ?_ (Grammar.skips_append gaps more)
      rwa [Mode.isOver_append visible]
  | token finds later =>
      rw [List.append_assoc front] at later ⊢
      rw [← List.append_assoc gap]
      exact .token (finds.behind_gap visible fresh gaps) later
  | error finds fails =>
      rw [List.append_assoc] at fails
      rw [← List.append_assoc]
      exact .error (finds.behind_gap visible fresh gaps) fails

/--
Lines that have ended are followed by what the text behind them has, unless an
error ends them early.
-/
theorem Lexes.append {behind : List Token} {failure : Option SyntaxError}
    {more : List Char}
    (lexes : Lexes grammar firstLine mode front rest tokens error)
    (ended : rest.getLast? = some '\n')
    (later : Lexes grammar firstLine .start (front ++ rest) more behind
      failure) :
    Lexes grammar firstLine mode front (rest ++ more)
      (tokens ++ if error.isSome then [] else behind) (error.or failure) := by
  induction lexes with
  | finish fresh gaps =>
      refine later.behind_gap ?_ fresh gaps
      rintro rfl
      cases ended
  | @token mode next front gap span rest lexeme tokens error finds _ ih =>
      have endedText := finds.getLast?_text ended
      have inText := List.mem_of_getLast? endedText
      -- No span has a newline, so the last one is still to come.
      have left : rest ≠ [] := by
        rintro rfl
        rw [List.append_nil] at inText
        exact finds.newline_not_mem_span inText
      rw [Text.getLast?_append left] at endedText
      have longer := finds.append inText more
      rw [List.append_assoc] at longer
      rw [List.append_assoc gap, List.append_assoc span, List.cons_append]
      refine .token longer (ih endedText ?_)
      rwa [List.append_assoc, List.append_assoc]
  | @error mode front gap text finding error finds fails =>
      have inText := List.mem_of_getLast? (finds.getLast?_text ended)
      rw [List.append_assoc gap]
      refine .error (finds.append inText more) ?_
      rw [Finding.error?_line inText, fails]

end

namespace Lexer

theorem lexes_ofText {firstLine : Nat} (numbered : 1 ≤ firstLine)
    (text : String) (grammar : Grammar) :
    Lexes grammar firstLine .start [] text.toList
      (ofText text firstLine grammar).tokens.1
      (ofText text firstLine grammar).tokens.2 := by
  have lexes := (standsAt_ofText text firstLine grammar).lexes
  rwa [Nat.max_eq_right numbered] at lexes

/--
The tokens of a text that is cut behind a newline, and its first error, are
those of the first part, and if that has no error then those of the second
part, read from the number of its first line on.  This is as long as the lines
have numbers of 32 bits, as those of all tokens and of the error then have.
-/
theorem tokens_append {front back : String} {firstLine : Nat}
    {grammar : Grammar} (numbered : 1 ≤ firstLine)
    (ended : front.toList.getLast? = some '\n')
    (fit : Text.NumbersFit (firstLine + front.toList.count '\n')
      back.toList) :
    let whole := (ofText (front ++ back) firstLine grammar).tokens
    (whole =
      match (ofText front firstLine grammar).tokens with
      | (tokens, some error) => (tokens, some error)
      | (tokens, none) =>
          let later := (ofText back
            (firstLine + front.toList.count '\n') grammar).tokens
          (tokens ++ later.1, later.2)) ∧
      (∀ token ∈ whole.1, token.location.line < UInt32.size) ∧
      ∀ error ∈ whole.2, error.location.line < UInt32.size := by
  intro whole
  have last : Text.lastLine front.toList = [] := by
    rcases List.getLast?_eq_some_iff.1 ended with ⟨body, split⟩
    rw [split, Text.lastLine_append_newline]
  refine ⟨?_, (isIn_ofText (front ++ back) firstLine grammar).line_lt_of_tokens
    numbered ?_⟩
  · have later := (lexes_ofText (Nat.le_add_right_of_le numbered) back
      grammar).behind_lines last
    rw [List.append_nil] at later
    have joined := (lexes_ofText numbered front grammar).append ended later
    have stands := standsAt_ofText (front ++ back) firstLine grammar
    rw [Nat.max_eq_right numbered, String.toList_append] at stands
    have found : whole = _ := stands.tokens_of_lexes joined
    rw [found]
    rcases (ofText front firstLine grammar).tokens with ⟨tokens, _ | error⟩
    · rfl
    · simp
  · rw [String.toList_append]
    exact fit.append_lines last

/-- A radix mark and a split comment at the ends of lines, and a later error. -/
theorem tokens_append_modes :
    1 ≤ 7 ∧ "0x\n;a@@\n".toList.getLast? = some '\n' ∧
      Text.NumbersFit 9 "1f 2$".toList ∧
      (ofText ("0x\n;a@@\n" ++ "1f 2$") 7 .assembly).tokens =
        ([⟨.operator .hexadecimal, ⟨7, 0⟩⟩, ⟨.comment "a", ⟨8, 0⟩⟩,
            ⟨.autoComment "", ⟨8, 4⟩⟩, ⟨.identifier "1f", ⟨9, 0⟩⟩],
          some ⟨.illegalCharacter '$', ⟨9, 4⟩, "1f 2$"⟩) := by
  have ended : "0x\n;a@@\n".toList.getLast? = some '\n' := by decide
  have fit : Text.NumbersFit 9 "1f 2$".toList := by decide +kernel
  refine ⟨by decide, ended, fit, ?_⟩
  rw [(tokens_append (by decide) ended fit).1]
  decide +kernel

end Lexer

end Whirlwind
