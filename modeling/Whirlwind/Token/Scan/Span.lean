import Whirlwind.Token.Scan

/-!
# Spans

The span of a finding is a start of the text that was scanned.  The span of a
token is not empty, and that of a comment that two at signs end leaves room
for the comment behind them.
-/

namespace Whirlwind.Scan

theorem upToNewline_isPrefixOf (text : List Char) : upToNewline text <+: text :=
  List.takeWhile_prefix _

theorem beforeAtSigns?_split {text body : List Char}
    (found : beforeAtSigns? text = some body) :
    body ++ ['@', '@'] <+: text := by
  fun_induction beforeAtSigns? text generalizing body with
  | case1 => simp at found
  | case2 rest =>
      obtain rfl := Option.some.inj found
      exact ⟨rest, rfl⟩
  | case3 character rest _ hypothesis =>
      obtain ⟨later, found_later, rfl⟩ := Option.map_eq_some_iff.1 found
      obtain ⟨after, split⟩ := hypothesis found_later
      exact ⟨after, by simp [← split]⟩

theorem quotedBody?_split {text body : List Char}
    (found : quotedBody? text = some body) : body ++ ['"'] <+: text := by
  fun_induction quotedBody? text generalizing body with
  | case1 => simp at found
  | case2 rest =>
      obtain rfl := Option.some.inj found
      exact ⟨rest, rfl⟩
  | case3 => simp at found
  | case4 => simp at found
  | case5 letter rest _ hypothesis =>
      obtain ⟨later, found_later, rfl⟩ := Option.map_eq_some_iff.1 found
      obtain ⟨after, split⟩ := hypothesis found_later
      exact ⟨after, by simp [← split]⟩
  | case6 character rest _ _ _ hypothesis =>
      obtain ⟨later, found_later, rfl⟩ := Option.map_eq_some_iff.1 found
      obtain ⟨after, split⟩ := hypothesis found_later
      exact ⟨after, by simp [← split]⟩

theorem word_span (grammar : Grammar) (isDigit : Char → Bool)
    (text : List Char) :
    (word grammar isDigit text).span = text.takeWhile isNameChar := by
  simp only [word]
  split
  · rfl
  · split <;> rfl

theorem string_span_isPrefixOf (rest : List Char) :
    (string rest).span <+: '"' :: rest := by
  simp only [string]
  split
  · next body found =>
      exact List.cons_prefix_cons.2 ⟨rfl, quotedBody?_split found⟩
  · exact List.cons_prefix_cons.2 ⟨rfl, upToNewline_isPrefixOf rest⟩

theorem comment_span_isPrefixOf (rest : List Char) :
    (comment rest).span <+: ';' :: rest := by
  simp only [comment]
  split
  · next body found =>
      exact List.cons_prefix_cons.2
        ⟨rfl, (beforeAtSigns?_split found).trans (upToNewline_isPrefixOf rest)⟩
  · exact List.cons_prefix_cons.2 ⟨rfl, upToNewline_isPrefixOf rest⟩

/-- The span of a finding is a start of the text that was scanned. -/
theorem token_span_isPrefixOf (grammar : Grammar) (first : Char)
    (rest : List Char) :
    (token grammar first rest).span <+: first :: rest := by
  simp only [token]
  split
  · exact ⟨rest, rfl⟩
  split
  · next quote => exact quote ▸ string_span_isPrefixOf rest
  split
  · next semicolon =>
      simp only [Bool.and_eq_true, decide_eq_true_eq] at semicolon
      exact semicolon.2 ▸ comment_span_isPrefixOf rest
  split
  · next sign =>
      simp only [Bool.and_eq_true, decide_eq_true_eq] at sign
      obtain ⟨_, rfl⟩ := sign
      split
      · next later =>
          simp only [autoComment, Finding.span]
          exact (List.prefix_append_right_inj ['@', '@']).2
            (upToNewline_isPrefixOf later)
      · exact ⟨rest, rfl⟩
  split
  · exact ⟨rest, rfl⟩
  split
  · exact List.takeWhile_prefix _
  split
  · exact ⟨_, rfl⟩
  · exact ⟨_, rfl⟩
  · rw [word_span]
    exact List.takeWhile_prefix _

/-- How much longer than a lexeme's cost its span has to be. -/
def room : Mode → Nat
  | .autoComment => 2
  | _ => 1

/-- A word that is accepted where no word can end is not empty. -/
theorem room_le_word {grammar : Grammar} {isDigit : Char → Bool}
    {first : Char} {rest : List Char} {lexeme : Lexeme} {span : List Char}
    {next : Mode} (open_ended : grammar.isTerminator first = false)
    (found : word grammar isDigit (first :: rest) = .lexeme lexeme span next) :
    room next ≤ span.length := by
  cases named : isNameChar first with
  | false => simp [word, named, open_ended] at found
  | true =>
      have spans := congrArg Finding.span found
      rw [word_span] at spans
      have starts : next = .start := by
        simp only [word] at found
        split at found
        · exact (Finding.lexeme.inj found).2.2.symm
        · split at found
          · exact (Finding.lexeme.inj found).2.2.symm
          · cases found
      subst starts
      simp [Finding.span, named] at spans
      simp [room, ← spans]

/-- Every token takes up text, and one that splits a comment more of it. -/
theorem room_le_token {grammar : Grammar} {first : Char} {rest : List Char}
    {lexeme : Lexeme} {span : List Char} {next : Mode}
    (apart : grammar.isGap first = false)
    (found : token grammar first rest = .lexeme lexeme span next) :
    room next ≤ span.length := by
  simp only [token] at found
  split at found
  · obtain ⟨_, rfl, rfl⟩ := Finding.lexeme.inj found
    simp [room]
  next not_tab =>
  split at found
  · simp only [string] at found
    split at found
    · obtain ⟨_, rfl, rfl⟩ := Finding.lexeme.inj found
      simp [room]
    · cases found
  next not_quote =>
  split at found
  · simp only [comment] at found
    split at found
    · obtain ⟨_, rfl, rfl⟩ := Finding.lexeme.inj found
      simp [room]
    · obtain ⟨_, rfl, rfl⟩ := Finding.lexeme.inj found
      simp [room]
  next not_comment =>
  split at found
  · split at found
    · obtain ⟨_, rfl, rfl⟩ := Finding.lexeme.inj found
      simp [room]
    · obtain ⟨_, rfl, rfl⟩ := Finding.lexeme.inj found
      simp [room]
  next not_sign =>
  split at found
  · obtain ⟨_, rfl, rfl⟩ := Finding.lexeme.inj found
    simp [room]
  next not_mark =>
  have not_blank : Text.isBlank first = false := by
    cases blank : Text.isBlank first with
    | false => rfl
    | true =>
        simp only [Grammar.isGap, blank, Bool.true_and, Bool.not_eq_false']
          at apart
        exact absurd apart not_tab
  split at found
  · obtain ⟨_, rfl, rfl⟩ := Finding.lexeme.inj found
    simp only [Bool.not_eq_true] at not_mark
    simp [room, not_blank, not_quote, not_mark]
  split at found
  · obtain ⟨_, rfl, rfl⟩ := Finding.lexeme.inj found
    simp [room]
  · obtain ⟨_, rfl, rfl⟩ := Finding.lexeme.inj found
    simp [room]
  · refine room_le_word ?_ found
    simp only [Grammar.isTerminator, not_blank, Bool.false_or,
      Bool.or_eq_false_iff]
    simp_all

end Whirlwind.Scan
