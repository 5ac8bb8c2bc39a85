import Whirlwind.Token.Lexer
import Whirlwind.Token.Scan.Span

/-!
# Lexing comes to an end

The weight of a lexer is the length of the text that remains, and one more
where a comment is due that may be empty.  Reading a token takes at least its
cost off the weight (`weight_next`), so a lexer has finitely many tokens before
the finishing one; a failing read adds nothing (`weight_next_error`).
-/

namespace Whirlwind

namespace Cursor

theorem length_remaining (cursor : Cursor) :
    cursor.remaining.length =
      cursor.ahead.length + cursor.unread.flatten.length := by
  simp [remaining]

theorem length_remaining_skip (cursor : Cursor) (span : List Char) :
    (cursor.skip span).remaining.length =
      cursor.ahead.length - span.length + cursor.unread.flatten.length := by
  simp [remaining]

theorem length_remaining_skip_le (cursor : Cursor) (span : List Char) :
    (cursor.skip span).remaining.length ≤ cursor.remaining.length := by
  rw [length_remaining_skip, length_remaining]
  omega

theorem length_remaining_skipWhile_le (test : Char → Bool) (cursor : Cursor) :
    (cursor.skipWhile test).remaining.length ≤ cursor.remaining.length := by
  fun_induction skipWhile test cursor with
  | case1 cursor here _ _ _ _ hypothesis =>
      rw [settle_remaining] at hypothesis
      exact Nat.le_trans hypothesis (length_remaining_skip_le _ _)
  | case2 cursor here => exact length_remaining_skip_le _ _

theorem dropWhile_eq_drop (test : Char → Bool) (characters : List Char) :
    characters.dropWhile test =
      characters.drop (characters.takeWhile test).length := by
  calc
    characters.dropWhile test =
        (characters.takeWhile test ++ characters.dropWhile test).drop
          (characters.takeWhile test).length := List.drop_left.symm
    _ = characters.drop (characters.takeWhile test).length := by
        rw [List.takeWhile_append_dropWhile]

/-- The character that skipping stops at fails the test. -/
theorem test_head_skipWhile {test : Char → Bool} {cursor : Cursor}
    {first : Char} {rest : List Char}
    (ahead : (cursor.skipWhile test).ahead = first :: rest) :
    test first = false := by
  fun_induction skipWhile test cursor with
  | case1 _ _ _ _ _ _ hypothesis => exact hypothesis ahead
  | case2 cursor here =>
      have stops : cursor.ahead.dropWhile test = first :: rest := by
        rw [← ahead]
        simp only [here, skip_ahead]
        exact dropWhile_eq_drop test cursor.ahead
      have := List.head?_dropWhile_not test cursor.ahead
      rw [stops] at this
      simpa using this

end Cursor

namespace Lexer

/-- The weight that is left after a finding has been accepted. -/
theorem weight_accept {lexer after : Lexer} {cursor : Cursor} {token : Token}
    {finding : Finding}
    (accepted : lexer.accept cursor finding = .ok token after)
    (start : finding.span <+: cursor.ahead)
    (enough : ∀ lexeme span next,
      finding = .lexeme lexeme span next → Scan.room next ≤ span.length) :
    after.weight + 1 ≤ cursor.remaining.length := by
  cases finding with
  | lexeme lexeme span next =>
      have longer := enough _ _ _ rfl
      have fits := start.length_le
      simp only [accept] at accepted
      obtain ⟨rfl, rfl⟩ := EStateM.Result.ok.inj accepted
      simp only [Finding.span] at fits
      simp only [weight, Finding.span, Cursor.length_remaining]
      rw [Cursor.skip_ahead, Cursor.skip_unread, List.length_drop]
      cases next <;> simp [Scan.room] at longer ⊢ <;> omega
  | illegal => cases accepted
  | unterminated => cases accepted

theorem weight_accept_error {lexer after : Lexer} {cursor : Cursor}
    {error : SyntaxError} {finding : Finding}
    (accepted : lexer.accept cursor finding = .error error after) :
    after.weight ≤ cursor.remaining.length := by
  have shorter := cursor.length_remaining_skip_le finding.span
  cases finding with
  | lexeme => cases accepted
  | illegal span found =>
      obtain ⟨_, rfl⟩ := EStateM.Result.error.inj accepted
      simpa [weight] using shorter
  | unterminated span =>
      obtain ⟨_, rfl⟩ := EStateM.Result.error.inj accepted
      simpa [weight] using shorter

theorem cost_le_one (lexeme : Lexeme) : lexeme.cost ≤ 1 := by
  cases lexeme <;> simp [Lexeme.cost]

/-- Where digits are still due, what is ahead cannot end a number. -/
theorem open_ended_of_modeAt {lexer : Lexer} {ahead : List Char} {mode : Mode}
    (due : mode = .octalDigits ∨ mode = .hexDigits)
    (found : lexer.modeAt ahead = mode) :
    ∃ first rest, ahead = first :: rest ∧
      lexer.grammar.isTerminator first = false := by
  unfold modeAt at found
  split at found
  · split at found
    · subst found
      simp at due
    · next first rest =>
        refine ⟨first, rest, rfl, ?_⟩
        split at found
        · subst found
          simp at due
        · simp_all
  · split at found
    · subst found
      simp at due
    · next first rest =>
        refine ⟨first, rest, rfl, ?_⟩
        split at found
        · subst found
          simp at due
        · simp_all
  · next no_octal no_hex =>
      rcases due with rfl | rfl
      · exact absurd found no_octal
      · exact absurd found no_hex

theorem mode_of_modeAt_autoComment {lexer : Lexer} {ahead : List Char}
    (found : lexer.modeAt ahead = .autoComment) :
    lexer.mode = .autoComment := by
  unfold modeAt at found
  split at found
  · split at found
    · cases found
    · split at found <;> simp_all
  · split at found
    · cases found
    · split at found <;> simp_all
  · exact found

/-- A token takes at least its cost off the weight. -/
theorem weight_next {lexer after : Lexer} {token : Token}
    (read : lexer.next = .ok token after) :
    after.weight + token.lexeme.cost ≤ lexer.weight := by
  have unit := cost_le_one token.lexeme
  have settled := congrArg List.length (lexer.cursor.settle_remaining)
  simp only [next] at read
  split at read
  · have skipped := lexer.cursor.settle.length_remaining_skipWhile_le
      lexer.grammar.isGap
    split at read
    · obtain ⟨rfl, rfl⟩ := EStateM.Result.ok.inj read
      simp only [weight, Lexeme.cost, reduceCtorEq, if_false]
      omega
    · next first rest ahead =>
        have apart := Cursor.test_head_skipWhile ahead
        have := weight_accept read
          (by rw [ahead]; exact Scan.token_span_isPrefixOf _ _ _)
          (fun _ _ _ found => Scan.room_le_token apart found)
        simp only [weight] at this ⊢
        omega
  · next due =>
      obtain ⟨first, rest, ahead, open_ended⟩ :=
        open_ended_of_modeAt (Or.inl rfl) due
      rw [ahead] at read
      have := weight_accept read
        (by rw [ahead, Scan.word_span]; exact List.takeWhile_prefix _)
        (fun _ _ _ found => Scan.room_le_word open_ended found)
      simp only [weight] at this ⊢
      omega
  · next due =>
      obtain ⟨first, rest, ahead, open_ended⟩ :=
        open_ended_of_modeAt (Or.inr rfl) due
      rw [ahead] at read
      have := weight_accept read
        (by rw [ahead, Scan.word_span]; exact List.takeWhile_prefix _)
        (fun _ _ _ found => Scan.room_le_word open_ended found)
      simp only [weight] at this ⊢
      omega
  · next due =>
      have mode := mode_of_modeAt_autoComment due
      have shorter := lexer.cursor.settle.length_remaining_skip_le
        (Scan.autoComment [] lexer.cursor.settle.ahead).span
      simp only [Scan.autoComment, accept] at read
      obtain ⟨rfl, rfl⟩ := EStateM.Result.ok.inj read
      simp only [weight, mode, Lexeme.cost, reduceCtorEq, if_false, if_true]
      simp only [Scan.autoComment] at shorter
      omega

/-- A read that fails adds nothing to the weight. -/
theorem weight_next_error {lexer after : Lexer} {error : SyntaxError}
    (read : lexer.next = .error error after) :
    after.weight ≤ lexer.weight := by
  have settled := congrArg List.length (lexer.cursor.settle_remaining)
  have skipped := lexer.cursor.settle.length_remaining_skipWhile_le
    lexer.grammar.isGap
  simp only [next] at read
  split at read
  · split at read
    · cases read
    · have := weight_accept_error read
      simp only [weight] at this ⊢
      omega
  all_goals
    have := weight_accept_error read
    simp only [weight] at this ⊢
    omega

end Lexer

end Whirlwind
