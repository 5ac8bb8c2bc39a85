import Whirlwind.Proofs.Token.Finding

/-!
# Scans end with their line

No lexeme reaches beyond the newline, and none depends on what stands behind
it: in a text that has a newline every scan finds what it finds without the
text behind the newline (`Scan.token_append_of_mem`), and what it finds is in
front of the newline (`Scan.newline_not_mem_token_span`).
-/

namespace Whirlwind

@[simp]
theorem Text.isBlank_newline : isBlank '\n' = true :=
  rfl

/-- In every notation a newline only separates tokens. -/
theorem Grammar.isGap_newline (grammar : Grammar) :
    grammar.isGap '\n' = true := by
  cases grammar <;> rfl

theorem Grammar.ne_newline_of_apart {grammar : Grammar} {first : Char}
    (apart : grammar.isGap first = false) : '\n' ≠ first := by
  rintro rfl
  rw [isGap_newline] at apart
  cases apart

namespace Scan

variable {grammar : Grammar} {test isDigit : Char → Bool} {stop : Char}
  {line : List Char}

theorem takeWhile_append_of_mem (member : stop ∈ line)
    (stops : test stop = false) (more : List Char) :
    (line ++ more).takeWhile test = line.takeWhile test := by
  rw [List.takeWhile_append, if_neg]
  intro whole
  have all := (List.takeWhile_sublist test).eq_of_length whole
  have holds := List.mem_takeWhile_imp (all.symm ▸ member)
  rw [stops] at holds
  cases holds

theorem exists_dropWhile_append (member : stop ∈ line)
    (stops : test stop = false) :
    ∃ next later, line.dropWhile test = next :: later ∧
      ∀ more, (line ++ more).dropWhile test = next :: (later ++ more) := by
  have left : line.dropWhile test ≠ [] := by
    intro none_left
    have holds := List.dropWhile_eq_nil_iff.1 none_left stop member
    rw [stops] at holds
    cases holds
  rcases List.exists_cons_of_ne_nil left with ⟨next, later, dropped⟩
  refine ⟨next, later, dropped, fun more => ?_⟩
  rw [List.dropWhile_append, dropped]
  rfl

/-! ## What is found does not depend on later lines -/

theorem upToNewline_append_of_mem (ended : '\n' ∈ line) (more : List Char) :
    upToNewline (line ++ more) = upToNewline line :=
  takeWhile_append_of_mem ended (by decide) more

theorem word_append_of_mem (ended : '\n' ∈ line) (more : List Char) :
    word grammar isDigit (line ++ more) = word grammar isDigit line := by
  have stops : isNameChar '\n' = false := by decide
  rcases exists_dropWhile_append ended stops with
    ⟨next, later, dropped, longer⟩
  simp only [word, takeWhile_append_of_mem ended stops, dropped, longer]

theorem run_append_of_mem (ended : '\n' ∈ line) (more : List Char) :
    run grammar (line ++ more) = run grammar line := by
  simp only [run]
  rw [takeWhile_append_of_mem ended (by simp [Text.isBlank_newline])]

theorem quotedBody?_append_of_mem (ended : '\n' ∈ line) (more : List Char) :
    quotedBody? (line ++ more) = quotedBody? line := by
  fun_induction quotedBody? line with
  | case1 => cases ended
  | case2 => rfl
  | case3 => rfl
  | case4 rest => simp [quotedBody?]
  | case5 letter rest inLine ih =>
      have later : '\n' ∈ rest := by
        simpa [Ne.symm inLine] using ended
      simp [quotedBody?, inLine, ih later]
  | case6 character rest noQuote noNewline noEscape ih =>
      have later : '\n' ∈ rest :=
        (List.mem_cons.1 ended).resolve_left fun same => noNewline same.symm
      rw [List.cons_append, quotedBody?, ih later]
      · exact noQuote
      · exact noNewline
      · rintro letter tail rfl same
        cases rest with
        | nil => cases later
        | cons next rest =>
            exact noEscape next rest rfl rfl

theorem string_append_of_mem (ended : '\n' ∈ line) (more : List Char) :
    string (line ++ more) = string line := by
  rw [string, quotedBody?_append_of_mem ended,
    upToNewline_append_of_mem ended, string]

theorem comment_append_of_mem (ended : '\n' ∈ line) (more : List Char) :
    comment (line ++ more) = comment line := by
  rw [comment, upToNewline_append_of_mem ended, comment]

theorem autoComment_append_of_mem {opening : List Char} (ended : '\n' ∈ line)
    (more : List Char) :
    autoComment opening (line ++ more) = autoComment opening line := by
  rw [autoComment, upToNewline_append_of_mem ended, autoComment]

/-- A token whose line has a newline does not depend on the lines behind it. -/
theorem token_append_of_mem {first : Char} (ended : '\n' ∈ line)
    (more : List Char) :
    token grammar first (line ++ more) = token grammar first line := by
  unfold token
  rw [string_append_of_mem ended, comment_append_of_mem ended]
  have words : word grammar Char.isDigit (first :: (line ++ more)) =
      word grammar Char.isDigit (first :: line) :=
    word_append_of_mem (List.mem_cons_of_mem first ended) more
  have runs : run grammar (first :: (line ++ more)) =
      run grammar (first :: line) :=
    run_append_of_mem (List.mem_cons_of_mem first ended) more
  cases line with
  | nil => cases ended
  | cons second later =>
      split
      · rfl
      split
      · rfl
      split
      · rfl
      split
      · by_cases sign : second = '@'
        · subst sign
          exact autoComment_append_of_mem (by simpa using ended) more
        · simp [sign]
      split
      · rfl
      split
      · exact runs
      · by_cases octal : first = '0' ∧ second = 'o'
        · simp [octal]
        by_cases hexadecimal : first = '0' ∧ second = 'x'
        · simp [hexadecimal]
        · simp only [not_and] at octal hexadecimal
          rw [words]
          split
          · simp_all
          · simp_all
          · simp_all

/-! ## What is found is on the line -/

theorem newline_not_mem_takeWhile (stops : test '\n' = false)
    (text : List Char) : '\n' ∉ text.takeWhile test := by
  intro member
  have holds := List.mem_takeWhile_imp member
  rw [stops] at holds
  cases holds

theorem newline_not_mem_quotedBody {text body : List Char}
    (found : quotedBody? text = some body) : '\n' ∉ body := by
  fun_induction quotedBody? text generalizing body with
  | case1 => cases found
  | case2 =>
      cases found
      simp
  | case3 => cases found
  | case4 => cases found
  | case5 letter rest inLine ih =>
      rcases Option.map_eq_some_iff.1 found with ⟨later, foundLater, rfl⟩
      simpa [Ne.symm inLine] using ih foundLater
  | case6 character rest noQuote noNewline noEscape ih =>
      rcases Option.map_eq_some_iff.1 found with ⟨later, foundLater, rfl⟩
      have apart : character ≠ '\n' := noNewline
      simpa [Ne.symm apart] using ih foundLater

theorem newline_not_mem_word_span (text : List Char) :
    '\n' ∉ (word grammar isDigit text).span := by
  rw [word_span]
  exact newline_not_mem_takeWhile (by decide) text

theorem newline_not_mem_string_span (text : List Char) :
    '\n' ∉ (string text).span := by
  unfold string
  split
  · next body found =>
    simpa [Finding.span] using newline_not_mem_quotedBody found
  · simpa [Finding.span] using newline_not_mem_upToNewline text

theorem newline_not_mem_comment_span (text : List Char) :
    '\n' ∉ (comment text).span := by
  have inLine := newline_not_mem_upToNewline text
  unfold comment
  split
  · next body found =>
    rcases beforeAtSigns?_split found with ⟨later, split⟩
    rw [← split] at inLine
    simpa [Finding.span] using fun member =>
      inLine (List.mem_append_left _ (List.mem_append_left _ member))
  · simpa [Finding.span] using inLine

theorem newline_not_mem_autoComment_span {opening : List Char}
    (inLine : '\n' ∉ opening) (text : List Char) :
    '\n' ∉ (autoComment opening text).span := by
  simpa [autoComment, Finding.span, inLine] using
    newline_not_mem_upToNewline text

/-- A token that does not start with a gap stays on its line. -/
theorem newline_not_mem_token_span {first : Char}
    (apart : grammar.isGap first = false) (rest : List Char) :
    '\n' ∉ (token grammar first rest).span := by
  have alone : '\n' ∉ [first] := by
    simpa using Grammar.ne_newline_of_apart apart
  unfold token
  split
  · exact alone
  split
  · exact newline_not_mem_string_span rest
  split
  · exact newline_not_mem_comment_span rest
  split
  · split
    · exact newline_not_mem_autoComment_span (by decide) _
    · decide
  split
  · exact alone
  split
  · exact newline_not_mem_takeWhile (by simp [Text.isBlank_newline]) _
  split
  · decide
  · decide
  · exact newline_not_mem_word_span _

end Scan

end Whirlwind
