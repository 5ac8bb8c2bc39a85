import Whirlwind.Proofs.Source.Standing
import Whirlwind.Proofs.Token.Written

/-!
# The tokens of a text

Which tokens a text has, and which error ends them early, can be said without a
cursor: between the text in front of a place and the text behind it, the mode
tells what is scanned there (`Finds`), and the scan tells how far reading has
come and what is in force then (`Lexes`).
-/

namespace Whirlwind

/-- A mode that lets a token or a gap start in front of a text. -/
def Mode.IsOver (grammar : Grammar) (mode : Mode) (text : List Char) : Prop :=
  mode = .start ∨ mode ≠ .autoComment ∧ grammar.Closes text

/-- What a mode finds behind a gap, in front of the text that is scanned. -/
inductive Finds (grammar : Grammar) :
    Mode → List Char → List Char → Finding → Prop where
  | token {mode : Mode} {gap rest : List Char} {first : Char}
      (fresh : mode.IsOver grammar (gap ++ first :: rest))
      (gaps : grammar.Skips gap) (apart : grammar.isGap first = false) :
      Finds grammar mode gap (first :: rest) (Scan.token grammar first rest)
  | octal {text : List Char} (due : ¬grammar.Closes text) :
      Finds grammar .octalDigits [] text
        (Scan.word grammar Char.isDigit text)
  | hexadecimal {text : List Char} (due : ¬grammar.Closes text) :
      Finds grammar .hexDigits [] text
        (Scan.word grammar Scan.isHexDigit text)
  | comment {text : List Char} :
      Finds grammar .autoComment [] text (Scan.autoComment [] text)

/-- The error of a finding between two texts, if it is one. -/
def Finding.error? (firstLine : Nat) (front text : List Char) :
    Finding → Option SyntaxError
  | .lexeme _ _ _ => none
  | .illegal span found =>
      some ⟨.illegalCharacter found, .behind firstLine (front ++ span),
        Text.lineAt front text⟩
  | .unterminated _ =>
      some ⟨.unterminatedString, .behind firstLine front,
        Text.lineAt front text⟩

/--
Between two texts, in a mode, the text behind has tokens and perhaps an error
that ends them early.
-/
inductive Lexes (grammar : Grammar) (firstLine : Nat) :
    Mode → List Char → List Char → List Token → Option SyntaxError →
      Prop where
  | finish {mode : Mode} {front gap : List Char}
      (fresh : mode.IsOver grammar gap) (gaps : grammar.Skips gap) :
      Lexes grammar firstLine mode front gap [] none
  | token {mode next : Mode} {front gap span rest : List Char}
      {lexeme : Lexeme} {tokens : List Token} {error : Option SyntaxError}
      (finds : Finds grammar mode gap (span ++ rest)
        (.lexeme lexeme span next))
      (later : Lexes grammar firstLine next (front ++ gap ++ span) rest
        tokens error) :
      Lexes grammar firstLine mode front (gap ++ (span ++ rest))
        (⟨lexeme, .behind firstLine (front ++ gap)⟩ :: tokens) error
  | error {mode : Mode} {front gap text : List Char} {finding : Finding}
      {error : SyntaxError}
      (finds : Finds grammar mode gap text finding)
      (fails : finding.error? firstLine (front ++ gap) text = some error) :
      Lexes grammar firstLine mode front (gap ++ text) [] (some error)

/-- In front of every text a mode finds something, or the end of the text. -/
theorem Finds.exists_or_isOver (grammar : Grammar) (mode : Mode)
    (text : List Char) :
    mode.IsOver grammar text ∧ grammar.Skips text ∨
      ∃ gap behind finding, text = gap ++ behind ∧
        Finds grammar mode gap behind finding := by
  by_cases fresh : mode.IsOver grammar text
  · have split := List.takeWhile_append_dropWhile (p := grammar.isGap)
      (l := text)
    have gaps : grammar.Skips (text.takeWhile grammar.isGap) :=
      fun _ member => List.mem_takeWhile_imp member
    cases behind : text.dropWhile grammar.isGap with
    | nil =>
        rw [behind, List.append_nil] at split
        exact Or.inl ⟨fresh, split ▸ gaps⟩
    | cons first rest =>
        have apart := List.head?_dropWhile_not grammar.isGap text
        rw [behind] at split apart
        rw [← split] at fresh
        exact Or.inr ⟨_, _, _, split.symm,
          .token fresh gaps (by simpa using apart)⟩
  · simp only [Mode.IsOver, not_or, not_and] at fresh
    refine Or.inr ⟨[], text, ?_⟩
    cases mode with
    | start => exact absurd rfl fresh.1
    | octalDigits => exact ⟨_, rfl, .octal (fresh.2 (by simp))⟩
    | hexDigits => exact ⟨_, rfl, .hexadecimal (fresh.2 (by simp))⟩
    | autoComment => exact ⟨_, rfl, .comment⟩

section

variable {grammar : Grammar} {mode next : Mode} {gap text span rest : List Char}
  {lexeme : Lexeme}

theorem Finds.skips {finding : Finding}
    (finds : Finds grammar mode gap text finding) : grammar.Skips gap := by
  cases finds with
  | token _ gaps => exact gaps
  | octal | hexadecimal | comment => exact grammar.skips_nil

/-- No scan finds the end of the text. -/
theorem Finds.ne_finish
    (finds : Finds grammar mode gap text (.lexeme lexeme span next)) :
    lexeme ≠ .finish := by
  rintro rfl
  generalize same : Finding.lexeme .finish span next = finding at finds
  cases finds with
  | token => exact Scan.token_ne_finish same.symm
  | octal | hexadecimal => exact Scan.word_ne_finish same.symm
  | comment => cases same

/-- What a mode finds is a start of the text that is scanned. -/
theorem Finds.start {finding : Finding}
    (finds : Finds grammar mode gap text finding) : finding.span <+: text := by
  cases finds with
  | token => exact Scan.token_span_isPrefixOf grammar _ _
  | octal | hexadecimal =>
      rw [Scan.word_span]
      exact List.takeWhile_prefix _
  | comment => exact Scan.upToNewline_isPrefixOf _

/-- Behind a gap a lexeme is found as it is written, or a comment is split. -/
theorem Finds.occupies
    (finds : Finds grammar mode gap (span ++ rest) (.lexeme lexeme span next))
    (apart : mode ≠ .autoComment) :
    lexeme.Occupies span rest ∧ next ≠ .autoComment ∨
      ∃ front, span = front ++ ['@', '@'] ∧ lexeme.SplitsAt front ∧
        next = .autoComment := by
  generalize split : span ++ rest = text at finds
  generalize same : Finding.lexeme lexeme span next = finding at finds
  cases finds with
  | token => exact Scan.occupies_token same.symm split.symm
  | octal | hexadecimal =>
      rcases Scan.occupies_word same.symm with ⟨occupies, rfl⟩
      exact Or.inl ⟨occupies, nofun⟩
  | comment => exact absurd rfl apart

/-- Behind the at signs of a split comment another comment is due. -/
theorem Finds.occupies_due
    (finds : Finds grammar .autoComment gap (span ++ rest)
      (.lexeme lexeme span next)) :
    gap = [] ∧ (∃ written, lexeme = .autoComment written ∧
      (Lexeme.autoComment written).Occupies ('@' :: '@' :: span) rest) ∧
      next ≠ .autoComment := by
  generalize split : span ++ rest = text at finds
  generalize same : Finding.lexeme lexeme span next = finding at finds
  generalize due : Mode.autoComment = mode at finds
  cases finds with
  | token fresh =>
      subst due
      simp [Mode.IsOver] at fresh
  | octal | hexadecimal => cases due
  | comment =>
      rcases Scan.occupies_autoComment same.symm split.symm with
        ⟨body, written, rfl, rfl, occupies, rfl⟩
      exact ⟨rfl, ⟨written, rfl, occupies⟩, nofun⟩

/-- A comment is due only behind at signs. -/
theorem Finds.signs
    (finds : Finds grammar mode gap (span ++ rest) (.lexeme lexeme span next))
    (due : next = .autoComment) : ∃ start, span = start ++ ['@'] := by
  by_cases again : mode = .autoComment
  · subst again
    exact absurd due finds.occupies_due.2.2
  · rcases finds.occupies again with ⟨_, settled⟩ | ⟨front, rfl, _⟩
    · exact absurd due settled
    · exact ⟨front ++ ['@'], by simp⟩

end

end Whirlwind
