import Whirlwind.Proofs.Token.LineEnd

/-!
# How lexemes are written

What stands in a text where a lexeme is read (`Lexeme.Occupies`), said without
the scans: an operator, a name, a number or a tab stands there as it is, a
string between quotes and with escapes, a comment behind its semicolon, and a
comment of a tool behind two at signs.  Both kinds of comment run to the end of
the line, unless two at signs split a comment before that (`Lexeme.SplitsAt`).
Every scan that finds a lexeme finds it written so (`Scan.occupies_token`).
-/

namespace Whirlwind

namespace Text

/-- The letters that stand for another character behind a backslash. -/
def escapes : List (Char × Char) :=
  [('n', '\n'), ('t', '\t'), ('b', '\x08'), ('"', '"'), ('\\', '\\')]

/--
What stands between the quotes of a string, and the text that it stands for.
A backslash in front of a letter without a meaning stands for itself.
-/
inductive Decodes : List Char → List Char → Prop where
  | done : Decodes [] []
  | plain {character : Char} {body text : List Char}
      (apart : character ∉ ['"', '\\', '\n']) (later : Decodes body text) :
      Decodes (character :: body) (character :: text)
  | escape {letter character : Char} {body text : List Char}
      (known : (letter, character) ∈ escapes) (later : Decodes body text) :
      Decodes ('\\' :: letter :: body) (character :: text)
  | kept {letter : Char} {body text : List Char}
      (unknown : ∀ character, (letter, character) ∉ escapes)
      (inLine : letter ≠ '\n') (later : Decodes body text) :
      Decodes ('\\' :: letter :: body) ('\\' :: letter :: text)

/-- A text that runs to the end of its line. -/
def RunsOut (body rest : List Char) : Prop :=
  '\n' ∉ body ∧ ∀ first ∈ rest.head?, first = '\n'

end Text

/-- How a lexeme is written in front of the rest of a text. -/
def Lexeme.Occupies (lexeme : Lexeme) (span rest : List Char) : Prop :=
  match lexeme with
  | .operator _ | .identifier _ | .digits _ | .tab => span = lexeme.text.toList
  | .string text =>
      ∃ body, span = '"' :: (body ++ ['"']) ∧ Text.Decodes body text.toList
  | .comment text =>
      ∃ body, span = ';' :: body ∧ ¬['@', '@'] <:+: body ∧
        Text.RunsOut body rest ∧ text.toList = Text.trimReturns body
  | .autoComment text =>
      ∃ body, span = '@' :: '@' :: body ∧ Text.RunsOut body rest ∧
        text.toList = Text.trimReturns body
  | .finish => False

/-- How a comment is written that is split by the first two at signs. -/
def Lexeme.SplitsAt (lexeme : Lexeme) (span : List Char) : Prop :=
  ∃ text, lexeme = .comment text ∧ span = ';' :: text.toList ∧
    '\n' ∉ text.toList ∧ ¬['@', '@'] <:+: text.toList ++ ['@']

namespace Scan

variable {grammar : Grammar} {isDigit : Char → Bool}
  {text body span rest : List Char} {lexeme : Lexeme} {next : Mode}

@[simp]
theorem escape?_eq_some_iff {letter character : Char} :
    escape? letter = some character ↔ (letter, character) ∈ Text.escapes := by
  unfold escape?
  split <;> simp_all [Text.escapes, eq_comm]

/-- A string is what its escapes stand for. -/
theorem decodes_quotedBody (found : quotedBody? text = some body) :
    Text.Decodes body (unescape body) := by
  fun_induction quotedBody? text generalizing body with
  | case1 => cases found
  | case2 =>
      cases found
      exact .done
  | case3 => cases found
  | case4 => cases found
  | case5 letter rest inLine ih =>
      rcases Option.map_eq_some_iff.1 found with ⟨later, foundLater, rfl⟩
      cases known : escape? letter with
      | some character =>
          rw [unescape, known]
          exact .escape (escape?_eq_some_iff.1 known) (ih foundLater)
      | none =>
          rw [unescape, known]
          refine .kept (fun character member => ?_) inLine (ih foundLater)
          rw [escape?_eq_some_iff.2 member] at known
          cases known
  | case6 character rest noQuote noNewline noEscape ih =>
      rcases Option.map_eq_some_iff.1 found with ⟨later, foundLater, rfl⟩
      have noBackslash : character ≠ '\\' := by
        rintro rfl
        cases rest with
        | nil => cases foundLater
        | cons letter rest => exact noEscape letter rest rfl rfl
      rw [unescape]
      · refine .plain ?_ (ih foundLater)
        simpa [noBackslash] using And.intro noQuote noNewline
      · exact fun _ _ same _ => noBackslash same

theorem runsOut_upToNewline (split : text = upToNewline text ++ rest) :
    Text.RunsOut (upToNewline text) rest := by
  refine ⟨newline_not_mem_upToNewline text, fun first starts => ?_⟩
  have behind : rest = text.dropWhile (· != '\n') := by
    refine List.append_cancel_left (split.symm.trans ?_)
    rw [upToNewline, List.takeWhile_append_dropWhile]
  have stops := List.head?_dropWhile_not (· != '\n') text
  rw [← behind, show rest.head? = some first from starts] at stops
  simpa using stops

theorem occupies_word
    (found : word grammar isDigit text = .lexeme lexeme span next) :
    lexeme.Occupies span rest ∧ next = .start := by
  have spans := congrArg Finding.span found
  rw [word_span] at spans
  rcases word_found found with ⟨rfl, rfl⟩
  refine ⟨?_, rfl⟩
  rw [← show _ = span from spans, wordLexeme]
  split
  · exact String.toList_ofList.symm
  · exact String.toList_ofList.symm

theorem occupies_run (found : run grammar text = .lexeme lexeme span next) :
    lexeme.Occupies span rest ∧ next = .start := by
  simp only [run] at found
  rcases Finding.lexeme.inj found with ⟨rfl, rfl, rfl⟩
  refine ⟨?_, rfl⟩
  split
  · exact String.toList_ofList.symm
  · exact String.toList_ofList.symm

theorem occupies_string (found : string text = .lexeme lexeme span next) :
    lexeme.Occupies span rest ∧ next = .start := by
  unfold string at found
  split at found
  · next body quoted =>
    rcases Finding.lexeme.inj found with ⟨rfl, rfl, rfl⟩
    refine ⟨⟨body, rfl, ?_⟩, rfl⟩
    rw [String.toList_ofList]
    exact decodes_quotedBody quoted
  · cases found

theorem occupies_comment (found : comment text = .lexeme lexeme span next)
    (split : ';' :: text = span ++ rest) :
    lexeme.Occupies span rest ∧ next = .start ∨
      ∃ front, span = front ++ ['@', '@'] ∧ lexeme.SplitsAt front ∧
        next = .autoComment := by
  unfold comment at found
  split at found
  · next body early =>
    rcases Finding.lexeme.inj found with ⟨rfl, rfl, rfl⟩
    refine Or.inr ⟨';' :: body, rfl, ⟨_, rfl, ?_⟩, rfl⟩
    rw [String.toList_ofList]
    refine ⟨rfl, fun member => ?_, beforeAtSigns?_first early⟩
    have start := (List.prefix_append body _).trans (beforeAtSigns?_split early)
    exact newline_not_mem_upToNewline text (start.subset member)
  · next alone =>
    rcases Finding.lexeme.inj found with ⟨rfl, rfl, rfl⟩
    refine Or.inl ⟨⟨_, rfl, beforeAtSigns?_eq_none_iff.1 alone, ?_,
      String.toList_ofList⟩, rfl⟩
    exact runsOut_upToNewline (List.cons.inj split).2

/-- Behind two at signs the rest of the line is a comment. -/
theorem occupies_autoComment {opening : List Char}
    (found : autoComment opening text = .lexeme lexeme span next)
    (split : opening ++ text = span ++ rest) :
    ∃ body written, span = opening ++ body ∧ lexeme = .autoComment written ∧
      lexeme.Occupies ('@' :: '@' :: body) rest ∧ next = .start := by
  rcases Finding.lexeme.inj found with ⟨rfl, rfl, rfl⟩
  rw [List.append_assoc] at split
  exact ⟨_, _, rfl, rfl,
    ⟨_, rfl, runsOut_upToNewline (List.append_cancel_left split),
      String.toList_ofList⟩, rfl⟩

/-- What a scan finds is written as its lexeme is, or is a split comment. -/
theorem occupies_token {first : Char}
    (found : token grammar first text = .lexeme lexeme span next)
    (split : first :: text = span ++ rest) :
    lexeme.Occupies span rest ∧ next ≠ .autoComment ∨
      ∃ front, span = front ++ ['@', '@'] ∧ lexeme.SplitsAt front ∧
        next = .autoComment := by
  have settled : lexeme.Occupies span rest ∧ next = .start →
      lexeme.Occupies span rest ∧ next ≠ .autoComment ∨
        ∃ front, span = front ++ ['@', '@'] ∧ lexeme.SplitsAt front ∧
          next = .autoComment := by
    rintro ⟨occupies, rfl⟩
    exact Or.inl ⟨occupies, nofun⟩
  have single : ∀ character, (Lexeme.operator (.mark character)).Occupies
      [character] rest := fun character => by
      simp [Lexeme.Occupies, Lexeme.text, Operator.symbol]
  unfold token at found
  split at found
  · next tab =>
    simp only [Bool.and_eq_true, decide_eq_true_eq] at tab
    rcases Finding.lexeme.inj found with ⟨rfl, rfl, rfl⟩
    exact settled ⟨by rw [tab.2]; rfl, rfl⟩
  split at found
  · exact settled (occupies_string found)
  split at found
  · next semicolon =>
    simp only [Bool.and_eq_true, decide_eq_true_eq] at semicolon
    rw [semicolon.2] at split
    exact (occupies_comment found split).imp_left fun whole =>
      ⟨whole.1, by rw [whole.2]; nofun⟩
  split at found
  · next sign =>
    simp only [Bool.and_eq_true, decide_eq_true_eq] at sign
    split at found
    · next later =>
      rw [sign.2] at split
      rcases occupies_autoComment found split with
        ⟨body, _, rfl, _, occupies, started⟩
      exact settled ⟨occupies, started⟩
    · rcases Finding.lexeme.inj found with ⟨rfl, rfl, rfl⟩
      exact settled ⟨single '@', rfl⟩
  split at found
  · rcases Finding.lexeme.inj found with ⟨rfl, rfl, rfl⟩
    exact settled ⟨single first, rfl⟩
  split at found
  · exact settled (occupies_run found)
  split at found
  · rcases Finding.lexeme.inj found with ⟨rfl, rfl, rfl⟩
    exact Or.inl ⟨rfl, nofun⟩
  · rcases Finding.lexeme.inj found with ⟨rfl, rfl, rfl⟩
    exact Or.inl ⟨rfl, nofun⟩
  · exact settled (occupies_word found)

end Scan

end Whirlwind
