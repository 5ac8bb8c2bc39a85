import Whirlwind.Proofs.Token.Lexing
import Whirlwind.Proofs.Token.Written

/-!
# Lexemes one behind another

A text in which lexemes stand as they are written, with gaps around them
(`Spaced`), is read as these lexemes, and what stands behind the text is read
next (`Spaced.exists_gives`).  A gap has to be there only behind a name or a
number, if nothing else ends it.
-/

namespace Whirlwind

/--
Names, numbers, strings and operators stand in a text in their order, with gaps
around them.  Each of them ends where the text behind it says so.
-/
inductive Spaced (grammar : Grammar) : List Lexeme → List Char → Prop where
  | gap {gap : List Char} (gaps : grammar.Skips gap) : Spaced grammar [] gap
  | name {name : String} {lexemes : List Lexeme} {gap rest : List Char}
      (gaps : grammar.Skips gap) (shape : IsName name)
      (closes : grammar.Closes rest) (later : Spaced grammar lexemes rest) :
      Spaced grammar (.identifier name :: lexemes)
        (gap ++ (name.toList ++ rest))
  | number {digits : String} {lexemes : List Lexeme} {gap rest : List Char}
      (gaps : grammar.Skips gap) (shape : IsNumber Char.isDigit digits)
      (closes : grammar.Closes rest) (later : Spaced grammar lexemes rest) :
      Spaced grammar (.digits digits :: lexemes)
        (gap ++ (digits.toList ++ rest))
  | string {text : String} {lexemes : List Lexeme}
      {gap body rest : List Char} (gaps : grammar.Skips gap)
      (decodes : Text.Decodes body text.toList)
      (later : Spaced grammar lexemes rest) :
      Spaced grammar (.string text :: lexemes)
        (gap ++ '"' :: (body ++ '"' :: rest))
  | mark {character : Char} {lexemes : List Lexeme} {gap rest : List Char}
      (gaps : grammar.Skips gap) (marked : grammar.isMark character = true)
      (later : Spaced grammar lexemes rest) :
      Spaced grammar (.mark character :: lexemes) (gap ++ character :: rest)
  | atSign {lexemes : List Lexeme} {gap rest : List Char}
      (gaps : grammar.Skips gap) (signs : grammar.hasAtSign = true)
      (single : rest.head? ≠ some '@') (later : Spaced grammar lexemes rest) :
      Spaced grammar (.mark '@' :: lexemes) (gap ++ '@' :: rest)

namespace Scan

variable {body text : List Char}

/-- What stands for a text is found up to the quote behind it. -/
theorem quotedBody?_of_decodes (decodes : Text.Decodes body text)
    (line : List Char) : quotedBody? (body ++ '"' :: line) = some body := by
  induction decodes with
  | done => rfl
  | plain apart _ ih =>
      simp only [List.mem_cons, List.not_mem_nil, or_false, not_or] at apart
      simp [quotedBody?, apart, ih]
  | @escape letter _ _ _ known _ ih =>
      have inLine : letter ≠ '\n' := by
        rintro rfl
        simp [Text.escapes] at known
      simp [quotedBody?, inLine, ih]
  | kept _ inLine _ ih => simp [quotedBody?, inLine, ih]

theorem unescape_of_decodes (decodes : Text.Decodes body text) :
    unescape body = text := by
  induction decodes with
  | done => rfl
  | plain apart _ ih =>
      simp only [List.mem_cons, List.not_mem_nil, or_false, not_or] at apart
      rw [unescape, ih]
      exact fun _ _ same _ => apart.2.1 same
  | escape known _ ih => rw [unescape, escape?_eq_some_iff.2 known, ih]
  | @kept letter _ _ unknown _ _ ih =>
      have meaningless : escape? letter = none :=
        Option.eq_none_iff_forall_ne_some.2 fun character found =>
          unknown character (escape?_eq_some_iff.1 found)
      rw [unescape, meaningless, ih]

end Scan

namespace Lexer

variable {grammar : Grammar} {gap body rest : List Char} {text : String}

/-- What stands for a text is read as that text between quotes. -/
theorem gives_decoded (gaps : grammar.Skips gap)
    (decodes : Text.Decodes body text.toList) :
    Gives grammar .start (gap ++ '"' :: (body ++ '"' :: rest)) [.string text]
      .start rest := by
  have quoted := Scan.quotedBody?_of_decodes decodes
  have inLine := Scan.newline_not_mem_quotedBody (quoted [])
  have gives : Gives grammar .start _ _ .start rest :=
    gives_string gaps inLine quoted
  rwa [Scan.unescape_of_decodes decodes, String.ofList_toList] at gives

end Lexer

open Lexer

/-- Lexemes are read from where they stand, up to a gap behind them. -/
theorem Spaced.exists_gives {grammar : Grammar} {lexemes : List Lexeme}
    {text more : List Char} (spaced : Spaced grammar lexemes text)
    (words : grammar.hasRuns = false) (closes : grammar.Closes more)
    (single : more.head? ≠ some '@') :
    ∃ gap, grammar.Skips gap ∧
      Gives grammar .start (text ++ more) lexemes .start (gap ++ more) := by
  have closesMore : ∀ {rest : List Char}, grammar.Closes rest →
      grammar.Closes (rest ++ more) := by
    intro rest closesRest
    cases rest with
    | nil => exact closes
    | cons first rest => exact closesRest
  have singleMore : ∀ {rest : List Char}, rest.head? ≠ some '@' →
      (rest ++ more).head? ≠ some '@' := by
    intro rest singleRest
    cases rest with
    | nil => exact single
    | cons first rest => exact singleRest
  induction spaced with
  | gap gaps => exact ⟨_, gaps, .done⟩
  | name gaps shape closesRest _ ih =>
      rcases ih with ⟨other, gapsOther, gives⟩
      have first := gives_identifier words gaps shape (closesMore closesRest)
      exact ⟨other, gapsOther, by simpa using first.trans gives⟩
  | number gaps shape closesRest _ ih =>
      rcases ih with ⟨other, gapsOther, gives⟩
      have first := gives_digits words gaps shape (closesMore closesRest)
      exact ⟨other, gapsOther, by simpa using first.trans gives⟩
  | string gaps decodes _ ih =>
      rcases ih with ⟨other, gapsOther, gives⟩
      have first := (gives_decoded gaps decodes).trans gives
      exact ⟨other, gapsOther, by simpa using first⟩
  | mark gaps marked _ ih =>
      rcases ih with ⟨other, gapsOther, gives⟩
      have first := (gives_mark _ gaps marked).trans gives
      exact ⟨other, gapsOther, by simpa using first⟩
  | atSign gaps signs singleRest _ ih =>
      rcases ih with ⟨other, gapsOther, gives⟩
      have first := gives_atSign signs gaps (singleMore singleRest)
      exact ⟨other, gapsOther, by simpa using first.trans gives⟩

end Whirlwind
