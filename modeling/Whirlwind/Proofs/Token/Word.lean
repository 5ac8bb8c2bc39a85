import Whirlwind.Proofs.Token.Finding
import Whirlwind.Token.Lexer.Weight

/-!
# Words behind radix marks

Right behind a radix mark a word is a number if its digits are, and else a name,
even if it starts with a radix mark itself.  Whatever mark is in force, a word
is a run of name characters: a number has hexadecimal digits, and a name has a
character that is no decimal digit (`Lexer.Reads.wordlike`).
-/

namespace Whirlwind

/-- A run of name characters that is no decimal number. -/
def IsWord (name : String) : Prop :=
  (∀ character ∈ name.toList, Scan.isNameChar character = true) ∧
    ∃ character ∈ name.toList, character.isDigit = false

/-- A word is read as a name where no radix mark starts it. -/
theorem isName_iff_isWord {name : String} :
    IsName name ↔ IsWord name ∧ Scan.startsRadix name.toList = false := by
  rw [IsName, IsWord, and_assoc]

namespace Lexeme

/-- The shape of a lexeme, whatever radix mark is in force. -/
def Wordlike (grammar : Grammar) : Lexeme → Prop
  | .identifier name => IsWord name
  | .digits text => IsNumber Scan.isHexDigit text
  | lexeme => lexeme.Shaped grammar

theorem Shaped.wordlike {grammar : Grammar} {lexeme : Lexeme}
    (shaped : lexeme.Shaped grammar) : lexeme.Wordlike grammar := by
  cases lexeme with
  | identifier => exact (isName_iff_isWord.1 shaped).1
  | digits =>
      refine ⟨shaped.1, fun character member => ?_⟩
      simp [Scan.isHexDigit, shaped.2 character member]
  | operator | string | comment | autoComment | tab | finish => exact shaped

end Lexeme

namespace Scan

/-- Hexadecimal digits are not a radix mark. -/
theorem startsRadix_of_hexDigits {run : List Char}
    (digits : ∀ character ∈ run, isHexDigit character = true) :
    startsRadix run = false := by
  unfold startsRadix
  split
  · exact absurd (digits 'o' (by simp)) (by decide)
  · exact absurd (digits 'x' (by simp)) (by decide)
  · rfl

/-- A word behind a radix mark, whose digits include the decimal ones. -/
theorem wordlike_word {grammar : Grammar} {isDigit : Char → Bool}
    {text : List Char} {lexeme : Lexeme} {span : List Char} {onward : Mode}
    (decimal : ∀ character : Char, character.isDigit = true →
      isDigit character = true)
    (hexadecimal : ∀ character, isDigit character = true →
      isHexDigit character = true)
    (visible : text.takeWhile isNameChar ≠ [])
    (found : word grammar isDigit text = .lexeme lexeme span onward) :
    lexeme.Wordlike grammar := by
  rcases word_found found with ⟨rfl, rfl⟩
  unfold wordLexeme
  split
  · next digits =>
    refine ⟨by simpa using visible, fun character member => ?_⟩
    rw [String.toList_ofList] at member
    exact hexadecimal _ (List.all_eq_true.1 digits _ member)
  · next mixed =>
    simp only [List.all_eq_true, not_forall, Bool.not_eq_true] at mixed
    rcases mixed with ⟨letter, member, other⟩
    refine ⟨fun character inside => ?_, letter, by simpa using member, ?_⟩
    · exact List.mem_takeWhile_imp (by simpa using inside)
    · cases digit : letter.isDigit with
      | false => rfl
      | true => simp [decimal _ digit] at other

end Scan

namespace Lexer

/-- Every token is a lexeme of a known shape, in whatever mode it is read. -/
theorem wordlike_next {lexer after : Lexer} {token : Token}
    (words : lexer.grammar.hasRuns = false)
    (read : lexer.next = .ok token after) :
    token.lexeme.Wordlike lexer.grammar := by
  have dueDigits : ∀ {isDigit : Char → Bool} {mode : Mode},
      mode = .octalDigits ∨ mode = .hexDigits →
      (∀ character : Char, character.isDigit = true →
        isDigit character = true) →
      (∀ character, isDigit character = true →
        Scan.isHexDigit character = true) →
      lexer.modeAt lexer.cursor.settle.ahead = mode →
      lexer.accept lexer.cursor.settle (Scan.word lexer.grammar isDigit
        lexer.cursor.settle.ahead) = .ok token after →
      token.lexeme.Wordlike lexer.grammar := by
    intro isDigit mode due decimal hexadecimal inForce taken
    rcases open_ended_of_modeAt due inForce with ⟨first, rest, ahead, inside⟩
    rw [ahead] at taken
    have found := (accept_eq_ok taken).1
    exact Scan.wordlike_word decimal hexadecimal
      (Scan.word_visible inside found) found
  simp only [next] at read
  split at read
  · split at read
    · rcases EStateM.Result.ok.inj read with ⟨rfl, rfl⟩
      trivial
    · next ahead =>
      exact (Scan.shaped_token words (Cursor.test_head_skipWhile ahead)
        (accept_eq_ok read).1).1.wordlike
  · next inForce =>
    exact dueDigits (.inl rfl) (fun _ digit => digit)
      (fun _ digit => by simp [Scan.isHexDigit, digit]) inForce read
  · next inForce =>
    exact dueDigits (.inr rfl) (fun _ digit => by
      simp [Scan.isHexDigit, digit]) (fun _ digit => digit) inForce read
  · exact (Scan.shaped_autoComment (accept_eq_ok read).1).1.wordlike

theorem Reads.wordlike {lexer after : Lexer} {lexemes : List Lexeme}
    (reads : lexer.Reads lexemes after)
    (words : lexer.grammar.hasRuns = false) :
    ∀ lexeme ∈ lexemes, lexeme.Wordlike lexer.grammar := by
  induction reads with
  | done => exact fun _ member => nomatch member
  | read first _ ih =>
      have same := grammar_next first
      have later := ih (by rwa [same])
      intro lexeme member
      rcases List.mem_cons.1 member with rfl | behind
      · exact wordlike_next words first
      · exact same ▸ later lexeme behind

end Lexer

namespace TokenStream

variable {start rest : TokenStream} {consumed : List Lexeme}

/-- Without radix marks lexemes of the known shapes are consumed. -/
theorem Idle.shaped (idle : start.Idle)
    (words : start.lexer.grammar.hasRuns = false)
    (mode : start.lexer.mode = .start) (passed : start.Passes consumed rest)
    (plain : ∀ lexeme ∈ consumed, lexeme.isRadix = false) :
    ∀ lexeme ∈ consumed, lexeme.Shaped start.lexer.grammar := by
  rcases idle.exists_reads passed with ⟨between, reads⟩
  exact reads.shaped words (Or.inl mode) plain

theorem Idle.wordlike (idle : start.Idle)
    (words : start.lexer.grammar.hasRuns = false)
    (passed : start.Passes consumed rest) :
    ∀ lexeme ∈ consumed, lexeme.Wordlike start.lexer.grammar := by
  rcases idle.exists_reads passed with ⟨between, reads⟩
  exact reads.wordlike words

end TokenStream

end Whirlwind
