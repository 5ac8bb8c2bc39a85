import Whirlwind.Proofs.Token.Automaton
import Whirlwind.Proofs.Token.Run
import Whirlwind.Proofs.Token.Standing

/-!
# The state machine takes the steps of the lexer

A machine that is in the middle of a token has a span behind it, which is still
on the line of a cursor in front of the token (`Cursor.HasLine`).  What it does
from there on (`Automaton.resume`) is told one character at a time: it reads
the character and goes on behind a longer span, it looks at it again in another
phase, or it is done.  By induction on the rest of the line it reads a number
or a name as the scan of a word does (`Automaton.resume_digits`,
`resume_identifier`), and answers as a lexer that accepts what the scan has
found (`Automaton.deliver`).
-/

namespace Whirlwind

namespace Cursor

/--
A cursor has a span ahead with more behind it, and with the span it does not
leave its line.
-/
structure HasLine (cursor : Cursor) (span more : List Char) : Prop where
  ahead : cursor.ahead = span ++ more
  inLine : '\n' ∉ span
  whole : '\n' ∈ more ∨ cursor.unread = []

variable {cursor : Cursor} {span more : List Char} {character : Char}

theorem skip_skip (cursor : Cursor) (span more : List Char) :
    (cursor.skip span).skip more = cursor.skip (span ++ more) := by
  simp [skip]

theorem HasLine.ahead_skip (line : cursor.HasLine span more) :
    (cursor.skip span).ahead = more := by
  simp [line.ahead]

/-- No line is taken as long as a cursor is on its line. -/
theorem HasLine.settle_skip (line : cursor.HasLine span more) :
    (cursor.skip span).settle = cursor.skip span := by
  rcases line.whole with ended | last
  · refine settle_of_ahead ?_
    rw [line.ahead_skip]
    exact List.ne_nil_of_mem ended
  · unfold settle
    split
    · next taken =>
      rw [skip_unread, last] at taken
      cases taken
    · rfl

theorem HasLine.read (line : cursor.HasLine span (character :: more))
    (other : character ≠ '\n') : cursor.HasLine (span ++ [character]) more where
  ahead := by simp [line.ahead]
  inLine := by simp [line.inLine, other.symm]
  whole := line.whole.imp_left fun ended =>
    (List.mem_cons.1 ended).resolve_left other.symm

end Cursor

namespace Automaton

/-- What comes of a turn. -/
def Turn.outcome : Turn → EStateM.Result SyntaxError Automaton Token
  | .onward machine draft => machine.run draft
  | .done result => result

theorem run_eq_outcome (machine : Automaton) (draft : Draft) :
    machine.run draft =
      (machine.settle.act draft machine.settle.cursor.ahead.head?).outcome := by
  rw [run]
  split <;> next turned => rw [turned, Turn.outcome]

/-- A machine goes on with a token behind a span that a cursor has ahead. -/
def resume (cursor : Cursor) (grammar : Grammar) (phase : Phase)
    (span text : List Char) : EStateM.Result SyntaxError Automaton Token :=
  (⟨cursor.skip span, grammar, phase⟩ : Automaton).run
    ⟨text, cursor.locationHere⟩

section

variable {cursor : Cursor} {grammar : Grammar} {phase onward : Phase}
  {span more text read : List Char} {character : Char}

theorem resume_eq (line : cursor.HasLine span more) :
    resume cursor grammar phase span text =
      ((⟨cursor.skip span, grammar, phase⟩ : Automaton).act
        ⟨text, cursor.locationHere⟩ more.head?).outcome := by
  rw [resume, run_eq_outcome]
  simp only [settle, line.settle_skip, line.ahead_skip]

theorem advance_skip (line : cursor.HasLine span (character :: more)) :
    (⟨cursor.skip span, grammar, phase⟩ : Automaton).advance =
      ⟨cursor.skip (span ++ [character]), grammar, phase⟩ := by
  rw [advance_eq line.ahead_skip, Cursor.skip_skip]

/-- A character that belongs to the token is read. -/
theorem resume_of_reads (line : cursor.HasLine span (character :: more))
    (acts : (⟨cursor.skip span, grammar, phase⟩ : Automaton).act
        ⟨text, cursor.locationHere⟩ (some character) =
      (⟨cursor.skip span, grammar, phase⟩ : Automaton).advance.goOn onward
        ⟨read, cursor.locationHere⟩) :
    resume cursor grammar phase span text =
      resume cursor grammar onward (span ++ [character]) read := by
  rw [resume_eq line, List.head?_cons, acts, advance_skip line]
  rfl

/-- The last character of a token is read. -/
theorem resume_of_ends {lexeme : Lexeme} {location : Location}
    (line : cursor.HasLine span (character :: more))
    (acts : (⟨cursor.skip span, grammar, phase⟩ : Automaton).act
        ⟨text, cursor.locationHere⟩ (some character) =
      (⟨cursor.skip span, grammar, phase⟩ : Automaton).advance.emitThen lexeme
        location onward) :
    resume cursor grammar phase span text =
      .ok ⟨lexeme, location⟩
        ⟨cursor.skip (span ++ [character]), grammar, onward⟩ := by
  rw [resume_eq line, List.head?_cons, acts, advance_skip line]
  rfl

/-- In another phase the same character is looked at again. -/
theorem resume_of_stays (line : cursor.HasLine span more)
    (acts : (⟨cursor.skip span, grammar, phase⟩ : Automaton).act
        ⟨text, cursor.locationHere⟩ more.head? =
      (⟨cursor.skip span, grammar, phase⟩ : Automaton).goOn onward
        ⟨read, cursor.locationHere⟩) :
    resume cursor grammar phase span text =
      resume cursor grammar onward span read := by
  rw [resume_eq line, acts]
  rfl

end

end Automaton

/-! ## The modes of a lexer -/

/-- The phase that a mode of the lexer is. -/
def Mode.phase : Mode → Automaton.Phase
  | .start => .start
  | .octalDigits => .digits
  | .hexDigits => .hexDigits
  | .autoComment => .autoComment

namespace Automaton

/-- The machine that stands where a lexer stands. -/
def ofLexer (lexer : Lexer) : Automaton :=
  ⟨lexer.cursor, lexer.grammar, lexer.mode.phase⟩

/-- An answer of a lexer, as that of the machine that stands there. -/
def ofResult : EStateM.Result SyntaxError Lexer Token →
    EStateM.Result SyntaxError Automaton Token
  | .ok token lexer => .ok token (ofLexer lexer)
  | .error error lexer => .error error (ofLexer lexer)

/-- The answer of a machine that makes a finding in front of a cursor. -/
def deliver (cursor : Cursor) (grammar : Grammar) (finding : Finding) :
    EStateM.Result SyntaxError Automaton Token :=
  ofResult ((⟨cursor, grammar, .start⟩ : Lexer).accept cursor finding)

end Automaton

/-! ## Words -/

theorem Scan.word_of_illegal {grammar : Grammar} {isDigit : Char → Bool}
    {run rest : List Char} {first : Char}
    (named : ∀ character ∈ run, isNameChar character = true)
    (apart : isNameChar first = false)
    (inside : grammar.isTerminator first = false) :
    word grammar isDigit (run ++ first :: rest) = .illegal run first := by
  simp [word, List.takeWhile_append_of_pos named,
    List.dropWhile_append_of_pos named, apart, inside]

theorem ne_newline_of_isNameChar {character : Char}
    (letter : Scan.isNameChar character = true) : character ≠ '\n' := by
  rintro rfl
  cases letter

namespace Automaton

/-- The characters that count as digits in a phase. -/
inductive Counts : Phase → (Char → Bool) → Prop
  | decimal : Counts .digits Char.isDigit
  | hexadecimal : Counts .hexDigits Scan.isHexDigit

section

variable {cursor : Cursor} {grammar : Grammar} {phase : Phase}
  {isDigit : Char → Bool} {span more : List Char} {first : Char}

theorem Counts.act_eq (counts : Counts phase isDigit) (draft : Draft)
    (next : Option Char) :
    (⟨cursor, grammar, phase⟩ : Automaton).act draft next =
      (⟨cursor, grammar, phase⟩ : Automaton).actDigits draft isDigit next := by
  cases counts <;> rfl

theorem Counts.isNameChar (counts : Counts phase isDigit) {character : Char}
    (digit : isDigit character = true) : Scan.isNameChar character = true := by
  cases counts with
  | decimal => exact Scan.isNameChar_of_isDigit digit
  | hexadecimal => exact Scan.isNameChar_of_isHexDigit digit

/-- Where a word stops, a machine is done with it as a scan is. -/
theorem close_word (isDigit : Char → Bool)
    (named : ∀ character ∈ span, Scan.isNameChar character = true)
    (stops : more.head?.filter Scan.isNameChar = none) :
    ((⟨cursor.skip span, grammar, phase⟩ : Automaton).close
        ((⟨cursor.skip span, grammar, phase⟩ : Automaton).emit
          (Scan.wordLexeme isDigit span) cursor.locationHere)
        more.head?).outcome =
      deliver cursor grammar (Scan.word grammar isDigit (span ++ more)) := by
  cases more with
  | nil =>
      rw [Scan.word_append isDigit named grammar.closes_nil]
      rfl
  | cons next more =>
      have apart : Scan.isNameChar next = false := by simpa using stops
      simp only [List.head?_cons, close]
      split
      · next ends =>
        rw [Scan.word_append isDigit named (Grammar.closes_cons.2 ends)]
        rfl
      · next inside =>
        rw [Scan.word_of_illegal named apart (by simpa using inside)]
        rfl

/-- Behind a word with a character that is no digit a name is done. -/
theorem resume_identifier_stops (line : cursor.HasLine span more)
    (named : ∀ character ∈ span, Scan.isNameChar character = true)
    (mixed : span.all isDigit = false)
    (stops : more.head?.filter Scan.isNameChar = none) :
    resume cursor grammar .identifier span span =
      deliver cursor grammar (Scan.word grammar isDigit (span ++ more)) := by
  rw [← close_word isDigit named stops, resume_eq line, Scan.wordLexeme,
    mixed]
  simp only [act, actIdentifier, stops]
  rfl

/-- A word with a character that is no digit is a name. -/
theorem resume_identifier (line : cursor.HasLine span more)
    (named : ∀ character ∈ span, Scan.isNameChar character = true)
    (mixed : (span ++ more.takeWhile Scan.isNameChar).all isDigit = false) :
    resume cursor grammar .identifier span span =
      deliver cursor grammar (Scan.word grammar isDigit (span ++ more)) := by
  induction more generalizing span with
  | nil =>
      rw [List.takeWhile_nil, List.append_nil] at mixed
      exact resume_identifier_stops line named mixed rfl
  | cons next more ih =>
      cases letter : Scan.isNameChar next with
      | true =>
          have reads : resume cursor grammar .identifier span span =
              resume cursor grammar .identifier (span ++ [next])
                (span ++ [next]) := by
            refine resume_of_reads line ?_
            simp only [act, actIdentifier, Option.filter_some_pos letter]
            rfl
          have namedAll : ∀ character ∈ span ++ [next],
              Scan.isNameChar character = true :=
            List.forall_mem_append.2 ⟨named, by simpa using letter⟩
          rw [List.takeWhile_cons_of_pos letter, List.append_cons] at mixed
          rw [reads, ih (line.read (ne_newline_of_isNameChar letter)) namedAll
            mixed, ← List.append_cons]
      | false =>
          rw [List.takeWhile_cons_of_neg (by simp [letter]), List.append_nil]
            at mixed
          exact resume_identifier_stops line named mixed
            (Option.filter_some_neg letter)

/-- Where nothing can end a word, a machine fails whatever it would do. -/
theorem close_congr {machine : Automaton} (inside : ¬grammar.Closes more)
    (same : machine.grammar = grammar) (one other : Turn) :
    machine.close one more.head? = machine.close other more.head? := by
  cases more with
  | nil => exact absurd grammar.closes_nil inside
  | cons next more =>
      rw [Grammar.closes_cons, ← same] at inside
      simp only [close, List.head?_cons, if_neg inside]

/-- Behind digits a machine is done with a number, if there are any. -/
theorem resume_digits_stops (counts : Counts phase isDigit)
    (line : cursor.HasLine span more)
    (digits : ∀ character ∈ span, isDigit character = true)
    (due : span ≠ [] ∨ ¬grammar.Closes more)
    (stops : more.head?.filter Scan.isNameChar = none) :
    resume cursor grammar phase span span =
      deliver cursor grammar (Scan.word grammar isDigit (span ++ more)) := by
  have noDigit : more.head?.filter isDigit = none := by
    rw [Option.filter_eq_none_iff] at stops ⊢
    exact fun character there => mt counts.isNameChar (stops character there)
  have named : ∀ character ∈ span, Scan.isNameChar character = true :=
    fun character member => counts.isNameChar (digits character member)
  rw [← close_word isDigit named stops, resume_eq line, counts.act_eq,
    Scan.wordLexeme, if_pos (List.all_eq_true.2 digits)]
  simp only [actDigits, noDigit, stops]
  rcases due with visible | inside
  · rw [if_neg visible]
  · rw [close_congr inside rfl]

/-- Digits and what follows them are one word, unless there are none. -/
theorem resume_digits (counts : Counts phase isDigit)
    (line : cursor.HasLine span more)
    (digits : ∀ character ∈ span, isDigit character = true)
    (due : span ≠ [] ∨ ¬grammar.Closes more) :
    resume cursor grammar phase span span =
      deliver cursor grammar (Scan.word grammar isDigit (span ++ more)) := by
  -- While there are digits only; the first letter among them makes it a name.
  induction more generalizing span with
  | nil => exact resume_digits_stops counts line digits due rfl
  | cons next more ih =>
      cases letter : Scan.isNameChar next with
      | false =>
          exact resume_digits_stops counts line digits due
            (Option.filter_some_neg letter)
      | true =>
          have lineAfter := line.read (ne_newline_of_isNameChar letter)
          cases digit : isDigit next with
          | true =>
              have reads : resume cursor grammar phase span span =
                  resume cursor grammar phase (span ++ [next])
                    (span ++ [next]) := by
                refine resume_of_reads line ?_
                rw [counts.act_eq]
                simp only [actDigits, Option.filter_some_pos digit]
                rfl
              have digitsAll : ∀ character ∈ span ++ [next],
                  isDigit character = true :=
                List.forall_mem_append.2 ⟨digits, by simpa using digit⟩
              rw [reads, ih lineAfter digitsAll (Or.inl (by simp)),
                ← List.append_cons]
          | false =>
              have reads : resume cursor grammar phase span span =
                  resume cursor grammar .identifier (span ++ [next])
                    (span ++ [next]) := by
                refine resume_of_reads line ?_
                rw [counts.act_eq]
                simp only [actDigits, Option.filter_some_neg digit,
                  Option.filter_some_pos letter]
                rfl
              have named : ∀ character ∈ span ++ [next],
                  Scan.isNameChar character = true :=
                List.forall_mem_append.2 ⟨fun character member =>
                  counts.isNameChar (digits character member),
                  by simpa using letter⟩
              have mixed : (span ++ [next] ++ more.takeWhile
                  Scan.isNameChar).all isDigit = false := by
                simp [digit]
              rw [reads, resume_identifier lineAfter named mixed,
                ← List.append_cons]

/-- A word behind a leading zero that starts no radix mark. -/
theorem resume_zero (line : cursor.HasLine ['0'] more)
    (noOctal : more.head? ≠ some 'o') (noHexadecimal : more.head? ≠ some 'x') :
    resume cursor grammar .zero ['0'] ['0'] =
      deliver cursor grammar
        (Scan.word grammar Char.isDigit ('0' :: more)) := by
  have acts : resume cursor grammar .zero ['0'] ['0'] =
      ((⟨cursor.skip ['0'], grammar, .zero⟩ : Automaton).actZero
        ⟨['0'], cursor.locationHere⟩ more.head?).outcome := resume_eq line
  have named : ∀ character ∈ ['0'], Scan.isNameChar character = true :=
    List.forall_mem_singleton.2 rfl
  rw [acts, actZero, if_neg noOctal, if_neg noHexadecimal]
  split
  · exact resume_digits .decimal line (List.forall_mem_singleton.2 rfl)
      (Or.inl (List.cons_ne_nil _ _))
  next noDigit =>
  split
  · next letter =>
    cases more with
    | nil => cases letter
    | cons next more =>
        refine resume_identifier line named ?_
        simp_all
  · next apart =>
    have stops : more.head?.filter Scan.isNameChar = none := by
      rw [Option.filter_eq_none_iff]
      rintro character there
      simpa [there] using apart
    exact close_word Char.isDigit named stops

/-- Behind a leading zero a letter can make a radix mark. -/
theorem resume_octal (line : cursor.HasLine ['0'] ('o' :: more)) :
    resume cursor grammar .zero ['0'] ['0'] =
      deliver cursor grammar
        (.lexeme (.operator .octal) ['0', 'o'] .octalDigits) :=
  resume_of_ends line rfl

theorem resume_hexadecimal (line : cursor.HasLine ['0'] ('x' :: more)) :
    resume cursor grammar .zero ['0'] ['0'] =
      deliver cursor grammar
        (.lexeme (.operator .hexadecimal) ['0', 'x'] .hexDigits) :=
  resume_of_ends line rfl

theorem advance_here (line : cursor.HasLine [] (first :: more)) :
    (⟨cursor, grammar, .start⟩ : Automaton).advance =
      ⟨cursor.skip [first], grammar, .start⟩ :=
  advance_skip line

theorem startWord_zero (line : cursor.HasLine [] ('0' :: more)) :
    ((⟨cursor, grammar, .start⟩ : Automaton).startWord
        ⟨[], cursor.locationHere⟩ '0').outcome =
      resume cursor grammar .zero ['0'] ['0'] := by
  rw [startWord, if_pos rfl, advance_here line]
  rfl

/-- Where nothing else can start, a word does, if it is no radix mark. -/
theorem resume_startWord (line : cursor.HasLine [] (first :: more))
    (inside : grammar.isTerminator first = false)
    (noOctal : first = '0' → more.head? ≠ some 'o')
    (noHexadecimal : first = '0' → more.head? ≠ some 'x') :
    ((⟨cursor, grammar, .start⟩ : Automaton).startWord
        ⟨[], cursor.locationHere⟩ first).outcome =
      deliver cursor grammar
        (Scan.word grammar Char.isDigit (first :: more)) := by
  have other : first ≠ '\n' := by
    rintro rfl
    simp [Grammar.isTerminator, Text.isBlank_newline] at inside
  have lineAfter : cursor.HasLine [first] more := line.read other
  by_cases zero : first = '0'
  · subst zero
    rw [startWord_zero line]
    exact resume_zero lineAfter (noOctal rfl) (noHexadecimal rfl)
  rw [startWord, advance_here line, if_neg zero]
  split
  · next digit =>
    exact resume_digits .decimal lineAfter (by simpa using digit)
      (Or.inl (List.cons_ne_nil _ _))
  next noDigit =>
  split
  · next letter =>
    refine resume_identifier lineAfter ?_ ?_
    · simp [Scan.isNameChar_eq, letter]
    · simp [noDigit]
  · next noName =>
    have apart : Scan.isNameChar first = false := by
      simp [Scan.isNameChar_eq, noName, noDigit]
    have illegal : Scan.word grammar Char.isDigit (first :: more) =
        .illegal [] first :=
      Scan.word_of_illegal (List.forall_mem_nil _) apart inside
    rw [illegal]
    rfl

end

end Automaton

end Whirlwind
