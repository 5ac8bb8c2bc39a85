import Whirlwind.Proofs.Source.Facing
import Whirlwind.Proofs.Token.Passage

/-!
# The common alphabet

The notations that have words differ in what a tab, a semicolon and a handful
of operators are.  Any other character is to all of them the same, wherever a
scan asks about it.  So a lexer whose text has no other characters reads on
alike in each of these notations: call by call, whatever mode it is in, with
the same tokens, the same places and the same errors (`next_inGrammar`).
-/

namespace Whirlwind

namespace Grammar

/-- The characters that are not the same to all notations that have words. -/
def ownCharacters : List Char :=
  ['\t', ':', ';', '=', '{', '}', '[', ']', '^', '<', '>']

/-- All characters of a text are the same to the notations that have words. -/
def Shares (text : List Char) : Prop :=
  ∀ character ∈ text, character ∉ ownCharacters

instance (text : List Char) : Decidable (Shares text) :=
  decidable_of_iff (text.all fun character => !ownCharacters.contains character)
    (by simp [Shares])

theorem Shares.of_subset {text part : List Char} (shares : Shares text)
    (inside : part ⊆ text) : Shares part :=
  fun character member => shares character (inside member)

/-! ## What the scans ask about a character -/

section

variable {one other : Grammar} {character : Char}

theorem hasAtSign_of_words (words : one.hasRuns = false) :
    one.hasAtSign = true := by
  cases one with
  | assembly | tape | expression => rfl
  | debugger => cases words

/-- Notations that have words agree on which other characters are operators. -/
theorem isMark_of_shared (words : one.hasRuns = false)
    (otherWords : other.hasRuns = false) (shared : character ∉ ownCharacters) :
    other.isMark character = one.isMark character := by
  have agrees : ∀ grammar : Grammar, grammar.hasRuns = false →
      grammar.isMark character =
        ['+', '-', '.', ',', '*', '/', '|', '&', '(', ')'].contains
          character := by
    intro grammar words
    simp only [ownCharacters, List.mem_cons, List.not_mem_nil, or_false,
      not_or] at shared
    cases grammar with
    | assembly | tape => simp [isMark, marks, shared]
    | expression =>
        simp [isMark, marks, shared, Bool.or_assoc, Bool.or_comm,
          Bool.or_left_comm]
    | debugger => cases words
  rw [agrees one words, agrees other otherWords]

theorem isGap_of_shared (shared : character ∉ ownCharacters) :
    one.isGap character = Text.isBlank character := by
  have noTab : character ≠ '\t' :=
    fun same => shared (same ▸ by decide)
  simp [isGap, noTab]

theorem isTerminator_of_shared (words : one.hasRuns = false)
    (otherWords : other.hasRuns = false) (shared : character ∉ ownCharacters) :
    other.isTerminator character = one.isTerminator character := by
  have noSemicolon : character ≠ ';' :=
    fun same => shared (same ▸ by decide)
  simp [isTerminator, noSemicolon, hasAtSign_of_words words,
    hasAtSign_of_words otherWords, isMark_of_shared words otherWords shared]

end

end Grammar

/-! ## The scans -/

namespace Scan

open Grammar

variable {one other : Grammar} {first : Char} {rest text : List Char}

theorem word_of_shared (words : one.hasRuns = false)
    (otherWords : other.hasRuns = false) (isDigit : Char → Bool)
    (shares : Shares text) :
    word other isDigit text = word one isDigit text := by
  unfold word
  cases behind : text.dropWhile isNameChar with
  | nil => rfl
  | cons next later =>
      have inside : next ∈ text :=
        (List.dropWhile_sublist isNameChar).subset (by simp [behind])
      simp only [isTerminator_of_shared words otherWords (shares next inside)]

/-- What stands at the front of a text with shared characters only. -/
theorem token_of_shared (words : one.hasRuns = false)
    (otherWords : other.hasRuns = false) (shares : Shares (first :: rest)) :
    token other first rest = token one first rest := by
  have shared := shares first List.mem_cons_self
  have noTab : first ≠ '\t' := fun same => shared (same ▸ by decide)
  have noSemicolon : first ≠ ';' := fun same => shared (same ▸ by decide)
  simp only [token, noTab, noSemicolon, decide_false, Bool.and_false, words,
    otherWords, hasAtSign_of_words words, hasAtSign_of_words otherWords,
    isMark_of_shared words otherWords shared,
    word_of_shared words otherWords Char.isDigit shares, Bool.false_eq_true,
    if_false]

end Scan

namespace Cursor

theorem remaining_skip_suffix (cursor : Cursor) (span : List Char) :
    (cursor.skip span).remaining <:+ cursor.remaining := by
  rcases List.drop_suffix span.length cursor.ahead with ⟨front, split⟩
  exact ⟨front, by simp [remaining, ← List.append_assoc, split]⟩

theorem remaining_skipWhile_suffix (test : Char → Bool) (cursor : Cursor) :
    (cursor.skipWhile test).remaining <:+ cursor.remaining := by
  fun_induction skipWhile test cursor with
  | case1 cursor here _ _ _ _ ih =>
      rw [settle_remaining] at ih
      exact ih.trans (remaining_skip_suffix cursor _)
  | case2 cursor here => exact remaining_skip_suffix cursor _

theorem takeWhile_congr {test again : Char → Bool} {text : List Char}
    (agree : ∀ character ∈ text, again character = test character) :
    text.takeWhile again = text.takeWhile test := by
  induction text with
  | nil => rfl
  | cons first rest ih =>
      rw [List.forall_mem_cons] at agree
      rw [List.takeWhile_cons, List.takeWhile_cons, agree.1, ih agree.2]

/-- Two tests that agree on what remains skip the same characters. -/
theorem skipWhile_congr {test again : Char → Bool} (cursor : Cursor)
    (agree : ∀ character ∈ cursor.remaining,
      again character = test character) :
    cursor.skipWhile again = cursor.skipWhile test := by
  have same : ∀ cursor : Cursor, (∀ character ∈ cursor.remaining,
      again character = test character) →
      cursor.skip (cursor.ahead.takeWhile again) =
        cursor.skip (cursor.ahead.takeWhile test) := by
    intro cursor agree
    rw [takeWhile_congr fun character member =>
      agree character (List.mem_append_left _ member)]
  fun_induction skipWhile test cursor with
  | case1 cursor here next rest ended more ih =>
      have later : ∀ character ∈ here.settle.remaining,
          again character = test character := by
        intro character member
        rw [settle_remaining] at member
        exact agree character ((remaining_skip_suffix cursor _).subset member)
      rw [skipWhile, same cursor agree]
      split
      · exact ih later
      · next stays => exact absurd more (stays _ _ ended)
  | case2 cursor here stays =>
      rw [skipWhile, same cursor agree]
      split
      · next ended more => exact absurd more (stays _ _ ended)
      · rfl

end Cursor

/-! ## Reading on in another notation -/

namespace Lexer

open Grammar

/-- The same lexer, which reads on in another notation. -/
def inGrammar (lexer : Lexer) (other : Grammar) : Lexer :=
  { lexer with grammar := other }

@[simp]
theorem inGrammar_cursor (lexer : Lexer) (other : Grammar) :
    (lexer.inGrammar other).cursor = lexer.cursor :=
  rfl

@[simp]
theorem inGrammar_grammar (lexer : Lexer) (other : Grammar) :
    (lexer.inGrammar other).grammar = other :=
  rfl

/-- A result whose lexer reads on in another notation. -/
def readOnIn (other : Grammar) :
    EStateM.Result SyntaxError Lexer Token →
      EStateM.Result SyntaxError Lexer Token
  | .ok token after => .ok token (after.inGrammar other)
  | .error error after => .error error (after.inGrammar other)

/-- Whatever a call answers, the lexer that it leaves has a property. -/
def Leaves (property : Lexer → Prop) :
    EStateM.Result SyntaxError Lexer Token → Prop
  | .ok _ after | .error _ after => property after

/-- A notation that has words, and no text that it reads in a way of its own. -/
structure Neutral (lexer : Lexer) : Prop where
  words : lexer.grammar.hasRuns = false
  shares : Shares lexer.cursor.remaining

variable {lexer : Lexer} {other : Grammar}

theorem neutral_ofText {text : String} {grammar : Grammar}
    (words : grammar.hasRuns = false) (shares : Shares text.toList)
    (firstLine : Nat) : (ofText text firstLine grammar).Neutral :=
  ⟨words, (Cursor.faces_ofText text firstLine).remaining.symm ▸ shares⟩

theorem Neutral.shares_ahead (neutral : lexer.Neutral) {cursor : Cursor}
    (inside : cursor.remaining <:+ lexer.cursor.remaining) :
    Shares cursor.ahead :=
  neutral.shares.of_subset
    (List.Subset.trans (List.subset_append_left _ _) inside.subset)

theorem settle_suffix (lexer : Lexer) :
    lexer.cursor.settle.remaining <:+ lexer.cursor.remaining :=
  (Cursor.settle_remaining _).symm ▸ List.suffix_rfl

theorem skipGap_suffix (lexer : Lexer) :
    (lexer.cursor.settle.skipWhile lexer.grammar.isGap).remaining <:+
      lexer.cursor.remaining :=
  (Cursor.remaining_skipWhile_suffix _ _).trans lexer.settle_suffix

theorem accept_inGrammar (cursor : Cursor) (finding : Finding) :
    (lexer.inGrammar other).accept cursor finding =
      readOnIn other (lexer.accept cursor finding) := by
  cases finding <;> rfl

theorem Neutral.modeAt_inGrammar (neutral : lexer.Neutral)
    (otherWords : other.hasRuns = false) {ahead : List Char}
    (shares : Shares ahead) :
    (lexer.inGrammar other).modeAt ahead = lexer.modeAt ahead := by
  cases ahead with
  | nil => rfl
  | cons next rest =>
      have agrees := isTerminator_of_shared neutral.words otherWords
        (shares next List.mem_cons_self)
      simp only [modeAt, inGrammar, agrees]

/-- A call goes alike in another notation if no character tells them apart. -/
theorem Neutral.next_inGrammar (neutral : lexer.Neutral)
    (otherWords : other.hasRuns = false) :
    (lexer.inGrammar other).next = readOnIn other lexer.next := by
  have ahead := neutral.shares_ahead lexer.settle_suffix
  have gaps : lexer.cursor.settle.skipWhile other.isGap =
      lexer.cursor.settle.skipWhile lexer.grammar.isGap := by
    refine Cursor.skipWhile_congr _ fun character member => ?_
    have shared := neutral.shares character (lexer.settle_suffix.subset member)
    rw [isGap_of_shared shared, isGap_of_shared shared]
  simp only [next, inGrammar_cursor, inGrammar_grammar, gaps,
    neutral.modeAt_inGrammar otherWords ahead]
  split
  · split
    · rfl
    · next behind =>
      have shares := neutral.shares_ahead lexer.skipGap_suffix
      rw [Scan.token_of_shared neutral.words otherWords (behind ▸ shares),
        accept_inGrammar]
  · rw [Scan.word_of_shared neutral.words otherWords _ ahead,
      accept_inGrammar]
  · rw [Scan.word_of_shared neutral.words otherWords _ ahead,
      accept_inGrammar]
  · exact accept_inGrammar _ _

theorem Neutral.accept (neutral : lexer.Neutral) {cursor : Cursor}
    (inside : cursor.remaining <:+ lexer.cursor.remaining)
    (finding : Finding) : Leaves Neutral (lexer.accept cursor finding) := by
  have shares : Shares (cursor.skip finding.span).remaining :=
    neutral.shares.of_subset
      ((cursor.remaining_skip_suffix finding.span).trans inside).subset
  cases finding <;> exact ⟨neutral.words, shares⟩

/-- Whatever a call answers, there is still nothing that is read apart. -/
theorem Neutral.next (neutral : lexer.Neutral) :
    Leaves Neutral lexer.next := by
  unfold Lexer.next
  dsimp only
  split
  · split
    · exact ⟨neutral.words,
        neutral.shares.of_subset lexer.skipGap_suffix.subset⟩
    · exact neutral.accept lexer.skipGap_suffix _
  · exact neutral.accept lexer.settle_suffix _
  · exact neutral.accept lexer.settle_suffix _
  · exact neutral.accept lexer.settle_suffix _

/-! ## All calls -/

/-- What the next calls answer, as many of them as are made. -/
def answers : Nat → Lexer → List (Except SyntaxError Token)
  | 0, _ => []
  | count + 1, lexer =>
      match lexer.next with
      | .ok token after => .ok token :: answers count after
      | .error error after => .error error :: answers count after

theorem Neutral.answers_inGrammar (neutral : lexer.Neutral)
    (otherWords : other.hasRuns = false) (count : Nat) :
    (lexer.inGrammar other).answers count = lexer.answers count := by
  induction count generalizing lexer with
  | zero => rfl
  | succ count ih =>
      have onward := neutral.next
      rw [answers, answers, neutral.next_inGrammar otherWords]
      cases read : lexer.next with
      | ok token after =>
          rw [read] at onward
          exact congrArg (.ok token :: ·) (ih onward)
      | error error after =>
          rw [read] at onward
          exact congrArg (.error error :: ·) (ih onward)

theorem Neutral.tokens_inGrammar (neutral : lexer.Neutral)
    (otherWords : other.hasRuns = false) :
    (lexer.inGrammar other).tokens = lexer.tokens := by
  have again := neutral.next_inGrammar otherWords
  have onward := neutral.next
  fun_induction tokens lexer with
  | case1 lexer token after read finishes =>
      rw [read] at again
      exact tokens_of_finish again (by simpa [Token.isFinish] using finishes)
  | case2 lexer token after read goesOn ih =>
      rw [read] at again onward
      rw [tokens_of_ok again (by simpa [Token.isFinish] using goesOn),
        ih onward (onward.next_inGrammar otherWords) onward.next]
  | case3 lexer error after read =>
      rw [read] at again
      exact tokens_of_error again

end Lexer

end Whirlwind
