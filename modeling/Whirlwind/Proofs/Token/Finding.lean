import Whirlwind.Proofs.Source.Facing
import Whirlwind.Proofs.Text.Trim
import Whirlwind.Proofs.Token.Passage
import Whirlwind.Proofs.Token.Shape

/-!
# What a lexer can find

A notation whose words are names and numbers has lexemes of few shapes.  Where
no radix mark is in force, a name can be read again as a name, a number has
decimal digits, and a comment stays on its line.  The lexeme also tells in which
mode reading goes on (`Lexeme.Leaves`), so a lexer that finds no radix marks
only ever finds lexemes of these shapes (`Lexer.Reads.shaped`).
-/

namespace Whirlwind

namespace Lexeme

/-- Whether a lexeme is a radix mark. -/
def isRadix : Lexeme → Bool
  | .operator .octal | .operator .hexadecimal => true
  | _ => false

/-- The shape of a lexeme that is found where no radix mark is in force. -/
def Shaped (grammar : Grammar) : Lexeme → Prop
  | .operator (.mark character) =>
      grammar.isMark character = true ∨ character = '@'
  | .identifier name => IsName name
  | .digits text => IsNumber Char.isDigit text
  | .comment text => '\n' ∉ text.toList ∧ ¬['@', '@'] <:+: text.toList
  | .autoComment text => '\n' ∉ text.toList
  | .operator _ | .string _ | .tab | .finish => True

/-- A lexeme leaves the lexer in a mode. -/
def Leaves : Lexeme → Mode → Prop
  | .operator .octal, onward => onward = .octalDigits
  | .operator .hexadecimal, onward => onward = .hexDigits
  | .comment _, onward => onward = .start ∨ onward = .autoComment
  | _, onward => onward = .start

end Lexeme

namespace Scan

theorem newline_not_mem_upToNewline (text : List Char) :
    '\n' ∉ upToNewline text := by
  intro member
  have other := List.mem_takeWhile_imp member
  exact absurd other (by decide)

theorem trimReturns_isPrefixOf (text : List Char) :
    Text.trimReturns text <+: text := by
  rcases Text.dropTrailing_append_dropped (· = '\r') text with
    ⟨dropped, same, _⟩
  exact ⟨dropped, same.symm⟩

/-- The first two at signs that stand together are where they are found. -/
theorem beforeAtSigns?_first {text body : List Char}
    (found : beforeAtSigns? text = some body) :
    ¬['@', '@'] <:+: body ++ ['@'] := by
  fun_induction beforeAtSigns? text generalizing body with
  | case1 => cases found
  | case2 =>
      cases found
      decide
  | case3 character rest apart ih =>
      rcases Option.map_eq_some_iff.1 found with ⟨later, foundLater, rfl⟩
      rw [List.cons_append, List.infix_cons_iff, not_or]
      constructor
      · intro start
        rcases List.cons_prefix_cons.1 start with ⟨rfl, behind⟩
        rcases beforeAtSigns?_split foundLater with ⟨last, rfl⟩
        cases later with
        | nil => exact apart _ rfl rfl
        | cons first later =>
            rcases List.cons_prefix_cons.1 behind with ⟨rfl, _⟩
            exact apart _ rfl rfl
      · exact ih foundLater

/-- No two at signs stand together in front of the first that do. -/
theorem beforeAtSigns?_alone {text body : List Char}
    (found : beforeAtSigns? text = some body) : ¬['@', '@'] <:+: body :=
  fun inside =>
    beforeAtSigns?_first found (inside.trans (List.prefix_append body _).isInfix)

/-- What is found of a word is all of it, and no mode is left in force. -/
theorem word_found {grammar : Grammar} {isDigit : Char → Bool}
    {text : List Char} {lexeme : Lexeme} {span : List Char} {onward : Mode}
    (found : word grammar isDigit text = .lexeme lexeme span onward) :
    lexeme = wordLexeme isDigit (text.takeWhile isNameChar) ∧
      onward = .start := by
  unfold word at found
  split at found
  · rcases Finding.lexeme.inj found with ⟨same, _, goesOn⟩
    exact ⟨same.symm, goesOn.symm⟩
  · split at found
    · rcases Finding.lexeme.inj found with ⟨same, _, goesOn⟩
      exact ⟨same.symm, goesOn.symm⟩
    · cases found

/-- A word of a notation is a number or else a name. -/
theorem shaped_word {grammar : Grammar} {text : List Char} {lexeme : Lexeme}
    {span : List Char} {onward : Mode}
    (visible : text.takeWhile isNameChar ≠ [])
    (plain : startsRadix (text.takeWhile isNameChar) = false)
    (found : word grammar Char.isDigit text = .lexeme lexeme span onward) :
    lexeme.Shaped grammar ∧ lexeme.Leaves onward := by
  rcases word_found found with ⟨rfl, rfl⟩
  unfold wordLexeme
  split
  · next digits =>
    refine ⟨⟨by simpa using visible, ?_⟩, rfl⟩
    simpa using digits
  · next mixed =>
    refine ⟨⟨?_, ?_, by simpa using plain⟩, rfl⟩
    · intro character member
      exact List.mem_takeWhile_imp (by simpa using member)
    · simpa using mixed

/-- A comment stays on its line and ends where two at signs stand. -/
theorem shaped_comment {grammar : Grammar} {rest : List Char} {lexeme : Lexeme}
    {span : List Char} {onward : Mode}
    (found : comment rest = .lexeme lexeme span onward) :
    lexeme.Shaped grammar ∧ lexeme.Leaves onward := by
  have inLine := newline_not_mem_upToNewline rest
  unfold comment at found
  split at found
  · next body split =>
    rcases Finding.lexeme.inj found with ⟨rfl, _, rfl⟩
    have start : body <+: upToNewline rest :=
      (List.prefix_append body _).trans (beforeAtSigns?_split split)
    refine ⟨⟨?_, ?_⟩, Or.inr rfl⟩
    · rw [String.toList_ofList]
      exact fun member => inLine (start.subset member)
    · rw [String.toList_ofList]
      exact beforeAtSigns?_alone split
  · next alone =>
    rcases Finding.lexeme.inj found with ⟨rfl, _, rfl⟩
    have start := trimReturns_isPrefixOf (upToNewline rest)
    refine ⟨⟨?_, ?_⟩, Or.inl rfl⟩
    · rw [String.toList_ofList]
      exact fun member => inLine (start.subset member)
    · rw [String.toList_ofList]
      exact fun inside =>
        beforeAtSigns?_eq_none_iff.1 alone (inside.trans start.isInfix)

theorem shaped_autoComment {grammar : Grammar} {opening rest : List Char}
    {lexeme : Lexeme} {span : List Char} {onward : Mode}
    (found : autoComment opening rest = .lexeme lexeme span onward) :
    lexeme.Shaped grammar ∧ lexeme.Leaves onward := by
  rcases Finding.lexeme.inj found with ⟨rfl, _, rfl⟩
  have start := trimReturns_isPrefixOf (upToNewline rest)
  refine ⟨?_, rfl⟩
  show '\n' ∉ (String.ofList _).toList
  rw [String.toList_ofList]
  exact fun member => newline_not_mem_upToNewline rest (start.subset member)

/-- Where a token starts that is no word, it is not the end of a word. -/
theorem isTerminator_of_apart {grammar : Grammar} {first : Char}
    (apart : grammar.isGap first = false)
    (noTab : ¬(grammar.hasTabs && decide (first = '\t')) = true)
    (noComment : ¬(grammar.hasComments && decide (first = ';')) = true)
    (noSign : ¬(grammar.hasAtSign && decide (first = '@')) = true)
    (noMark : ¬grammar.isMark first = true) :
    grammar.isTerminator first = false := by
  have visible : Text.isBlank first = false := by
    simpa [Grammar.isGap, noTab] using apart
  simpa [Grammar.isTerminator, visible, noMark] using
    And.intro (by simpa using noComment) (by simpa using noSign)

/-- A word that can stand where a token starts is not empty. -/
theorem word_visible {grammar : Grammar} {isDigit : Char → Bool}
    {first : Char} {rest : List Char} {lexeme : Lexeme} {span : List Char}
    {onward : Mode} (inside : grammar.isTerminator first = false)
    (found : word grammar isDigit (first :: rest) =
      .lexeme lexeme span onward) :
    (first :: rest).takeWhile isNameChar ≠ [] := by
  intro empty
  have spans := congrArg Finding.span found
  rw [word_span, empty] at spans
  have enough := room_le_word inside found
  rw [← show [] = span from spans] at enough
  cases onward <;> cases enough

/-- A word that is not scanned as a radix mark does not start with one. -/
theorem startsRadix_takeWhile {first : Char} {rest : List Char}
    (noOctal : ∀ tail, first = '0' → rest = 'o' :: tail → False)
    (noHexadecimal : ∀ tail, first = '0' → rest = 'x' :: tail → False) :
    startsRadix ((first :: rest).takeWhile isNameChar) = false := by
  unfold startsRadix
  split
  · next tail same =>
    rcases same ▸ List.takeWhile_prefix isNameChar with ⟨more, written⟩
    rcases List.cons.inj written with ⟨rfl, later⟩
    exact (noOctal _ rfl later.symm).elim
  · next tail same =>
    rcases same ▸ List.takeWhile_prefix isNameChar with ⟨more, written⟩
    rcases List.cons.inj written with ⟨rfl, later⟩
    exact (noHexadecimal _ rfl later.symm).elim
  · rfl

theorem word_ne_finish {grammar : Grammar} {isDigit : Char → Bool}
    {text span : List Char} {onward : Mode} :
    word grammar isDigit text ≠ .lexeme .finish span onward := by
  intro found
  simp only [word] at found
  split at found
  · split at found <;> cases found
  · split at found
    · split at found <;> cases found
    · cases found

theorem token_ne_finish {grammar : Grammar} {first : Char}
    {rest span : List Char} {onward : Mode} :
    token grammar first rest ≠ .lexeme .finish span onward := by
  intro found
  unfold token at found
  split at found
  · cases found
  split at found
  · unfold string at found
    split at found <;> cases found
  split at found
  · unfold comment at found
    split at found <;> cases found
  split at found
  · split at found <;> cases found
  split at found
  · cases found
  split at found
  · simp only [run] at found
    split at found <;> cases found
  split at found
  · cases found
  · cases found
  · exact word_ne_finish found

/-- Every token is of a known shape and leaves the lexer in a known mode. -/
theorem shaped_token {grammar : Grammar} {first : Char} {rest : List Char}
    {lexeme : Lexeme} {span : List Char} {onward : Mode}
    (words : grammar.hasRuns = false) (apart : grammar.isGap first = false)
    (found : token grammar first rest = .lexeme lexeme span onward) :
    lexeme.Shaped grammar ∧ lexeme.Leaves onward := by
  unfold token at found
  split at found
  · rcases Finding.lexeme.inj found with ⟨rfl, _, rfl⟩
    exact ⟨trivial, rfl⟩
  next noTab =>
  split at found
  · unfold string at found
    split at found
    · rcases Finding.lexeme.inj found with ⟨rfl, _, rfl⟩
      exact ⟨trivial, rfl⟩
    · cases found
  split at found
  · exact shaped_comment found
  next noComment =>
  split at found
  · split at found
    · exact shaped_autoComment found
    · rcases Finding.lexeme.inj found with ⟨rfl, _, rfl⟩
      exact ⟨Or.inr rfl, rfl⟩
  next noSign =>
  split at found
  · next marked =>
    rcases Finding.lexeme.inj found with ⟨rfl, _, rfl⟩
    exact ⟨Or.inl marked, rfl⟩
  next noMark =>
  rw [words, if_neg Bool.false_ne_true] at found
  split at found
  · rcases Finding.lexeme.inj found with ⟨rfl, _, rfl⟩
    exact ⟨trivial, rfl⟩
  · rcases Finding.lexeme.inj found with ⟨rfl, _, rfl⟩
    exact ⟨trivial, rfl⟩
  · next noOctal noHexadecimal =>
    have inside :=
      isTerminator_of_apart apart noTab noComment noSign noMark
    exact shaped_word (word_visible inside found)
      (startsRadix_takeWhile noOctal noHexadecimal) found

end Scan

/-- Behind a lexeme that is no radix mark none is in force. -/
theorem Lexeme.Leaves.settled {lexeme : Lexeme} {onward : Mode}
    (leaves : lexeme.Leaves onward) (plain : lexeme.isRadix = false) :
    onward = .start ∨ onward = .autoComment := by
  cases lexeme with
  | operator sign =>
      cases sign with
      | mark => exact Or.inl leaves
      | octal | hexadecimal => cases plain
  | comment => exact leaves
  | identifier | digits | string | autoComment | tab | finish =>
      exact Or.inl leaves

namespace Lexer

/-- What is accepted is a lexeme, whose span the cursor skips. -/
theorem accept_eq_ok {lexer after : Lexer} {cursor : Cursor} {token : Token}
    {finding : Finding} (accepted : lexer.accept cursor finding = .ok token after) :
    finding = .lexeme token.lexeme finding.span after.mode ∧
      after.grammar = lexer.grammar ∧ after.cursor = cursor.skip finding.span := by
  cases finding with
  | lexeme =>
      rcases EStateM.Result.ok.inj accepted with ⟨rfl, rfl⟩
      exact ⟨rfl, rfl, rfl⟩
  | illegal | unterminated => cases accepted

theorem grammar_next {lexer after : Lexer} {token : Token}
    (read : lexer.next = .ok token after) : after.grammar = lexer.grammar := by
  simp only [next] at read
  split at read
  · split at read
    · rcases EStateM.Result.ok.inj read with ⟨_, rfl⟩
      rfl
    · exact (accept_eq_ok read).2.1
  · exact (accept_eq_ok read).2.1
  · exact (accept_eq_ok read).2.1
  · exact (accept_eq_ok read).2.1

/-- Where no radix mark is in force, a token of a known shape is found. -/
theorem shaped_next {lexer after : Lexer} {token : Token}
    (words : lexer.grammar.hasRuns = false)
    (settled : lexer.mode = .start ∨ lexer.mode = .autoComment)
    (read : lexer.next = .ok token after) :
    token.lexeme.Shaped lexer.grammar ∧ token.lexeme.Leaves after.mode := by
  have inForce : lexer.modeAt lexer.cursor.settle.ahead = lexer.mode := by
    rcases settled with mode | mode <;> simp [modeAt, mode]
  simp only [next, inForce] at read
  rcases settled with mode | mode
  · simp only [mode] at read
    split at read
    · rcases EStateM.Result.ok.inj read with ⟨rfl, rfl⟩
      exact ⟨trivial, rfl⟩
    · next ahead =>
      exact Scan.shaped_token words (Cursor.test_head_skipWhile ahead)
        (accept_eq_ok read).1
  · simp only [mode] at read
    exact Scan.shaped_autoComment (accept_eq_ok read).1

/-- Without radix marks only lexemes of the known shapes are found. -/
theorem Reads.shaped {lexer after : Lexer} {lexemes : List Lexeme}
    (reads : lexer.Reads lexemes after)
    (words : lexer.grammar.hasRuns = false)
    (settled : lexer.mode = .start ∨ lexer.mode = .autoComment)
    (plain : ∀ lexeme ∈ lexemes, lexeme.isRadix = false) :
    ∀ lexeme ∈ lexemes, lexeme.Shaped lexer.grammar := by
  induction reads with
  | done => exact fun _ member => nomatch member
  | read first _ ih =>
      rcases shaped_next words settled first with ⟨shaped, leaves⟩
      have same := grammar_next first
      have later := ih (by rwa [same])
        (leaves.settled (plain _ List.mem_cons_self))
        fun lexeme member => plain lexeme (List.mem_cons_of_mem _ member)
      intro lexeme member
      rcases List.mem_cons.1 member with rfl | behind
      · exact shaped
      · exact same ▸ later lexeme behind

/-- The last lexeme that has been read tells the mode of the lexer. -/
theorem Reads.leaves {lexer after : Lexer} {lexemes : List Lexeme}
    {lexeme : Lexeme} (reads : lexer.Reads (lexemes ++ [lexeme]) after)
    (words : lexer.grammar.hasRuns = false)
    (settled : lexer.mode = .start ∨ lexer.mode = .autoComment)
    (plain : ∀ earlier ∈ lexemes, earlier.isRadix = false) :
    lexeme.Leaves after.mode := by
  induction lexemes generalizing lexer with
  | nil =>
      cases reads with
      | read first later =>
          cases later
          exact (shaped_next words settled first).2
  | cons earlier lexemes ih =>
      cases reads with
      | read first later =>
          have leaves := (shaped_next words settled first).2
          refine ih later ?_ (leaves.settled (plain _ List.mem_cons_self)) ?_
          · rwa [grammar_next first]
          · exact fun lexeme member =>
              plain lexeme (List.mem_cons_of_mem _ member)

/-- A lexer that has read a token stands in front of an end of its text. -/
theorem faces_next {lexer after : Lexer} {token : Token} {text : List Char}
    (faces : lexer.cursor.Faces text)
    (read : lexer.next = .ok token after) :
    ∃ rest, rest <:+ text ∧ after.cursor.Faces rest := by
  have accepted : ∀ {cursor : Cursor} {finding : Finding} {ahead : List Char},
      cursor.Faces ahead → ahead <:+ text → finding.span <+: cursor.ahead →
      lexer.accept cursor finding = .ok token after →
        ∃ rest, rest <:+ text ∧ after.cursor.Faces rest := by
    intro cursor finding ahead facesAhead behind start taken
    rcases start with ⟨line, written⟩
    rcases facesAhead.skip written.symm with ⟨rest, rfl, _, facesRest⟩
    rw [← (accept_eq_ok taken).2.2] at facesRest
    exact ⟨rest, (List.suffix_append _ rest).trans behind, facesRest⟩
  have settled := faces.settle
  have skipped := settled.skipWhile lexer.grammar.isGap
  have behind : text.dropWhile lexer.grammar.isGap <:+ text :=
    List.dropWhile_suffix _
  simp only [next] at read
  split at read
  · split at read
    · rcases EStateM.Result.ok.inj read with ⟨_, rfl⟩
      exact ⟨_, behind, skipped⟩
    · next ahead =>
      refine accepted skipped behind ?_ read
      rw [ahead]
      exact Scan.token_span_isPrefixOf _ _ _
  · refine accepted settled List.suffix_rfl ?_ read
    rw [Scan.word_span]
    exact List.takeWhile_prefix _
  · refine accepted settled List.suffix_rfl ?_ read
    rw [Scan.word_span]
    exact List.takeWhile_prefix _
  · refine accepted settled List.suffix_rfl ?_ read
    exact Scan.upToNewline_isPrefixOf _

theorem Reads.faces {lexer after : Lexer} {lexemes : List Lexeme}
    {text : List Char} (reads : lexer.Reads lexemes after)
    (faces : lexer.cursor.Faces text) :
    ∃ rest, rest <:+ text ∧ after.cursor.Faces rest := by
  induction reads generalizing text with
  | done => exact ⟨text, List.suffix_rfl, faces⟩
  | read first _ ih =>
      rcases faces_next faces first with ⟨rest, behind, facesRest⟩
      rcases ih facesRest with ⟨last, behindLast, facesLast⟩
      exact ⟨last, behindLast.trans behind, facesLast⟩

theorem Reads.grammar_eq {lexer after : Lexer} {lexemes : List Lexeme}
    (reads : lexer.Reads lexemes after) : after.grammar = lexer.grammar := by
  induction reads with
  | done => rfl
  | read first _ ih => exact ih.trans (grammar_next first)

/-- The finishing token is found where nothing is left, and stands there. -/
theorem eq_finish {lexer after : Lexer} {token : Token}
    (read : lexer.next = .ok token after) (finishes : token.lexeme = .finish) :
    token = ⟨.finish, after.cursor.locationHere⟩ ∧ after.mode = .start ∧
      after.cursor.ahead = [] ∧ after.cursor.unread = [] := by
  have scanned : ∀ {cursor : Cursor} {finding : Finding},
      (∀ span onward, finding ≠ .lexeme .finish span onward) →
      lexer.accept cursor finding = .ok token after → False := by
    intro cursor finding apart taken
    exact apart _ _ (finishes ▸ (accept_eq_ok taken).1)
  simp only [next] at read
  split at read
  · split at read
    · next ahead =>
      rcases EStateM.Result.ok.inj read with ⟨rfl, rfl⟩
      have settled := Cursor.settle_skipWhile lexer.grammar.isGap
        lexer.cursor.settle
      have unread := Cursor.unread_eq_nil_of_settle (settled.symm ▸ ahead)
      rw [settled] at unread
      exact ⟨rfl, rfl, ahead, unread⟩
    · exact (scanned (fun _ _ => Scan.token_ne_finish) read).elim
  · exact (scanned (fun _ _ => Scan.word_ne_finish) read).elim
  · exact (scanned (fun _ _ => Scan.word_ne_finish) read).elim
  · exact (scanned
      (fun _ _ found => Lexeme.noConfusion (Finding.lexeme.inj found).1)
      read).elim

/-- The finishing token is found only at the end of the text. -/
theorem ended_of_finish {lexer after : Lexer} {token : Token}
    (read : lexer.next = .ok token after) (finishes : token.lexeme = .finish) :
    after.mode = .start ∧ after.cursor.remaining = [] := by
  rcases eq_finish read finishes with ⟨-, mode, ahead, unread⟩
  refine ⟨mode, ?_⟩
  rw [Cursor.remaining, ahead, unread]
  rfl

/-- At the end of the text nothing but finishing tokens are found. -/
theorem next_of_ended {lexer after : Lexer} {token : Token}
    (mode : lexer.mode = .start) (ended : lexer.cursor.remaining = [])
    (read : lexer.next = .ok token after) : token.lexeme = .finish := by
  have nothing : (lexer.cursor.settle.skipWhile
      lexer.grammar.isGap).ahead = [] := by
    have shorter := lexer.cursor.settle.length_remaining_skipWhile_le
      lexer.grammar.isGap
    rw [Cursor.settle_remaining, ended, List.length_nil,
      Nat.le_zero, List.length_eq_zero_iff, Cursor.remaining] at shorter
    exact (List.append_eq_nil_iff.1 shorter).1
  have inForce : lexer.modeAt lexer.cursor.settle.ahead = .start := by
    simp [modeAt, mode]
  simp only [next, inForce, nothing] at read
  rcases EStateM.Result.ok.inj read with ⟨rfl, _⟩
  rfl

theorem Reads.finish_of_ended {lexer after : Lexer} {lexemes : List Lexeme}
    (reads : lexer.Reads lexemes after) (mode : lexer.mode = .start)
    (ended : lexer.cursor.remaining = []) :
    ∀ lexeme ∈ lexemes, lexeme = .finish := by
  induction reads with
  | done => exact fun _ member => nomatch member
  | read first _ ih =>
      have finishes := next_of_ended mode ended first
      rcases ended_of_finish first finishes with ⟨modeAfter, endedAfter⟩
      intro lexeme member
      rcases List.mem_cons.1 member with rfl | behind
      · exact finishes
      · exact ih modeAfter endedAfter lexeme behind

/-- Whatever is read is a token of the text, or lies behind its end. -/
theorem Reads.mem_tokens {lexer after : Lexer} {lexemes : List Lexeme}
    (reads : lexer.Reads lexemes after) :
    ∀ lexeme ∈ lexemes,
      lexeme = .finish ∨ ∃ token ∈ lexer.tokens.1, token.lexeme = lexeme := by
  induction reads with
  | done => exact fun _ member => nomatch member
  | @read lexer between after token lexemes first later ih =>
      intro lexeme member
      by_cases finishes : token.lexeme = .finish
      · rcases ended_of_finish first finishes with ⟨mode, ended⟩
        rcases List.mem_cons.1 member with rfl | behind
        · exact Or.inl finishes
        · exact Or.inl (later.finish_of_ended mode ended lexeme behind)
      · rw [tokens_of_ok first finishes]
        rcases List.mem_cons.1 member with rfl | behind
        · exact Or.inr ⟨token, List.mem_cons_self, rfl⟩
        · rcases ih lexeme behind with ends | ⟨found, inside, same⟩
          · exact Or.inl ends
          · exact Or.inr ⟨found, List.mem_cons_of_mem _ inside, same⟩

end Lexer

end Whirlwind
