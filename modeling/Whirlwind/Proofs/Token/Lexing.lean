import Mathlib.Data.List.TakeWhile
import Whirlwind.Expr.Basic
import Whirlwind.Proofs.Source.Facing
import Whirlwind.Proofs.Token.Passage
import Whirlwind.Proofs.Token.Shape

/-!
# Lexing written text

`Lexer.Gives` says what a text is read as by a lexer that stands in front of
it, and what the lexer then stands in front of.  There is one rule for each way
to write a lexeme.  All but a few of them are for text behind a gap, which may
be empty; and a word has to be followed by something that can end it.
-/

namespace Whirlwind

namespace UnaryOp

/-- How reading goes on behind an operator in front of an operand. -/
def mode : UnaryOp → Mode
  | .plus | .minus => .start
  | .octal => .octalDigits
  | .hexadecimal => .hexDigits

/-- The digits of a number right behind an operator. -/
def isDigit : UnaryOp → Char → Bool
  | .hexadecimal => Scan.isHexDigit
  | _ => Char.isDigit

theorem isNameChar_of_isDigit {op : UnaryOp} {character : Char}
    (digit : op.isDigit character = true) :
    Scan.isNameChar character = true := by
  cases op with
  | hexadecimal => exact Scan.isNameChar_of_isHexDigit digit
  | plus | minus | octal => exact Scan.isNameChar_of_isDigit digit

/-- A text starts with a radix mark if and only if a radix operator does it. -/
theorem startsRadix_iff {run : List Char} :
    Scan.startsRadix run = true ↔
      ∃ op : UnaryOp, op.isRadix = true ∧
        ∃ tail, run = op.operator.symbol.toList ++ tail := by
  constructor
  · intro marked
    unfold Scan.startsRadix at marked
    split at marked
    · next tail => exact ⟨.octal, rfl, tail, rfl⟩
    · next tail => exact ⟨.hexadecimal, rfl, tail, rfl⟩
    · cases marked
  · rintro ⟨op, radix, tail, rfl⟩
    cases op with
    | plus | minus => cases radix
    | octal | hexadecimal => rfl

end UnaryOp

namespace Lexer

/-- A lexer of a notation stands in front of a text, in a mode. -/
structure Faces (lexer : Lexer) (grammar : Grammar) (mode : Mode)
    (text : List Char) : Prop where
  notation_eq : lexer.grammar = grammar
  mode_eq : lexer.mode = mode
  text : lexer.cursor.Faces text

theorem faces_ofText (text : String) (firstLine : Nat) (grammar : Grammar) :
    (ofText text firstLine grammar).Faces grammar .start text.toList :=
  ⟨rfl, rfl, Cursor.faces_ofText text firstLine⟩

/-- A lexer in front of a text reads lexemes and is in front of the rest. -/
def Gives (grammar : Grammar) (mode : Mode) (text : List Char)
    (lexemes : List Lexeme) (next : Mode) (rest : List Char) : Prop :=
  ∀ lexer : Lexer, lexer.Faces grammar mode text →
    ∃ after, lexer.Reads lexemes after ∧ after.Faces grammar next rest

theorem Gives.done {grammar : Grammar} {mode : Mode} {text : List Char} :
    Gives grammar mode text [] mode text :=
  fun lexer faces => ⟨lexer, .done, faces⟩

theorem Gives.trans {grammar : Grammar} {mode between next : Mode}
    {text middle rest : List Char} {front back : List Lexeme}
    (first : Gives grammar mode text front between middle)
    (second : Gives grammar between middle back next rest) :
    Gives grammar mode text (front ++ back) next rest := by
  intro lexer faces
  rcases first lexer faces with ⟨halfway, reads, facesHalfway⟩
  rcases second halfway facesHalfway with ⟨after, later, facesAfter⟩
  exact ⟨after, reads.append later, facesAfter⟩

/-- The rest of the line is taken, up to the next newline. -/
theorem Faces.restOfLine {lexer : Lexer} {grammar : Grammar}
    {mode : Mode} {text : List Char} (faces : lexer.Faces grammar mode text) :
    ∃ after, Lexer.restOfLine.run lexer =
        (String.ofList (Text.trimReturns (Scan.upToNewline text)), after) ∧
      after.Faces grammar mode (text.dropWhile (· != '\n')) := by
  rcases faces.text.restOfLine with ⟨after, run, facesAfter⟩
  refine ⟨{ lexer with cursor := after }, ?_, faces.notation_eq,
    faces.mode_eq, facesAfter⟩
  rw [StateT.run] at run ⊢
  simp [Lexer.restOfLine, Lexer.onCursor, StateT.run, run, Scan.upToNewline]

/-- What is left of a text on one line is its rest. -/
theorem Faces.restOfLine_inLine {lexer : Lexer} {grammar : Grammar}
    {mode : Mode} {text : List Char} (faces : lexer.Faces grammar mode text)
    (inLine : '\n' ∉ text) :
    ∃ after, Lexer.restOfLine.run lexer =
        (String.ofList (Text.trimReturns text), after) ∧
      after.Faces grammar mode [] := by
  rcases faces.restOfLine with ⟨after, run, facesAfter⟩
  have whole := Scan.upToNewline_eq_self inLine
  have split :=
    List.takeWhile_append_dropWhile (p := (· != '\n')) (l := text)
  rw [← Scan.upToNewline, whole, List.append_right_eq_self] at split
  rw [whole] at run
  rw [split] at facesAfter
  exact ⟨after, run, facesAfter⟩

/-- A finding that is accepted leaves what stands behind its span. -/
theorem Faces.accept {cursor : Cursor} {finding : Finding} {lexeme : Lexeme}
    {span rest : List Char} {onward : Mode} (lexer : Lexer)
    (found : finding = .lexeme lexeme span onward)
    (faces : (cursor.skip span).Faces rest) :
    ∃ token after, lexer.accept cursor finding = .ok token after ∧
      token.lexeme = lexeme ∧ after.Faces lexer.grammar onward rest := by
  subst found
  exact ⟨_, _, rfl, rfl, rfl, rfl, faces⟩

/--
Behind a gap a token is read, if its scan finds it on the part of the text that
is on its line.
-/
theorem gives_token {grammar : Grammar} {gap rest : List Char}
    {lexeme : Lexeme} {onward : Mode} (first : Char) (tail : List Char)
    (gaps : grammar.Skips gap)
    (apart : grammar.isGap first = false)
    (inLine : '\n' ∉ first :: tail)
    (scans : ∀ line, line <+: rest → (line = [] → rest = []) →
      Scan.token grammar first (tail ++ line) =
        .lexeme lexeme (first :: tail) onward) :
    Gives grammar .start (gap ++ (first :: tail ++ rest)) [lexeme] onward
      rest := by
  intro lexer faces
  have skipped := faces.text.settle.skipWhile grammar.isGap
  rw [List.dropWhile_append_of_pos gaps, List.cons_append,
    List.dropWhile_cons_of_neg (by simp [apart]), ← List.cons_append]
    at skipped
  rcases skipped.settle_ahead inLine (List.cons_ne_nil first tail) with
    ⟨line, ahead, start, ends, facesRest⟩
  rw [Cursor.settle_skipWhile] at ahead facesRest
  rcases Faces.accept lexer (scans line start ends) facesRest with
    ⟨token, after, accepted, same, facesAfter⟩
  have mode : lexer.modeAt lexer.cursor.settle.ahead = .start := by
    simp [modeAt, faces.mode_eq]
  have read : lexer.next = .ok token after := by
    rw [Lexer.next, mode]
    simp only [faces.notation_eq, ahead, List.cons_append]
    exact accepted
  refine ⟨after, same ▸ Reads.single read, ?_⟩
  rwa [faces.notation_eq] at facesAfter

/-- Behind the last token there is nothing but a gap. -/
theorem gives_finish {grammar : Grammar} {gap : List Char}
    (gaps : grammar.Skips gap) :
    Gives grammar .start gap [.finish] .start [] := by
  intro lexer faces
  have skipped := faces.text.settle.skipWhile grammar.isGap
  rw [List.dropWhile_eq_nil_iff.2 gaps] at skipped
  have ahead := skipped.settle_nil.1
  rw [Cursor.settle_skipWhile] at ahead
  have mode : lexer.modeAt lexer.cursor.settle.ahead = .start := by
    simp [modeAt, faces.mode_eq]
  let cursor := lexer.cursor.settle.skipWhile grammar.isGap
  have read : lexer.next = .ok ⟨.finish, cursor.locationHere⟩
      { lexer with cursor := cursor, mode := .start } := by
    rw [Lexer.next, mode]
    simp only [faces.notation_eq, ahead, cursor]
  exact ⟨_, .single read, faces.notation_eq, rfl, skipped⟩

section

variable {grammar : Grammar} {gap rest : List Char}

theorem gives_mark (character : Char)
    (gaps : grammar.Skips gap)
    (marked : grammar.isMark character = true) :
    Gives grammar .start (gap ++ character :: rest) [.mark character] .start
      rest := by
  rcases grammar.apart_of_mem_marks character (List.contains_iff_mem.1 marked) with
    ⟨apart, _, inLine, _⟩
  exact gives_token _ [] gaps apart (by simpa using inLine.symm)
    fun line _ _ => Scan.token_mark marked line

theorem gives_word {run : List Char} (words : grammar.hasRuns = false)
    (gaps : grammar.Skips gap)
    (visible : run ≠ [])
    (named : ∀ character ∈ run, Scan.isNameChar character = true)
    (plain : Scan.startsRadix run = false) (closes : grammar.Closes rest) :
    Gives grammar .start (gap ++ (run ++ rest))
      [Scan.wordLexeme Char.isDigit run] .start rest := by
  rcases List.exists_cons_of_ne_nil visible with ⟨first, tail, rfl⟩
  have apart := Scan.isBlank_of_isNameChar (named first List.mem_cons_self)
  have inLine : '\n' ∉ first :: tail :=
    fun member => absurd (named _ member) (by decide)
  exact gives_token first tail gaps (by simp [Grammar.isGap, apart]) inLine
    fun line start _ =>
      Scan.token_word words named plain (closes.of_prefix start)

theorem gives_identifier {name : String} (words : grammar.hasRuns = false)
    (gaps : grammar.Skips gap)
    (shape : IsName name) (closes : grammar.Closes rest) :
    Gives grammar .start (gap ++ (name.toList ++ rest)) [.identifier name]
      .start rest := by
  rcases shape with ⟨named, ⟨letter, member, other⟩, plain⟩
  have gives := gives_word words gaps (List.ne_nil_of_mem member) named plain
    closes
  have mixed : name.toList.all Char.isDigit = false :=
    List.all_eq_false.2 ⟨letter, member, by simp [other]⟩
  simpa [Scan.wordLexeme, mixed] using gives

theorem gives_digits {text : String} (words : grammar.hasRuns = false)
    (gaps : grammar.Skips gap)
    (shape : IsNumber Char.isDigit text) (closes : grammar.Closes rest) :
    Gives grammar .start (gap ++ (text.toList ++ rest)) [.digits text]
      .start rest := by
  rcases shape with ⟨visible, digits⟩
  have plain : Scan.startsRadix text.toList = false := by
    unfold Scan.startsRadix
    split
    · next same => exact absurd (digits 'o' (by simp [same])) (by decide)
    · next same => exact absurd (digits 'x' (by simp [same])) (by decide)
    · rfl
  have gives := gives_word words gaps (by simpa using visible)
    (fun character member => Scan.isNameChar_of_isDigit (digits _ member))
    plain closes
  simpa [Scan.wordLexeme, List.all_eq_true.2 digits] using gives

/-- A text between quotes is read as the string that its escapes stand for. -/
theorem gives_string {body : List Char}
    (gaps : grammar.Skips gap)
    (inLine : '\n' ∉ body)
    (quoted : ∀ line, Scan.quotedBody? (body ++ '"' :: line) = some body) :
    Gives grammar .start (gap ++ '"' :: (body ++ '"' :: rest))
      [.string (String.ofList (Scan.unescape body))] .start rest := by
  have apart : grammar.isGap '"' = false := by cases grammar <;> decide
  have gives : Gives grammar .start (gap ++ ('"' :: (body ++ ['"']) ++ rest))
      [.string (String.ofList (Scan.unescape body))] .start rest := by
    refine gives_token _ _ gaps apart (by simpa using inLine)
      fun line _ _ => ?_
    simp [Scan.token, Scan.string, quoted]
  simpa using gives

theorem gives_atSign (signs : grammar.hasAtSign = true)
    (gaps : grammar.Skips gap)
    (single : rest.head? ≠ some '@') :
    Gives grammar .start (gap ++ '@' :: rest) [.mark '@'] .start rest := by
  have apart : grammar.isGap '@' = false := by cases grammar <;> decide
  refine gives_token _ [] gaps apart (by decide) fun line start _ => ?_
  have alone : line.head? ≠ some '@' := by
    cases line with
    | nil => simp
    | cons next line =>
        rcases start with ⟨more, rfl⟩
        exact single
  simp only [Scan.token, signs, List.nil_append]
  split
  · next doubled => simp at doubled
  split
  · next quote => simp at quote
  split
  · next comment => simp at comment
  split
  · split
    · simp at alone
    · rfl
  · next other => simp at other

/-- A comment that no comment follows runs to the end of the text. -/
theorem gives_comment {body : List Char}
    (comments : grammar.hasComments = true)
    (gaps : grammar.Skips gap)
    (inLine : '\n' ∉ body) (alone : Scan.beforeAtSigns? body = none) :
    Gives grammar .start (gap ++ ';' :: body)
      [.comment (String.ofList (Text.trimReturns body))] .start [] := by
  have apart : grammar.isGap ';' = false := by cases grammar <;> decide
  have whole := Scan.upToNewline_eq_self inLine
  have gives : Gives grammar .start (gap ++ (';' :: body ++ []))
      [.comment (String.ofList (Text.trimReturns body))] .start [] := by
    refine gives_token _ _ gaps apart (by simpa using inLine)
      fun line start _ => ?_
    rcases List.prefix_nil.1 start with rfl
    simp [Scan.token, Scan.comment, comments, whole, alone]
  simpa using gives

/-- A comment that two at signs end, with another comment behind them. -/
theorem gives_splitComment {body : List Char}
    (comments : grammar.hasComments = true)
    (gaps : grammar.Skips gap) (inLine : '\n' ∉ body)
    (splits : ∀ line,
      Scan.beforeAtSigns? (body ++ '@' :: '@' :: line) = some body) :
    Gives grammar .start (gap ++ (';' :: (body ++ ['@', '@']) ++ rest))
      [.comment (String.ofList body)] .autoComment rest := by
  have apart : grammar.isGap ';' = false := by cases grammar <;> decide
  have spanInLine : '\n' ∉ body ++ ['@', '@'] := by
    simp [inLine]
  refine gives_token _ _ gaps apart (by simpa using spanInLine)
    fun line start _ => ?_
  have upTo := Scan.upToNewline_append spanInLine line
  rw [List.append_assoc] at upTo
  simp only [List.cons_append, List.nil_append] at upTo
  simp [Scan.token, Scan.comment, comments, upTo, splits]

/-- A comment behind two at signs that no other comment is in front of. -/
theorem gives_autoComment {body : List Char} (signs : grammar.hasAtSign = true)
    (gaps : grammar.Skips gap)
    (inLine : '\n' ∉ body) :
    Gives grammar .start (gap ++ '@' :: '@' :: body)
      [.autoComment (String.ofList (Text.trimReturns body))] .start [] := by
  have apart : grammar.isGap '@' = false := by cases grammar <;> decide
  have whole := Scan.upToNewline_eq_self inLine
  have gives : Gives grammar .start (gap ++ ('@' :: '@' :: body ++ []))
      [.autoComment (String.ofList (Text.trimReturns body))] .start [] := by
    refine gives_token _ _ gaps apart (by simpa using inLine)
      fun line start _ => ?_
    rcases List.prefix_nil.1 start with rfl
    simp [Scan.token, Scan.autoComment, signs, whole]
  simpa using gives

/-- The comment behind one that two at signs ended, which may be empty. -/
theorem gives_dueComment {body : List Char} (inLine : '\n' ∉ body) :
    Gives grammar .autoComment body
      [.autoComment (String.ofList (Text.trimReturns body))] .start [] := by
  intro lexer faces
  have text := faces.text
  have settled : lexer.cursor.settle.ahead = body ∧
      (lexer.cursor.settle.skip body).Faces [] := by
    cases body with
    | nil => exact ⟨text.settle_nil.1, text.settle⟩
    | cons first body =>
        rw [← List.append_nil (first :: body)] at text
        rcases text.settle_ahead inLine (List.cons_ne_nil _ _) with
          ⟨line, ahead, start, _, facesRest⟩
        rcases List.prefix_nil.1 start with rfl
        rw [List.append_nil] at ahead
        exact ⟨ahead, facesRest⟩
  rcases settled with ⟨ahead, facesRest⟩
  have found : Scan.autoComment [] body =
      .lexeme (.autoComment (String.ofList (Text.trimReturns body))) body
        .start := by
    rw [Scan.autoComment, Scan.upToNewline_eq_self inLine, List.nil_append]
  rcases Faces.accept lexer found facesRest with
    ⟨token, after, accepted, same, facesAfter⟩
  have mode : lexer.modeAt lexer.cursor.settle.ahead = .autoComment := by
    simp [modeAt, faces.mode_eq]
  have read : lexer.next = .ok token after := by
    rw [Lexer.next, mode, ahead]
    exact accepted
  refine ⟨after, same ▸ Reads.single read, ?_⟩
  rwa [faces.notation_eq] at facesAfter

theorem gives_sign (op : UnaryOp) (words : grammar.hasRuns = false)
    (gaps : grammar.Skips gap) :
    Gives grammar .start (gap ++ (op.operator.symbol.toList ++ rest))
      [.operator op.operator] op.mode rest := by
  cases op with
  | plus =>
      refine gives_mark _ gaps ?_
      cases grammar <;> first | rfl | cases words
  | minus =>
      refine gives_mark _ gaps ?_
      cases grammar <;> first | rfl | cases words
  | octal =>
      refine gives_token _ ['o'] gaps ?_ (by decide) fun line _ _ => ?_
      · cases grammar <;> rfl
      · cases grammar <;> first | rfl | cases words
  | hexadecimal =>
      refine gives_token _ ['x'] gaps ?_ (by decide) fun line _ _ => ?_
      · cases grammar <;> rfl
      · cases grammar <;> first | rfl | cases words

/-- A radix mark is over in front of a text that cannot be a number's. -/
theorem Gives.radixOver {text : List Char} {lexeme : Lexeme}
    {lexemes : List Lexeme} {onward : Mode}
    (gives : Gives grammar .start text (lexeme :: lexemes) onward rest)
    (op : UnaryOp) (ended : grammar.Closes text) :
    Gives grammar op.mode text (lexeme :: lexemes) onward rest := by
  intro lexer faces
  rcases gives { lexer with mode := .start } ⟨faces.notation_eq, rfl,
    faces.text⟩ with ⟨last, reads, facesLast⟩
  refine ⟨last, ?_, facesLast⟩
  have closes : lexer.grammar.Closes lexer.cursor.settle.ahead := by
    rwa [faces.notation_eq, Grammar.Closes, faces.text.head?_settle]
  have mode : lexer.modeAt lexer.cursor.settle.ahead = .start := by
    simp only [modeAt, faces.mode_eq]
    cases ahead : lexer.cursor.settle.ahead with
    | nil => cases op <;> rfl
    | cons first rest =>
        rw [ahead] at closes
        cases op <;> simp [UnaryOp.mode, Grammar.closes_cons.1 closes]
  cases reads with
  | read first later =>
      refine .read ?_ later
      rw [← first, Lexer.next, Lexer.next, mode]
      rfl

/-- A word right behind a radix mark, whatever it starts with. -/
theorem gives_dueWord {op : UnaryOp} {run : List Char}
    (radix : op.isRadix = true) (visible : run ≠ [])
    (named : ∀ character ∈ run, Scan.isNameChar character = true)
    (closes : grammar.Closes rest) :
    Gives grammar op.mode (run ++ rest) [Scan.wordLexeme op.isDigit run] .start
      rest := by
  intro lexer faces
  rcases faces.text.settle_ahead (fun member => absurd (named _ member) (by
    decide)) visible with ⟨line, ahead, start, _, facesRest⟩
  have scanned := Scan.word_append op.isDigit named
    (closes.of_prefix start)
  rcases Faces.accept lexer scanned facesRest with
    ⟨token, after, accepted, same, facesAfter⟩
  have mode : lexer.modeAt lexer.cursor.settle.ahead = op.mode := by
    rcases List.exists_cons_of_ne_nil visible with ⟨first, tail, rfl⟩
    have due := Scan.isTerminator_of_isNameChar
      (named first List.mem_cons_self) grammar
    simp only [modeAt, faces.mode_eq, faces.notation_eq, ahead,
      List.cons_append]
    cases op <;> simp [UnaryOp.mode, due]
  have read : lexer.next = .ok token after := by
    rw [Lexer.next, mode, ahead]
    cases op <;> first | exact faces.notation_eq ▸ accepted | cases radix
  refine ⟨after, same ▸ Reads.single read, ?_⟩
  rwa [faces.notation_eq] at facesAfter

/-- Digits right behind a radix mark. -/
theorem gives_dueDigits {op : UnaryOp} {text : String}
    (radix : op.isRadix = true) (shape : IsNumber op.isDigit text)
    (closes : grammar.Closes rest) :
    Gives grammar op.mode (text.toList ++ rest) [.digits text] .start rest := by
  rcases shape with ⟨visible, digits⟩
  have gives := gives_dueWord radix (by simpa using visible)
    (fun character member => UnaryOp.isNameChar_of_isDigit (digits _ member))
    closes
  simpa [Scan.wordLexeme, List.all_eq_true.2 digits] using gives

end

end Lexer

end Whirlwind
