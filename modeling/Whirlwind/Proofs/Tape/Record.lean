import Whirlwind.Proofs.Expr.Relisting
import Whirlwind.Proofs.Line.Reformat

/-!
# The records of a tape

What a line of a tape listing that is accepted consists of.  Its comments are on
one line and have no blanks at their ends, its offset is not negative, and
nothing is assigned in its operand, which can be read again unless it has a
radix mark.
-/

namespace Whirlwind

open TokenStream Reading

/-- The parts of a line of a tape listing. -/
structure Line.IsRecord (line : Line) : Prop where
  instruction : ∀ stated ∈ line.instruction, IsName stated.name
  operand : line.instruction = none → line.operand = none
  unassigned : ∀ expr ∈ line.operand, expr.hasAssignment = false
  wordlike : ∀ expr ∈ line.operand, expr.Wordlike
  /-- Behind a radix mark a name or number may have other shapes. -/
  shaped : ∀ expr ∈ line.operand, expr.hasRadix = false → expr.WellFormed
  offset : ∀ offset ∈ line.offset, 0 ≤ offset.toInt
  leadingComment : IsRemark line.leadingComment
  trailingComment : IsRemark line.trailingComment

/-! ## Fields that are not made of lexemes -/

namespace Lexer

theorem newline_not_mem_trimReturns {text : List Char}
    (inLine : ∀ character ∈ text, character ≠ '\n') :
    '\n' ∉ (String.ofList (Text.trimReturns text)).toList := by
  rw [String.toList_ofList]
  intro member
  exact inLine _ ((Scan.trimReturns_isPrefixOf text).subset member) rfl

/-- The first field of a line is a comment on that line. -/
theorem nextField_run (lexer : Lexer) :
    ∃ text location cursor,
      nextField.run lexer =
        (⟨.comment text, location⟩,
          { lexer with cursor := cursor, mode := .start }) ∧
      '\n' ∉ text.toList := by
  refine ⟨_, _, _, rfl, newline_not_mem_trimReturns ?_⟩
  rintro character member rfl
  have stops := List.mem_takeWhile_imp member
  simp at stops

theorem newline_not_mem_restOfLine {lexer after : Lexer} {raw : String}
    (run : restOfLine.run lexer = (raw, after)) : '\n' ∉ raw.toList := by
  rcases Prod.mk.inj run with ⟨rfl, -⟩
  refine newline_not_mem_trimReturns ?_
  rintro character member rfl
  have stops := List.mem_takeWhile_imp member
  simp at stops

end Lexer

namespace TokenStream

variable {start rest : TokenStream}

/-- The offset is consumed, if there is one, with the tab behind it. -/
theorem passes_sectionOffset {offset : Option Int64} (ready : start.Ready)
    (run : sectionOffset?.Answers start offset rest) :
    ∃ lexemes, start.Passes lexemes rest ∧ rest.Ready ∧
      (∀ lexeme ∈ lexemes, lexeme.isRadix = false) ∧
      ∀ place ∈ offset, 0 ≤ place.toInt := by
  rcases run.bind with ⟨token, after, read, later⟩
  have passed := passes_next read
  have idle := ready.next read
  split at later
  · next text lexeme =>
    rw [lexeme] at passed
    split at later
    · cases later
    · next place numeral =>
      have positive : 0 ≤ place.toInt := by
        rcases Option.bind_eq_some_iff.1 numeral with ⟨number, _, inside⟩
        rw [Integer.toInt_of_ofInt? inside]
        exact Int.natCast_nonneg number
      have stated : ∀ other ∈ some place, 0 ≤ other.toInt := by
        rintro _ ⟨⟩
        exact positive
      rcases later.bind with ⟨separator, behind, readSeparator, more⟩
      split at more
      · next tab =>
        rcases more.pure with ⟨rfl, rfl⟩
        refine ⟨_, passed.trans (passes_next readSeparator),
          (idle.ready.next readSeparator).ready, ?_, stated⟩
        simp [tab, Lexeme.isRadix]
      · rcases more.bind with ⟨_, whole, returned, answered⟩
        rcases answered.pure with ⟨rfl, rfl⟩
        have passedDigits := passed.trans
          (passes_handBack [] (passes_next readSeparator) returned)
        refine ⟨_, passedDigits,
          (idle.ready.next readSeparator).handBack returned, ?_, stated⟩
        simp [Lexeme.isRadix]
  · next lexeme =>
    rcases later.pure with ⟨rfl, rfl⟩
    refine ⟨_, passed, idle.ready, ?_, by simp⟩
    simp [lexeme, Lexeme.isRadix]
  · rcases later.bind with ⟨_, whole, returned, answered⟩
    rcases answered.pure with ⟨rfl, rfl⟩
    exact ⟨[], passes_handBack [] passed returned, idle.handBack returned,
      by simp, by simp⟩

/-- The comment of a record is kept as it is, wherever it was found. -/
theorem isRemark_tapeComment {base : TokenStream} {front : List Lexeme}
    {comment : String} (idle : base.Idle)
    (words : base.lexer.grammar.hasRuns = false)
    (passed : base.Passes front start)
    (run : tapeComment.Answers start comment rest) : IsRemark comment := by
  rcases run.bind with ⟨token, after, read, later⟩
  have passedToken := passed.trans (passes_next read)
  split at later
  · rcases later.bind with ⟨_, same, got, behind⟩
    split at behind
    · cases behind
    · rcases behind.bind with ⟨raw, between, taken, finished⟩
      rcases finished.bind with ⟨_, last, _, answered⟩
      rcases answered.pure with ⟨rfl, rfl⟩
      have read : Lexer.restOfLine.run same.lexer = (raw, between.lexer) := by
        rcases EStateM.Result.ok.inj taken with ⟨rfl, rfl⟩
        rfl
      exact isRemark_trim (Lexer.newline_not_mem_restOfLine read)
  · next text lexeme =>
    rcases later.bind with ⟨_, last, _, answered⟩
    rcases answered.pure with ⟨rfl, rfl⟩
    have shaped := idle.wordlike words passedToken (.comment text)
      (by simp [lexeme])
    exact isRemark_trim shaped.1
  · rcases later.pure with ⟨rfl, rfl⟩
    exact ⟨rfl, List.not_mem_nil⟩
  · cases later

end TokenStream

/-! ## Whole records -/

/-- A statement without a raw operand is consumed lexeme by lexeme. -/
theorem TokenStream.AccountsStatement.exists_passes {start rest : TokenStream}
    {statement : Option Statement}
    (accounts : start.AccountsStatement statement rest)
    (parsed : ∀ told ∈ statement, told.instruction.takesRawOperand = false) :
    ∃ lexemes, start.Passes lexemes rest := by
  cases accounts with
  | nothing passed => exact ⟨[], passed⟩
  | parsed passed _ accountsOperand =>
      rcases accountsOperand.exists_said with ⟨lexemes, passedOperand, _⟩
      exact ⟨_, passed.trans passedOperand⟩
  | taken _ _ takes => exact absurd (parsed _ rfl) (by simp [takes])

/-- What is consumed of a statement without a raw operand has known shapes. -/
theorem TokenStream.AccountsStatement.isRecord {base start rest : TokenStream}
    {front : List Lexeme} {statement : Option Statement} {line : Line}
    (idle : base.Idle) (words : base.lexer.grammar = .tape)
    (mode : base.lexer.mode = .start) (passed : base.Passes front start)
    (plain : ∀ lexeme ∈ front, lexeme.isRadix = false)
    (accounts : start.AccountsStatement statement rest)
    (instruction : line.instruction = statement.map Statement.instruction)
    (operand : line.operand = statement.bind Statement.operand)
    (parsed : ∀ stated ∈ line.instruction, stated.takesRawOperand = false)
    (offset : ∀ place ∈ line.offset, 0 ≤ place.toInt)
    (leading : IsRemark line.leadingComment)
    (trailing : IsRemark line.trailingComment) : line.IsRecord := by
  have noRuns : base.lexer.grammar.hasRuns = false := by rw [words]; rfl
  cases accounts with
  | nothing =>
      exact
        { instruction := by simp [instruction]
          operand := fun _ => operand
          unassigned := by simp [operand]
          wordlike := by simp [operand]
          shaped := by simp [operand]
          offset := offset
          leadingComment := leading
          trailingComment := trailing }
  | taken _ _ takes => exact absurd (parsed _ instruction) (by simp [takes])
  | @parsed stated tree named _ passedName _ accountsOperand =>
      simp only [Option.map_some, Option.bind_some] at instruction operand
      rcases accountsOperand.exists_said with ⟨lexemes, passedOperand, said⟩
      have plainName : ∀ lexeme ∈ front ++ stated.lexemes,
          lexeme.isRadix = false := List.forall_mem_append.2
        ⟨plain, plain_instructionLexemes (some stated)⟩
      have passedFront := passed.trans passedName
      have passedWhole := passedFront.trans passedOperand
      have shapedName := (List.forall_mem_append.1
        (idle.shaped noRuns mode passedFront plainName)).2
      have wordlike := (List.forall_mem_append.1
        (idle.wordlike noRuns passedWhole)).2
      constructor
      · rw [instruction]
        rintro _ ⟨⟩
        exact Instruction.isName_of_lexemes shapedName
      · exact fun absent => nomatch instruction.symm.trans absent
      · rw [operand]
        rintro expr ⟨⟩
        rcases said with ⟨phrase, inner, follow, rfl, derived⟩
        exact derived.hasAssignment_eq_false wordlike (by rw [words]; rfl)
      · rw [operand]
        rintro expr ⟨⟩
        rcases said with ⟨phrase, inner, follow, rfl, derived⟩
        exact derived.wordlike wordlike
      · rw [operand]
        rintro expr ⟨⟩ without
        rcases said with ⟨phrase, inner, follow, rfl, derived⟩
        have plainOperand := derived.plain_iff.2 without
        have shaped := idle.shaped noRuns mode passedWhole
          (List.forall_mem_append.2 ⟨plainName, plainOperand⟩)
        exact derived.wellFormed (List.forall_mem_append.1 shaped).2
          plainOperand
      · exact offset
      · exact leading
      · exact trailing

/--
What a line of a tape listing consists of from its first tab on: nothing, or an
offset and a statement with a comment behind it.
-/
inductive TokenStream.AccountsRecord (start : TokenStream) (line : Line)
    (result : Bool × Line) : Prop
  | nothing (same : result = (false, line))
  | fields {lexemes : List Lexeme} {offset : Option Int64}
      {statement : Option Statement} {comment : String}
      {atStatement atComment last : TokenStream}
      (passed : start.Passes lexemes atStatement)
      (plain : ∀ lexeme ∈ lexemes, lexeme.isRadix = false)
      (positive : ∀ place ∈ offset, 0 ≤ place.toInt)
      (accounts : atStatement.AccountsStatement statement atComment)
      (commented : tapeComment.Answers atComment comment last)
      (same : result = (statement.isSome,
        { line.withStatement statement with
          offset := offset
          trailingComment := comment }))

/-- A line of a tape listing that is read is a field and what stands behind it. -/
theorem Line.accounts_of_parse_tape {text : String} {lineNumber : Nat}
    {result : Bool × Line}
    (parsed : Line.parse text lineNumber .tape = .ok result) :
    ∃ field lexer,
      Lexer.nextField.run (Lexer.ofText text lineNumber .tape) =
        (field, lexer) ∧
      ({ lexer := lexer } : TokenStream).AccountsRecord
        { rawText := String.ofList (Text.trimLineEnd text.toList)
          lineNumber := lineNumber
          leadingComment := Text.trim field.lexeme.text } result := by
  rcases answer_eq_ok parsed with ⟨last, answers⟩
  have run : (tapeLine _).Answers (ofText text lineNumber .tape) result last :=
    answers
  rcases run.bind with ⟨field, base, took, later⟩
  rcases EStateM.Result.ok.inj took with ⟨rfl, rfl⟩
  refine ⟨_, _, rfl, ?_⟩
  rcases later.bind with ⟨token, fields, read, more⟩
  split at more
  · rcases more.pure with ⟨rfl, -⟩
    exact .nothing rfl
  · next tab =>
    have passedTab := passes_next read
    rw [tab] at passedTab
    have ready : fields.Ready :=
      (Ready.next (Idle.ready ⟨Nat.succ_pos 3, rfl⟩) read).ready
    rcases more.bind with ⟨offset, atStatement, readOffset, others⟩
    rcases others.bind with ⟨statement, atComment, readStatement, ends⟩
    rcases ends.bind with ⟨comment, final, readComment, answered⟩
    rcases answered.pure with ⟨rfl, -⟩
    rcases passes_sectionOffset ready readOffset with
      ⟨_, passedOffset, readyStatement, plain, positive⟩
    exact .fields (passedTab.trans passedOffset)
      (by simpa [Lexeme.isRadix] using plain) positive
      (accounts_statement readyStatement readStatement) readComment rfl
  · cases more

/-- A line of a tape listing that is read is a record, unless its operand is
raw. -/
theorem Line.isRecord_of_parse_lexemes {text : String} {lineNumber : Nat}
    {has : Bool} {line : Line}
    (parsed : Line.parse text lineNumber .tape = .ok (has, line))
    (lexemes : ∀ stated ∈ line.instruction, stated.takesRawOperand = false) :
    line.IsRecord := by
  rcases Line.accounts_of_parse_tape parsed with ⟨field, lexer, ran, accounts⟩
  rcases Lexer.nextField_run (Lexer.ofText text lineNumber .tape) with
    ⟨written, location, cursor, again, inLine⟩
  rcases Prod.mk.inj (ran.symm.trans again) with ⟨rfl, rfl⟩
  have leading : IsRemark (Text.trim written) := isRemark_trim inLine
  cases accounts with
  | nothing same =>
      cases same
      exact
        { instruction := fun _ member => nomatch member
          operand := fun _ => rfl
          unassigned := fun _ member => nomatch member
          wordlike := fun _ member => nomatch member
          shaped := fun _ member => nomatch member
          offset := fun _ member => nomatch member
          leadingComment := leading
          trailingComment := ⟨rfl, List.not_mem_nil⟩ }
  | @fields _ _ statement _ _ _ _ passed plain positive accounts commented
      same =>
      cases same
      have kept : ∀ told ∈ statement,
          told.instruction.takesRawOperand = false := by
        rintro told ⟨⟩
        exact lexemes _ rfl
      rcases accounts.exists_passes kept with ⟨_, passedStatement⟩
      have idle : ({ lexer := { cursor := cursor, grammar := .tape } } :
          TokenStream).Idle := ⟨Nat.succ_pos 3, rfl⟩
      have trailing := isRemark_tapeComment idle rfl
        (passed.trans passedStatement) commented
      exact accounts.isRecord idle rfl rfl passed plain rfl rfl lexemes
        positive leading trailing

/-- Only directives have raw operands. -/
theorem Line.isRecord_of_parse {text : String} {lineNumber : Nat} {has : Bool}
    {line : Line} (parsed : Line.parse text lineNumber .tape = .ok (has, line))
    (undirected : line.isDirective = false) : line.IsRecord := by
  refine Line.isRecord_of_parse_lexemes parsed fun stated instruction => ?_
  have plain : stated.isDirective = false := by
    simpa only [Line.isDirective, Option.mem_def.1 instruction] using undirected
  rw [Instruction.takesRawOperand, plain, Bool.false_and]

end Whirlwind
