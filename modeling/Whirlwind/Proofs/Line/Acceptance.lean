import Whirlwind.Proofs.Line.Reading

/-!
# What the lines that are accepted consist of

If a line of assembly source is read, then the lexemes that were consumed are
those of its parts, one part behind the other.  Only the operand of a directive
that takes the rest of its line is not made of lexemes; there the lexer was left
right behind the name of the directive, as no token was handed back.
-/

namespace Whirlwind

namespace TokenStream

open Reading

variable {start rest last : TokenStream}

/-- An atom is read without looking at what follows it. -/
theorem Idle.atom {expr : Expr} (idle : start.Idle)
    (run : TokenStream.atom.Answers start expr rest) : rest.Idle := by
  rcases accounts_atom run with ⟨consumed, passed, derived⟩
  rcases idle.exists_reads passed with ⟨between, reads⟩
  have offers : start.Offers (consumed ++ []) between :=
    idle.offers (by simpa using reads)
  rcases offers.yields_atom ((derived []).atom_follow []) with
    ⟨after, again, offersAfter⟩
  rcases EStateM.Result.ok.inj (run.symm.trans again) with ⟨_, rfl⟩
  exact ⟨offersAfter.room, offersAfter.of_nil.1⟩

/-- What has been consumed since a state is an operand, if there is one. -/
def AccountsOperand (start : TokenStream) :
    Option Expr → TokenStream → Prop
  | some expr, rest => start.Accounts .list [] expr rest
  | none, rest => start.Passes [] rest

theorem accounts_operand {operand : Option Expr}
    (run : operand?.Answers start operand rest) :
    start.AccountsOperand operand rest := by
  rcases run.bind with ⟨token, same, peeked, later⟩
  have passed := (passes_peek peeked).1
  split at later
  · rcases later.bind with ⟨expr, after, read, answered⟩
    rcases answered.pure with ⟨rfl, rfl⟩
    exact Accounts.of_passes passed (accounts_expression read)
  · rcases later.pure with ⟨rfl, rfl⟩
    exact passed

/--
What has been consumed since a state is a statement, if there is one.  A
directive that takes the rest of its line does so where the lexer stands behind
its name.
-/
inductive AccountsStatement (start : TokenStream) :
    Option Statement → TokenStream → Prop
  | nothing {rest : TokenStream} (passed : start.Passes [] rest) :
      AccountsStatement start none rest
  | parsed {instruction : Instruction} {operand : Option Expr}
      {named rest : TokenStream}
      (passed : start.Passes instruction.lexemes named)
      (parsed : instruction.takesRawOperand = false)
      (accounts : named.AccountsOperand operand rest) :
      AccountsStatement start (some ⟨instruction, operand⟩) rest
  | taken {name raw : String} {named : TokenStream} {after : Lexer}
      (passed : start.Passes (Instruction.lexemes ⟨name, true⟩) named)
      (idle : named.Idle)
      (takes : Instruction.takesRawOperand ⟨name, true⟩ = true)
      (run : Lexer.restOfLine.run named.lexer = (raw, after)) :
      AccountsStatement start
        (some ⟨⟨name, true⟩, rawOperand (Text.trim raw)⟩)
        { named with lexer := after }

/-- A statement starts with the name of its instruction. -/
theorem AccountsStatement.passes_name {statement : Option Statement}
    (accounts : start.AccountsStatement statement rest) :
    ∃ named, start.Passes
      (instructionLexemes (statement.map Statement.instruction)) named := by
  cases accounts with
  | nothing passed | parsed passed | taken passed => exact ⟨_, passed⟩

theorem accounts_directive {token : Token} {named : TokenStream}
    {statement : Statement}
    (passed : start.Passes [.mark '.', token.lexeme] named)
    (idle : named.Idle) (run : (directive token).Answers named statement rest) :
    token.lexeme = .identifier statement.instruction.name ∧
      start.AccountsStatement (some statement) rest := by
  unfold directive at run
  split at run
  · next name lexeme =>
    rw [lexeme] at passed
    rcases run.bind with ⟨_, same, got, later⟩
    rcases EStateM.Result.ok.inj got with ⟨rfl, rfl⟩
    have none_left : (!hasReturned named) = true := by
      simp [hasReturned, idle.returned]
    rw [none_left, Bool.and_true] at later
    split at later
    · next takes =>
      rcases later.bind with ⟨raw, after, taken, answered⟩
      rcases EStateM.Result.ok.inj taken with ⟨rfl, rfl⟩
      rcases answered.pure with ⟨rfl, rfl⟩
      exact ⟨lexeme, .taken passed idle takes rfl⟩
    · next parsed =>
      rcases later.bind with ⟨operand, after, read, answered⟩
      rcases answered.pure with ⟨rfl, rfl⟩
      exact ⟨lexeme, .parsed passed (by simpa using parsed)
        (accounts_operand read)⟩
  · cases run

theorem accounts_statement {statement : Option Statement}
    (ready : start.Ready) (run : statement?.Answers start statement rest) :
    start.AccountsStatement statement rest := by
  rcases run.bind with ⟨token, after, read, later⟩
  have passed := passes_next read
  split at later
  · next name lexeme =>
    rcases later.bind with ⟨operand, last, readOperand, answered⟩
    rcases answered.pure with ⟨rfl, rfl⟩
    rw [lexeme] at passed
    exact .parsed passed rfl (accounts_operand readOperand)
  · next lexeme =>
    rcases later.bind with ⟨name, named, readName, direct⟩
    rcases direct.bind with ⟨statement, last, directed, answered⟩
    rcases answered.pure with ⟨rfl, rfl⟩
    rw [lexeme] at passed
    exact (accounts_directive (passed.trans (passes_next readName))
      ((ready.next read).ready.next readName) directed).2
  · rcases later.bind with ⟨_, whole, returned, answered⟩
    rcases answered.pure with ⟨rfl, rfl⟩
    exact .nothing (passes_handBack [] passed returned)

/-- A label is consumed, if there is one, and the statement behind it. -/
theorem accounts_labelled {label : Option String}
    {statement : Option Statement} (ready : start.Ready)
    (run : labelled.Answers start (label, statement) rest) :
    ∃ behind, start.Passes (labelLexemes label) behind ∧
      behind.AccountsStatement statement rest := by
  rcases run.bind with ⟨token, after, read, later⟩
  have passed := passes_next read
  have idle := ready.next read
  split at later
  · next name lexeme =>
    rw [lexeme] at passed
    rcases later.bind with ⟨colon, behind, readColon, more⟩
    have passedColon := passes_next readColon
    split at more
    · next marked =>
      rcases more.bind with ⟨found, last, readStatement, answered⟩
      rcases answered.pure with ⟨same, rfl⟩
      cases same
      rw [lexeme_of_isMark marked] at passedColon
      exact ⟨behind, passed.trans passedColon,
        accounts_statement (idle.ready.next readColon).ready readStatement⟩
    · rcases more.bind with ⟨_, whole, returned, operation⟩
      rcases operation.bind with ⟨operand, last, readOperand, answered⟩
      rcases answered.pure with ⟨same, rfl⟩
      cases same
      have passedName := passed.trans
        (passes_handBack [] passedColon returned)
      exact ⟨start, .refl start,
        .parsed passedName rfl (accounts_operand readOperand)⟩
  · rcases later.bind with ⟨_, whole, returned, more⟩
    rcases more.bind with ⟨found, last, readStatement, answered⟩
    rcases answered.pure with ⟨same, rfl⟩
    cases same
    exact ⟨whole, passes_handBack [] passed returned,
      accounts_statement (idle.handBack returned) readStatement⟩

/-- A condition is consumed, if there is one: an atom behind its directive. -/
def AccountsCondition (start : TokenStream) :
    Option Expr → TokenStream → Prop
  | none, rest => start.Passes [] rest
  | some expr, rest =>
      ∃ named, start.Passes [.mark '.', .identifier "if"] named ∧
        named.Idle ∧ TokenStream.atom.Answers named expr rest

/-- What starts with a token that was handed back starts with its lexeme. -/
theorem eq_of_passes_pending {first lexeme : Lexeme}
    {behind more : List Lexeme} (pending : start.pending = first :: behind)
    (passed : start.Passes (lexeme :: more) rest) : first = lexeme := by
  rcases passed with ⟨fresh, _, same⟩
  rw [pending, List.cons_append, List.cons_append] at same
  exact (List.cons.inj same).1

/-- Condition, label and statement are consumed, one behind the other. -/
theorem accounts_conditional {condition : Option Expr} {label : Option String}
    {statement : Option Statement} (ready : start.Ready)
    (run : conditional.Answers start (condition, label, statement) rest) :
    (∃ atLabel atStatement, start.AccountsCondition condition atLabel ∧
      atLabel.Passes (labelLexemes label) atStatement ∧
      atStatement.AccountsStatement statement rest) ∧
    Tells.Conditioned condition label statement := by
  rcases run.bind with ⟨token, after, read, later⟩
  have passed := passes_next read
  have idle := ready.next read
  split at later
  · next dotted =>
    rw [lexeme_of_isMark dotted] at passed
    rcases later.bind with ⟨name, named, readName, more⟩
    have passedName := passed.trans (passes_next readName)
    have idleName := idle.ready.next readName
    split at more
    · next conditions =>
      rw [conditions] at passedName
      rcases more.bind with ⟨expr, atLabel, readAtom, behind⟩
      rcases behind.bind with ⟨⟨found, told⟩, last, readLabelled, answered⟩
      rcases answered.pure with ⟨same, rfl⟩
      cases same
      rcases accounts_labelled (idleName.atom readAtom).ready readLabelled with
        ⟨atStatement, passedLabel, accounts⟩
      exact ⟨⟨atLabel, atStatement, ⟨named, passedName, idleName, readAtom⟩,
        passedLabel, accounts⟩, fun _ _ => Or.inl rfl⟩
    · next other =>
      rcases more.bind with ⟨told, last, directed, answered⟩
      rcases answered.pure with ⟨same, rfl⟩
      cases same
      rcases accounts_directive passedName idleName directed with
        ⟨lexeme, accounts⟩
      refine ⟨⟨start, start, .refl start, .refl start, accounts⟩, ?_⟩
      intro operand same
      rw [Option.some.inj same] at lexeme
      exact absurd lexeme other
  · next undotted =>
    rcases later.bind with ⟨_, whole, returned, more⟩
    rcases more.bind with ⟨⟨found, told⟩, last, readLabelled, answered⟩
    rcases answered.pure with ⟨same, rfl⟩
    cases same
    rcases accounts_labelled (idle.handBack returned) readLabelled with
      ⟨atStatement, passedLabel, accounts⟩
    refine ⟨⟨whole, atStatement, passes_handBack [] passed returned,
      passedLabel, accounts⟩, ?_⟩
    intro operand same
    cases label with
    | some name => exact Or.inr rfl
    | none =>
        subst same
        rcases accounts.passes_name with ⟨named, passedName⟩
        have first := eq_of_passes_pending (pending_handBack returned)
          (passedLabel.trans passedName)
        exact absurd (by simp [Token.isMark, first]) undotted

theorem passes_prefixDigits {text : String}
    (run : prefixDigits.Answers start text rest) :
    start.Passes [.digits text] rest ∧ (start.Ready → rest.Idle) := by
  rcases run.bind with ⟨token, after, read, later⟩
  split at later
  · next found lexeme =>
    rcases later.pure with ⟨rfl, rfl⟩
    exact ⟨lexeme ▸ passes_next read, fun ready => ready.next read⟩
  · cases later

theorem passes_prefixOffset {offset : Option String}
    (run : prefixOffset?.Answers start offset rest) :
    start.Passes (offsetLexemes offset ++ [.mark ':']) rest ∧
      (start.Ready → rest.Idle) := by
  rcases run.bind with ⟨token, after, read, later⟩
  have passed := passes_next read
  split at later
  · next dotted =>
    rw [lexeme_of_isMark dotted] at passed
    rcases later.bind with ⟨found, behind, readDigits, more⟩
    rcases more.bind with ⟨colon, last, readColon, answered⟩
    rcases passes_prefixDigits readDigits with ⟨passedDigits, idle⟩
    have passedColon := passes_next readColon
    split at answered
    · next marked =>
      rcases answered.pure with ⟨rfl, rfl⟩
      rw [lexeme_of_isMark marked] at passedColon
      exact ⟨(passed.trans passedDigits).trans passedColon, fun ready =>
        (idle (ready.next read).ready).ready.next readColon⟩
    · cases answered
  · split at later
    · next marked =>
      rcases later.pure with ⟨rfl, rfl⟩
      rw [lexeme_of_isMark marked] at passed
      exact ⟨passed, fun ready => ready.next read⟩
    · cases later

/-- A prefix address is consumed, if there is one. -/
theorem passes_prefixAddress {address : Option PrefixAddress}
    (ready : start.Ready)
    (run : prefixAddress?.Answers start address rest) :
    start.Passes (addressLexemes address) rest ∧ rest.Ready := by
  rcases run.bind with ⟨token, after, read, later⟩
  have passed := passes_next read
  split at later
  · next marked =>
    rw [lexeme_of_isMark marked] at passed
    rcases later.bind with ⟨digits, behind, readDigits, more⟩
    rcases more.bind with ⟨offset, atContents, readOffset, others⟩
    rcases others.bind with ⟨contents, last, readContents, answered⟩
    rcases answered.pure with ⟨rfl, rfl⟩
    rcases passes_prefixDigits readDigits with ⟨passedDigits, idle⟩
    rcases passes_prefixOffset readOffset with ⟨passedOffset, idleOffset⟩
    rcases passes_prefixDigits readContents with ⟨passedContents, idleLast⟩
    refine ⟨?_, (idleLast
      (idleOffset (idle (ready.next read).ready).ready).ready).ready⟩
    simpa [addressLexemes, PrefixAddress.lexemes] using
      ((passed.trans passedDigits).trans passedOffset).trans passedContents
  · rcases later.bind with ⟨_, whole, returned, answered⟩
    rcases answered.pure with ⟨rfl, rfl⟩
    exact ⟨passes_handBack [] passed returned,
      (ready.next read).handBack returned⟩

theorem passes_commentsFrom {token : Token} {before : List Lexeme}
    {between : TokenStream} {trailing kept auto : String}
    (passed : start.Passes (before ++ [token.lexeme]) between)
    (run : (commentsFrom trailing token).Answers between (kept, auto) rest) :
    kept = trailing ∧ ∃ written, auto = keptComment written ∧
      start.Passes (before ++ (written.map Lexeme.autoComment).toList)
        rest := by
  unfold commentsFrom at run
  split at run
  · next text lexeme =>
    rcases run.pure with ⟨same, rfl⟩
    cases same
    rw [lexeme] at passed
    exact ⟨rfl, some text, rfl, passed⟩
  · rcases run.bind with ⟨_, whole, returned, answered⟩
    rcases answered.pure with ⟨same, rfl⟩
    cases same
    have passedBefore := passes_handBack before passed returned
    exact ⟨rfl, none, rfl, by simpa using passedBefore⟩

/-- The comments at the end of a line are consumed. -/
theorem passes_comments {trailing auto : String}
    (run : comments.Answers start (trailing, auto) rest) :
    ∃ written autoWritten, trailing = keptComment written ∧
      auto = keptComment autoWritten ∧
      start.Passes (commentLexemes written autoWritten) rest := by
  rcases run.bind with ⟨token, after, read, later⟩
  have passed := passes_next read
  split at later
  · next text lexeme =>
    rcases later.bind with ⟨next, behind, readNext, more⟩
    rw [lexeme] at passed
    rcases passes_commentsFrom (passed.trans (passes_next readNext)) more with
      ⟨same, written, kept, passedBoth⟩
    exact ⟨some text, written, same, kept, passedBoth⟩
  · have passedAll : start.Passes ([] ++ [token.lexeme]) after := passed
    rcases passes_commentsFrom passedAll later with
      ⟨same, written, kept, passedBoth⟩
    exact ⟨none, written, same, kept, passedBoth⟩

/-- The parts of a line of assembly source are consumed one after another. -/
inductive AccountsLine (start : TokenStream) (line : Line)
    (result : Bool × Line) (last : TokenStream) : Prop
  | parts {address : Option PrefixAddress} {condition : Option Expr}
      {label : Option String} {statement : Option Statement}
      {trailing auto : Option String}
      {atCondition atLabel atStatement atComments : TokenStream}
      (passedAddress : start.Passes (addressLexemes address) atCondition)
      (accountsCondition : atCondition.AccountsCondition condition atLabel)
      (passedLabel : atLabel.Passes (labelLexemes label) atStatement)
      (accountsStatement :
        atStatement.AccountsStatement statement atComments)
      (passedComments : atComments.Passes
        (commentLexemes trailing auto ++ [.finish]) last)
      (conditioned : Tells.Conditioned condition label statement)
      (same : result = (statement.isSome,
        { line.withStatement statement with
          prefixAddress := address
          condition := condition
          label := label
          trailingComment := keptComment trailing
          autoComment := keptComment auto }))

theorem accounts_assemblyLine {line : Line} {result : Bool × Line}
    (ready : start.Ready)
    (run : (assemblyLine line).Answers start result last) :
    start.AccountsLine line result last := by
  rcases run.bind with ⟨address, atCondition, readAddress, later⟩
  rcases passes_prefixAddress ready readAddress with
    ⟨passedAddress, readyCondition⟩
  rcases later.bind with
    ⟨⟨condition, label, statement⟩, atComments, readConditional, more⟩
  rcases accounts_conditional readyCondition readConditional with
    ⟨⟨atLabel, atStatement, accountsCondition, passedLabel,
      accountsStatement⟩, conditioned⟩
  rcases more.bind with ⟨⟨trailing, auto⟩, atFinish, readComments, others⟩
  rcases passes_comments readComments with
    ⟨written, autoWritten, rfl, rfl, passedComments⟩
  rcases others.bind with ⟨_, final, finished, answered⟩
  rcases answered.pure with ⟨rfl, rfl⟩
  exact .parts passedAddress accountsCondition passedLabel accountsStatement
    (passedComments.trans (passes_expectFinish finished)) conditioned rfl

end TokenStream

end Whirlwind
