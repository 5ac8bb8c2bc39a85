import Whirlwind.Proofs.Expr.Shape
import Whirlwind.Proofs.Line.Acceptance
import Whirlwind.Proofs.Line.Listing

/-!
# Reformatting lines that are accepted

A line of assembly source that is accepted without radix marks has parts that
can be read as such (`Line.WellFormed`).  So it is read from its listing as it
is if its condition is a single lexeme.  Otherwise it is not, as the parentheses
around the condition are not listed: no more than the first atom of the
condition is read again.
-/

namespace Whirlwind

open TokenStream Reading

/-- Whether a radix mark occurs in the trees of a line. -/
def Line.hasRadix (line : Line) : Bool :=
  line.condition.any Expr.hasRadix || line.operand.any Expr.hasRadix

/-! ## Parts of known shapes -/

theorem isRemark_trim {text : String} (inLine : '\n' ∉ text.toList) :
    IsRemark (Text.trim text) := by
  constructor
  · rw [Text.trim, Text.trim, String.toList_ofList,
      Text.trimBlanks_idempotent]
  · rw [Text.trim, String.toList_ofList]
    exact fun member => inLine ((Text.trimBlanks_infix _).subset member)

theorem isRemark_keptComment {text : Option String}
    (inLine : ∀ written ∈ text, '\n' ∉ written.toList) :
    IsRemark (keptComment text) := by
  cases text with
  | none => exact ⟨rfl, List.not_mem_nil⟩
  | some written => exact isRemark_trim (inLine written rfl)

theorem unsplit_keptComment {text : Option String}
    (alone : ∀ written ∈ text, ¬['@', '@'] <:+: written.toList) :
    ¬['@', '@'] <:+: (keptComment text).toList := by
  cases text with
  | none => exact fun inside => by cases inside.sublist
  | some written =>
      intro inside
      refine alone written rfl ?_
      rw [keptComment, Option.map_some, Option.getD_some, Text.trim,
        String.toList_ofList] at inside
      exact inside.trans (Text.trimBlanks_infix _)

theorem wellFormed_of_addressLexemes {address : Option PrefixAddress}
    (shaped : ∀ lexeme ∈ addressLexemes address, lexeme.Shaped .assembly) :
    ∀ place ∈ address, place.WellFormed := by
  intro place member
  cases member
  simp only [addressLexemes, PrefixAddress.lexemes, Option.map_some,
    Option.getD_some, List.forall_mem_cons, List.forall_mem_append] at shaped
  rcases shaped with ⟨_, digits, offset, _, contents, _⟩
  refine ⟨digits, ?_, contents⟩
  intro text given
  rw [given] at offset
  exact offset _ (List.mem_cons_of_mem _ List.mem_cons_self)

theorem isName_of_labelLexemes {label : Option String}
    (shaped : ∀ lexeme ∈ labelLexemes label, lexeme.Shaped .assembly) :
    ∀ name ∈ label, IsName name := by
  intro name member
  cases member
  exact shaped _ List.mem_cons_self

theorem Instruction.isName_of_lexemes {grammar : Grammar}
    {instruction : Instruction}
    (shaped : ∀ lexeme ∈ instruction.lexemes, lexeme.Shaped grammar) :
    IsName instruction.name := by
  refine shaped (.identifier instruction.name) ?_
  unfold Instruction.lexemes
  split
  · exact List.mem_cons_of_mem _ List.mem_cons_self
  · exact List.mem_cons_self

/-! ## Radix marks -/

theorem plain_addressLexemes (address : Option PrefixAddress) :
    ∀ lexeme ∈ addressLexemes address, lexeme.isRadix = false := by
  cases address with
  | none => exact fun _ member => nomatch member
  | some place =>
      rcases place with ⟨digits, offset, contents⟩
      cases offset <;>
        simp [addressLexemes, PrefixAddress.lexemes, offsetLexemes,
          Lexeme.isRadix]

theorem plain_labelLexemes (label : Option String) :
    ∀ lexeme ∈ labelLexemes label, lexeme.isRadix = false := by
  cases label <;> simp [labelLexemes, Lexeme.isRadix]

theorem plain_instructionLexemes (instruction : Option Instruction) :
    ∀ lexeme ∈ instructionLexemes instruction, lexeme.isRadix = false := by
  cases instruction with
  | none => exact fun _ member => nomatch member
  | some named =>
      rcases named with ⟨name, directive⟩
      cases directive <;>
        simp [instructionLexemes, Instruction.lexemes, Lexeme.isRadix]

theorem plain_commentLexemes (trailing auto : Option String) :
    ∀ lexeme ∈ commentLexemes trailing auto ++ [.finish],
      lexeme.isRadix = false := by
  cases trailing <;> cases auto <;> simp [commentLexemes, Lexeme.isRadix]

/--
Lexemes say a tree, if there is one, behind others by which it is told that
there is one.
-/
def Says (opening lexemes : List Lexeme) : Option Expr → Prop
  | none => lexemes = []
  | some expr => ∃ phrase inner follow,
      lexemes = opening ++ inner ∧ Derives phrase inner follow expr

namespace Says

variable {opening lexemes : List Lexeme} {tree : Option Expr}

theorem plain_iff (said : Says opening lexemes tree)
    (opens : ∀ lexeme ∈ opening, lexeme.isRadix = false) :
    (∀ lexeme ∈ lexemes, lexeme.isRadix = false) ↔
      tree.any Expr.hasRadix = false := by
  cases tree with
  | none =>
      cases said
      exact iff_of_true (fun _ member => nomatch member) rfl
  | some expr =>
      rcases said with ⟨phrase, inner, follow, rfl, derived⟩
      rw [List.forall_mem_append, derived.plain_iff, Option.any_some]
      exact and_iff_right opens

theorem wellFormed (said : Says opening lexemes tree)
    (shaped : ∀ lexeme ∈ lexemes, lexeme.Shaped .assembly)
    (plain : ∀ lexeme ∈ lexemes, lexeme.isRadix = false) :
    ∀ expr ∈ tree, expr.WellFormed ∧ expr.hasAssignment = false := by
  intro expr member
  cases member
  rcases said with ⟨phrase, inner, follow, rfl, derived⟩
  rw [List.forall_mem_append] at shaped plain
  exact ⟨derived.wellFormed shaped.2 plain.2,
    derived.hasAssignment_eq_false
      (fun lexeme member => (shaped.2 lexeme member).wordlike) rfl⟩

end Says

theorem Phrase.Spells.says {phrase : Phrase} {opening lexemes : List Lexeme}
    {tree : Option Expr} (spelled : phrase.Spells opening lexemes tree) :
    Says opening lexemes tree := by
  cases tree with
  | none => exact spelled
  | some expr =>
      rcases spelled with ⟨inner, same, derived⟩
      exact ⟨phrase, inner, [], same, derived⟩

/-! ## What is consumed -/

namespace TokenStream

variable {start rest named last : TokenStream}

theorem AccountsCondition.exists_spelled {condition : Option Expr}
    (accounts : start.AccountsCondition condition rest) :
    ∃ lexemes, start.Passes lexemes rest ∧
      Phrase.atom.Spells [.mark '.', .identifier "if"] lexemes condition := by
  cases condition with
  | none => exact ⟨[], accounts, rfl⟩
  | some expr =>
      rcases accounts with ⟨named, passed, _, read⟩
      rcases accounts_atom read with ⟨lexemes, passedAtom, derived⟩
      exact ⟨_, passed.trans passedAtom, lexemes, rfl,
        (derived []).atom_follow []⟩

theorem AccountsCondition.exists_said {condition : Option Expr}
    (accounts : start.AccountsCondition condition rest) :
    ∃ lexemes, start.Passes lexemes rest ∧
      Says [.mark '.', .identifier "if"] lexemes condition := by
  rcases accounts.exists_spelled with ⟨lexemes, passed, spelled⟩
  exact ⟨lexemes, passed, spelled.says⟩

theorem AccountsOperand.exists_said {operand : Option Expr}
    (accounts : start.AccountsOperand operand rest) :
    ∃ lexemes, start.Passes lexemes rest ∧ Says [] lexemes operand := by
  cases operand with
  | none => exact ⟨[], accounts, rfl⟩
  | some expr =>
      rcases accounts with ⟨lexemes, passed, derived⟩
      exact ⟨lexemes, passed, _, lexemes, _, rfl, derived []⟩

variable {text : String} {lineNumber : Nat}

/-- Without radix marks lexemes of known shapes are consumed. -/
theorem shaped_of_passes {consumed : List Lexeme}
    (passed : (ofText text lineNumber .assembly).Passes consumed rest)
    (plain : ∀ lexeme ∈ consumed, lexeme.isRadix = false) :
    ∀ lexeme ∈ consumed, lexeme.Shaped .assembly :=
  (idle_ofText text lineNumber .assembly).shaped rfl rfl passed plain

/-- Behind the end of a line there is nothing but a gap. -/
theorem skips_dropWhile_newline {written ahead : List Char}
    (oneLine : '\n' ∉ written.dropLast) (behind : ahead <:+ written) :
    Grammar.assembly.Skips (ahead.dropWhile (· != '\n')) := by
  cases left : ahead.dropWhile (· != '\n') with
  | nil => exact Grammar.skips_nil _
  | cons first more =>
      have stops : first = '\n' := by
        have fails := List.head?_dropWhile_not (· != '\n') ahead
        rw [left] at fails
        simpa using fails
      have none_left : more = [] := by
        rcases (left ▸ List.dropWhile_suffix _).trans behind with
          ⟨front, rfl⟩
        cases more with
        | nil => rfl
        | cons next others =>
            refine absurd ?_ oneLine
            simp [stops]
      rw [stops, none_left]
      exact fun character member => List.mem_singleton.1 member ▸ rfl

/-- Behind a directive that takes the rest of its line there is no comment. -/
theorem silent_of_restOfLine {front : List Lexeme} {name raw : String}
    {after : Lexer} {trailing auto : Option String}
    (oneLine : '\n' ∉ text.toList.dropLast)
    (passed : (ofText text lineNumber .assembly).Passes
      (front ++ [.identifier name]) named)
    (plain : ∀ lexeme ∈ front, lexeme.isRadix = false)
    (idle : named.Idle)
    (run : Lexer.restOfLine.run named.lexer = (raw, after))
    (passedComments : ({ named with lexer := after } : TokenStream).Passes
      (commentLexemes trailing auto ++ [.finish]) last) :
    '\n' ∉ raw.toList ∧ trailing = none ∧ auto = none := by
  have reads := (idle_ofText text lineNumber .assembly).reads idle passed
  rcases reads.faces (Cursor.faces_ofText text lineNumber) with
    ⟨ahead, behind, facesAhead⟩
  have faces : named.lexer.Faces .assembly .start ahead :=
    ⟨reads.grammar_eq, reads.leaves rfl (Or.inl rfl) plain, facesAhead⟩
  rcases faces.restOfLine with ⟨other, again, facesRest⟩
  rcases Prod.mk.inj (run.symm.trans again) with ⟨rfl, rfl⟩
  constructor
  · rw [String.toList_ofList]
    exact fun member => Scan.newline_not_mem_upToNewline ahead
      ((Scan.trimReturns_isPrefixOf _).subset member)
  · rcases Lexer.gives_finish (skips_dropWhile_newline oneLine behind) after
      facesRest with ⟨finish, readsFinish, _⟩
    have idleAfter : ({ named with lexer := after } : TokenStream).Idle :=
      ⟨idle.room, idle.returned⟩
    rcases idleAfter.exists_reads passedComments with ⟨between, readsComments⟩
    have first := readsFinish.comparable readsComments (by simp)
    cases trailing with
    | some text => cases (List.cons_prefix_cons.1 first).1
    | none =>
        cases auto with
        | some text => cases (List.cons_prefix_cons.1 first).1
        | none => exact ⟨rfl, rfl⟩

theorem takes_rawOperand {name raw : String}
    (takes : Instruction.takesRawOperand ⟨name, true⟩ = true)
    (inLine : '\n' ∉ raw.toList) :
    ∀ expr ∈ rawOperand (Text.trim raw),
      Instruction.Takes ⟨name, true⟩ expr := by
  intro expr member
  unfold rawOperand at member
  split at member
  · cases member
  · next visible =>
    cases member
    rw [Instruction.Takes, if_pos takes]
    exact ⟨_, rfl, visible, isRemark_trim inLine⟩

theorem plain_rawOperand (raw : String) :
    (rawOperand raw).any Expr.hasRadix = false := by
  unfold rawOperand
  split <;> rfl

/-- Operand and comments behind the name of an instruction are as listed. -/
structure ShapedBehind (statement : Option Statement)
    (trailing auto : Option String) : Prop where
  operand : ∀ expr ∈ statement.bind Statement.operand,
    ∃ instruction ∈ statement.map Statement.instruction,
      instruction.Takes expr
  comments : ∀ lexeme ∈ commentLexemes trailing auto ++ [.finish],
    lexeme.Shaped .assembly
  silent : ∀ instruction ∈ statement.map Statement.instruction,
    instruction.takesRawOperand = true → trailing = none ∧ auto = none

/-- Behind lexemes without radix marks a statement and comments are shaped. -/
theorem AccountsStatement.shapedBehind {front : List Lexeme}
    {statement : Option Statement} {trailing auto : Option String}
    {atStatement atComments : TokenStream}
    (oneLine : '\n' ∉ text.toList.dropLast)
    (passed : (ofText text lineNumber .assembly).Passes front atStatement)
    (accounts : atStatement.AccountsStatement statement atComments)
    (passedComments : atComments.Passes
      (commentLexemes trailing auto ++ [.finish]) last)
    (plain : ∀ lexeme ∈ front, lexeme.isRadix = false)
    (plainOperand :
      (statement.bind Statement.operand).any Expr.hasRadix = false) :
    ShapedBehind statement trailing auto := by
  have plainComments := plain_commentLexemes trailing auto
  cases accounts with
  | nothing passedNothing =>
      have whole := passed.trans (passedNothing.trans passedComments)
      have shaped := shaped_of_passes whole
        (List.forall_mem_append.2 ⟨plain, plainComments⟩)
      exact
        { operand := fun _ member => nomatch member
          comments := (List.forall_mem_append.1 shaped).2
          silent := fun _ member => nomatch member }
  | @parsed instruction operand named _ passedName parsed accountsOperand =>
      rcases accountsOperand.exists_said with ⟨lexemes, passedOperand, said⟩
      have plainLexemes := (said.plain_iff
        (fun _ member => nomatch member)).2 plainOperand
      have plainName := plain_instructionLexemes (some instruction)
      have whole := passed.trans (passedName.trans
        (passedOperand.trans passedComments))
      have shaped := shaped_of_passes whole (List.forall_mem_append.2
        ⟨plain, List.forall_mem_append.2 ⟨plainName,
          List.forall_mem_append.2 ⟨plainLexemes, plainComments⟩⟩⟩)
      simp only [List.forall_mem_append] at shaped
      rcases shaped with ⟨_, _, shapedOperand, shapedComments⟩
      constructor
      · intro expr member
        refine ⟨instruction, rfl, ?_⟩
        rw [Instruction.Takes, if_neg (by simp [parsed])]
        exact said.wellFormed shapedOperand plainLexemes expr member
      · exact List.forall_mem_append.2 shapedComments
      · intro other member takes
        cases member
        exact absurd (parsed.symm.trans takes) Bool.false_ne_true
  | @taken name raw named after passedName idle takes run =>
      have whole := passed.trans passedName
      rw [Instruction.lexemes, if_pos rfl, List.append_cons] at whole
      have plainFront : ∀ lexeme ∈ front ++ [.mark '.'],
          lexeme.isRadix = false :=
        List.forall_mem_append.2 ⟨plain, List.forall_mem_singleton.2 rfl⟩
      rcases silent_of_restOfLine oneLine whole plainFront idle run
        passedComments with ⟨inLine, rfl, rfl⟩
      constructor
      · intro expr member
        simp only [Option.bind_some] at member
        exact ⟨_, rfl, takes_rawOperand takes inLine expr member⟩
      · exact List.forall_mem_singleton.2 trivial
      · exact fun _ _ _ => ⟨rfl, rfl⟩

/-- The parts of a line that is accepted can be read as such. -/
theorem AccountsLine.wellFormed {line : Line} {result : Bool × Line}
    (accounts : (ofText text lineNumber .assembly).AccountsLine line result
      last)
    (oneLine : '\n' ∉ text.toList.dropLast)
    (plain : result.2.hasRadix = false)
    (offset : line.offset = none) (leading : line.leadingComment = "") :
    result.2.WellFormed := by
  cases accounts with
  | parts passedAddress accountsCondition passedLabel accountsStatement
      passedComments conditioned same =>
  subst same
  rename_i address condition label statement trailing auto _ _ atStatement _
  rcases Bool.or_eq_false_iff.1 plain with ⟨plainCondition, plainOperand⟩
  rcases accountsCondition.exists_said with ⟨lexemes, passedCondition, said⟩
  rcases accountsStatement.passes_name with ⟨named, passedName⟩
  have passedFront := (passedAddress.trans passedCondition).trans passedLabel
  have plainLexemes := (said.plain_iff (by simp [Lexeme.isRadix])).2
    plainCondition
  have plainFront : ∀ lexeme ∈ addressLexemes address ++ lexemes ++
      labelLexemes label, lexeme.isRadix = false := by
    simp only [List.forall_mem_append]
    exact ⟨⟨plain_addressLexemes address, plainLexemes⟩,
      plain_labelLexemes label⟩
  have shaped := shaped_of_passes (passedFront.trans passedName)
    (List.forall_mem_append.2 ⟨plainFront, plain_instructionLexemes _⟩)
  simp only [List.forall_mem_append] at shaped
  rcases shaped with
    ⟨⟨⟨shapedAddress, shapedCondition⟩, shapedLabel⟩, shapedName⟩
  have behind := accountsStatement.shapedBehind oneLine passedFront
    passedComments plainFront plainOperand
  exact
    { prefixAddress := wellFormed_of_addressLexemes shapedAddress
      condition := said.wellFormed shapedCondition plainLexemes
      label := isName_of_labelLexemes shapedLabel
      instruction := by
        intro instruction member
        rw [show statement.map Statement.instruction = some instruction
          from member] at shapedName
        exact Instruction.isName_of_lexemes shapedName
      operand := behind.operand
      trailingComment := by
        refine isRemark_keptComment fun written member => ?_
        cases member
        exact (behind.comments _ List.mem_cons_self).1
      unsplit := by
        refine unsplit_keptComment fun written member => ?_
        cases member
        exact (behind.comments _ List.mem_cons_self).2
      autoComment := by
        refine isRemark_keptComment fun written member => ?_
        cases member
        exact behind.comments (.autoComment written)
          (by simp [commentLexemes])
      uncommented := by
        intro instruction member raw
        rcases behind.silent instruction member raw with ⟨rfl, rfl⟩
        exact ⟨rfl, rfl⟩
      unambiguous := by
        intro conditional
        rcases Option.map_eq_some_iff.1 conditional with ⟨found, rfl, same⟩
        refine conditioned found.operand ?_
        rw [← same]
      offset := offset
      leadingComment := leading }

theorem AccountsLine.hasInstruction_eq {line : Line} {result : Bool × Line}
    (accounts : start.AccountsLine line result last) :
    result.2.hasInstruction = result.1 := by
  cases accounts with
  | parts _ _ _ _ _ _ same =>
      subst same
      exact Option.isSome_map

theorem AccountsLine.lineNumber_eq {line : Line} {result : Bool × Line}
    (accounts : start.AccountsLine line result last) :
    result.2.lineNumber = line.lineNumber := by
  cases accounts with
  | parts _ _ _ _ _ _ same =>
      subst same
      rfl

/-- Lexemes of a text without radix marks are none. -/
theorem plain_of_passes {consumed : List Lexeme}
    (passed : (ofText text lineNumber .assembly).Passes consumed rest)
    (unmarked : ∀ token ∈ (Lexer.ofText text lineNumber .assembly).tokens.1,
      token.lexeme.isRadix = false) :
    ∀ lexeme ∈ consumed, lexeme.isRadix = false := by
  rcases (idle_ofText text lineNumber .assembly).exists_reads passed with
    ⟨between, reads⟩
  intro lexeme member
  rcases reads.mem_tokens lexeme member with rfl | ⟨token, found, rfl⟩
  · rfl
  · exact unmarked token found

theorem AccountsStatement.hasRadix_eq_false {front : List Lexeme}
    {statement : Option Statement} {atStatement : TokenStream}
    (passed : (ofText text lineNumber .assembly).Passes front atStatement)
    (accounts : atStatement.AccountsStatement statement rest)
    (unmarked : ∀ token ∈ (Lexer.ofText text lineNumber .assembly).tokens.1,
      token.lexeme.isRadix = false) :
    (statement.bind Statement.operand).any Expr.hasRadix = false := by
  cases accounts with
  | nothing => rfl
  | @taken name raw =>
      simp only [Option.bind_some]
      exact plain_rawOperand (Text.trim raw)
  | parsed passedName parsed accountsOperand =>
      rcases accountsOperand.exists_said with ⟨lexemes, passedOperand, said⟩
      have whole := (passed.trans passedName).trans passedOperand
      have plain := (List.forall_mem_append.1
        (plain_of_passes whole unmarked)).2
      exact (said.plain_iff (fun _ member => nomatch member)).1 plain

/-- A line of a text without radix marks has none. -/
theorem AccountsLine.hasRadix_eq_false {line : Line} {result : Bool × Line}
    (accounts : (ofText text lineNumber .assembly).AccountsLine line result
      last)
    (unmarked : ∀ token ∈ (Lexer.ofText text lineNumber .assembly).tokens.1,
      token.lexeme.isRadix = false) :
    result.2.hasRadix = false := by
  cases accounts with
  | parts passedAddress accountsCondition passedLabel accountsStatement
      passedComments conditioned same =>
  subst same
  rcases accountsCondition.exists_said with ⟨lexemes, passedCondition, said⟩
  have passedBefore := passedAddress.trans passedCondition
  have plainLexemes := (List.forall_mem_append.1
    (plain_of_passes passedBefore unmarked)).2
  have plainCondition := (said.plain_iff (by simp [Lexeme.isRadix])).1
    plainLexemes
  have plainOperand := accountsStatement.hasRadix_eq_false
    (passedBefore.trans passedLabel) unmarked
  exact Bool.or_eq_false_iff.2 ⟨plainCondition, plainOperand⟩

/-- What is read as an atom from a listing is its first atom. -/
theorem firstAtom?_of_answers {expr inner : Expr} {finish : Lexer}
    (idle : named.Idle) (reads : named.lexer.Reads expr.lexemes finish)
    (run : TokenStream.atom.Answers named inner rest) :
    expr.firstAtom? = some inner := by
  cases found : expr.firstAtom? with
  | some first =>
      rcases Expr.derives_firstAtom found with ⟨front, more, same, derived⟩
      rw [same] at reads
      rcases (idle.offers reads).yields_atom (derived more) with
        ⟨after, again, _⟩
      rw [(EStateM.Result.ok.inj (run.symm.trans again)).1]
  | none =>
      rcases Expr.lexemes_of_firstAtom?_eq_none found with ⟨op, others, same⟩
      rcases accounts_atom run with ⟨consumed, passed, derived⟩
      rcases (derived []).unsigned (Or.inr rfl) with
        ⟨first, more, written, unsigned⟩
      rw [List.nil_append] at written
      subst written
      rcases idle.exists_reads passed with ⟨between, readsAtom⟩
      rcases (List.singleton_append ▸ readsAtom : named.lexer.Reads
        ([first] ++ more) between).split with ⟨_, readsFirst, _⟩
      have start := readsFirst.comparable reads (by simp [same])
      rw [same] at start
      rw [(List.cons_prefix_cons.1 start).1,
        UnaryOp.ofLexeme?_eq_some_iff.2 op.signs] at unsigned
      cases unsigned

end TokenStream

/-! ## Whole lines -/

/-- A line that is read accounts for the lexemes of its text. -/
theorem Line.accounts_of_parse {text : String} {lineNumber : Nat}
    {result : Bool × Line}
    (parsed : Line.parse text lineNumber .assembly = .ok result) :
    ∃ last, (ofText text lineNumber .assembly).AccountsLine
      { rawText := String.ofList (Text.trimLineEnd text.toList)
        lineNumber := lineNumber } result last := by
  rcases answer_eq_ok parsed with ⟨last, run⟩
  exact ⟨last, accounts_assemblyLine
    (idle_ofText text lineNumber .assembly).ready run⟩

/-- A line that is read as an expression is an operand, if there is one. -/
theorem Line.accounts_of_parse_expression {text : String} {lineNumber : Nat}
    {result : Bool × Line}
    (parsed : Line.parse text lineNumber .expression = .ok result) :
    ∃ operand rest,
      (ofText text lineNumber .expression).AccountsOperand operand rest ∧
      result = (operand.isSome,
        { rawText := String.ofList (Text.trimLineEnd text.toList)
          lineNumber := lineNumber
          operand := operand }) := by
  rcases answer_eq_ok parsed with ⟨last, answers⟩
  have run : (expressionLine _).Answers _ result last := answers
  rcases run.bind with ⟨operand, rest, read, later⟩
  refine ⟨operand, rest, accounts_operand read, ?_⟩
  rcases later.bind with ⟨token, _, _, more⟩
  split at more
  · rcases more.bind with ⟨_, _, _, answered⟩
    exact answered.pure.1
  · rcases more.bind with ⟨_, _, _, behind⟩
    rcases behind.bind with ⟨_, _, _, answered⟩
    exact answered.pure.1

/-- A condition that is read from a listing is the first atom of it. -/
theorem Line.WellFormed.firstAtom?_condition {line : Line}
    (shape : line.WellFormed) {has : Bool} {raw : String}
    (again : Line.parse line.listing line.lineNumber .assembly =
      .ok (has, { line with rawText := raw })) :
    ∀ expr ∈ line.condition, expr.firstAtom? = some expr := by
  intro expr member
  rcases Line.accounts_of_parse again with ⟨last, accounts⟩
  cases accounts with
  | @parts address condition _ _ _ _ _ atLabel _ _ passedAddress
      accountsCondition _ _ _ _ same =>
  have sameAddress : line.prefixAddress = address :=
    congrArg (fun result => result.2.prefixAddress) same
  have sameCondition : some expr = condition :=
    member.symm.trans (congrArg (fun result => result.2.condition) same)
  subst sameAddress sameCondition
  rcases accountsCondition with ⟨named, passedName, idle, run⟩
  have readsName := (idle_ofText line.listing line.lineNumber .assembly).reads
    idle (passedAddress.trans passedName)
  -- The listing has the same lexemes in front of the condition.
  rcases shape.exists_reads_front with ⟨_, between, _, reads, _⟩
  have front : line.frontLexemes =
      (addressLexemes line.prefixAddress ++ [.mark '.', .identifier "if"]) ++
        (expr.lexemes ++ (labelLexemes line.label ++
          instructionLexemes line.instruction)) := by
    rw [Line.frontLexemes, show line.condition = some expr from member]
    simp [conditionLexemes]
  rw [front] at reads
  rcases reads.split with ⟨atCondition, readsFront, readsCondition⟩
  rw [← readsName.deterministic readsFront] at readsCondition
  rcases readsCondition.split with ⟨finish, readsExpr, _⟩
  exact firstAtom?_of_answers idle readsExpr run

/--
A line that is accepted without radix marks is read from its listing as it is,
apart from its raw text, if and only if its condition is a single lexeme.  A
radix mark in an operand that is taken as it is does not matter.
-/
theorem Line.parse_listing_iff_leaf {text : String} {lineNumber : Nat}
    {has : Bool} {line : Line}
    (accepted : Line.parse text lineNumber .assembly = .ok (has, line))
    (oneLine : '\n' ∉ text.toList.dropLast)
    (plain : (∀ token ∈ (Lexer.ofText text lineNumber .assembly).tokens.1,
      token.lexeme.isRadix = false) ∨ line.hasRadix = false) :
    (∃ raw, Line.parse line.listing lineNumber .assembly =
      .ok (has, { line with rawText := raw })) ↔
      ∀ expr ∈ line.condition, expr.isLeaf = true := by
  rcases Line.accounts_of_parse accepted with ⟨last, accounts⟩
  have withoutRadix : line.hasRadix = false := by
    rcases plain with unmarked | without
    · exact accounts.hasRadix_eq_false unmarked
    · exact without
  have shape : line.WellFormed :=
    accounts.wellFormed oneLine withoutRadix rfl rfl
  have acts : line.hasInstruction = has := accounts.hasInstruction_eq
  have numbered : line.lineNumber = lineNumber := accounts.lineNumber_eq
  subst acts numbered
  constructor
  · intro again expr member
    rcases again with ⟨raw, parsed⟩
    exact Expr.firstAtom?_eq_self_iff.1
      (shape.firstAtom?_condition parsed expr member)
  · intro leaf
    let raw := String.ofList (Text.trimLineEnd line.listing.toList)
    rcases shape.yields_listing leaf raw with ⟨finish, yields⟩
    exact ⟨raw, yields.answer_eq⟩

/-- A condition in parentheses loses them in its listing. -/
theorem Line.parse_listing_sum :
    ∃ line : Line,
      Line.parse ".if (a + b) c" 1 .assembly = .ok (true, line) ∧
      line.listing = ".if a + b c" ∧
      ¬∃ raw, Line.parse line.listing 1 .assembly =
        .ok (true, { line with rawText := raw }) := by
  let line : Line :=
    { rawText := ".if (a + b) c"
      lineNumber := 1
      condition := some (.binary .plus (.identifier "a") (.identifier "b"))
      instruction := some ⟨"c", false⟩ }
  have accepted : Line.parse ".if (a + b) c" 1 .assembly = .ok (true, line) :=
    Except.eq_ok_of_toOption (by decide +kernel)
  refine ⟨line, accepted, by decide +kernel, ?_⟩
  intro again
  have leaf := (Line.parse_listing_iff_leaf accepted (by decide +kernel)
    (Or.inl (by decide +kernel))).1 again _ rfl
  cases leaf

end Whirlwind
