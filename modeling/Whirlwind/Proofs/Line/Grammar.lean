import Mathlib.Data.List.Chain
import Whirlwind.Proofs.Line.Marks

/-!
# The grammar of lines of assembly source

A line of assembly source has a prefix address, a condition, a label, a
statement and two comments, in this order, and any of them may be left out.
`LineParts.Reads` says from which lexemes these parts are read.  The parser
accepts exactly the lines with such a reading (`Line.parse_eq_ok_iff_reads`).

Lexemes alone do not decide where a directive takes the rest of its line as it
is, so no such directive is named.  All else is decided by them: a line has at
most one reading.
-/

namespace Whirlwind

open TokenStream Lexer

/-! ## Parts and their lexemes -/

/-- The parts of a line of assembly source, with comments as they are written. -/
structure LineParts where
  address : Option PrefixAddress
  condition : Option Expr
  label : Option String
  statement : Option Statement
  trailing : Option String
  auto : Option String
  deriving DecidableEq, Repr

namespace LineParts

/-- A line into which the parts are filled. -/
def fill (parts : LineParts) (line : Line) : Line :=
  { line with
    prefixAddress := parts.address
    condition := parts.condition
    label := parts.label
    instruction := parts.statement.map Statement.instruction
    operand := parts.statement.bind Statement.operand
    trailingComment := keptComment parts.trailing
    autoComment := keptComment parts.auto }

/-- What a text with the parts is read as. -/
def answer (parts : LineParts) (text : String) (lineNumber : Nat) :
    Bool × Line :=
  (parts.statement.isSome,
    parts.fill
      { rawText := String.ofList (Text.trimLineEnd text.toList)
        lineNumber := lineNumber })

/-- The lexemes behind the condition of a line, given those of the operand. -/
def lexemesBehind (parts : LineParts) (operand : List Lexeme) : List Lexeme :=
  labelLexemes parts.label ++
    (instructionLexemes (parts.statement.map Statement.instruction) ++
      (operand ++ commentLexemes parts.trailing parts.auto))

/--
Lexemes are those of the parts of a line, one behind the other.  Behind the
prefix address a dot and `if` are always a condition.
-/
structure Reads (parts : LineParts) (lexemes : List Lexeme) : Prop where
  spelled : ∃ condition operand,
    Phrase.atom.Spells [.mark '.', .identifier "if"] condition
      parts.condition ∧
    Phrase.list.Spells [] operand (parts.statement.bind Statement.operand) ∧
    lexemes = addressLexemes parts.address ++
      (condition ++ parts.lexemesBehind operand)
  conditional : ∀ behind,
    lexemes = addressLexemes parts.address ++
      .mark '.' :: .identifier "if" :: behind →
    parts.condition.isSome = true

end LineParts

/--
Nowhere does the name of a directive that takes the rest of its line stand
right behind a dot.
-/
def Untaken (lexemes : List Lexeme) : Prop :=
  ∀ name ∈ Instruction.rawDirectives,
    ¬[.mark '.', .identifier name] <:+: lexemes

instance (lexemes : List Lexeme) : Decidable (Untaken lexemes) :=
  inferInstanceAs (Decidable (∀ name ∈ Instruction.rawDirectives, _))

theorem commentLexemes_inj {trailing auto other otherAuto : Option String}
    (same : commentLexemes trailing auto = commentLexemes other otherAuto) :
    trailing = other ∧ auto = otherAuto := by
  cases trailing <;> cases auto <;> cases other <;> cases otherAuto <;>
    simp_all [commentLexemes]

namespace LineParts

variable {parts : LineParts} {lexemes : List Lexeme}

/-- In front of its comments a line is made of what phrases are made of. -/
theorem Reads.exists_front (reads : parts.Reads lexemes) :
    ∃ front, lexemes = front ++ commentLexemes parts.trailing parts.auto ∧
      ∀ lexeme ∈ front, Derives.Builds lexeme := by
  rcases reads.spelled with ⟨condition, operand, spelled, said, rfl⟩
  refine ⟨addressLexemes parts.address ++ (condition ++
    (labelLexemes parts.label ++ (instructionLexemes
      (parts.statement.map Statement.instruction) ++ operand))), ?_, ?_⟩
  · simp only [lexemesBehind, List.append_assoc]
  · simp only [List.forall_mem_append]
    exact ⟨builds_addressLexemes _, spelled.says.builds (by
      simp [Derives.Builds]), builds_labelLexemes _,
      builds_instructionLexemes _,
      said.says.builds fun _ member => nomatch member⟩

end LineParts

/-! ## Colons -/

/-- Lexemes in which a name in front of a colon is a label. -/
structure Labelled (label : Option String) (lexemes : List Lexeme) : Prop where
  chain : lexemes.IsChain fun one next =>
    next = .mark ':' → ∀ name, one = .identifier name → label = some name
  apart : lexemes.head? ≠ some (.mark ':')

namespace Labelled

variable {label : Option String} {lexemes front back : List Lexeme}

/-- A lexeme in front of others, which do not start with a colon. -/
theorem cons (first : Lexeme) (uncoloned : first ≠ .mark ':')
    (labelled : Labelled label lexemes) : Labelled label (first :: lexemes) :=
  ⟨List.isChain_cons.2 ⟨fun _ isNext colon =>
      absurd (colon ▸ isNext) labelled.apart, labelled.chain⟩,
    fun same => uncoloned (Option.some.inj same)⟩

theorem append (absent : .mark ':' ∉ front) (labelled : Labelled label back) :
    Labelled label (front ++ back) := by
  induction front with
  | nil => exact labelled
  | cons first front ih =>
      rw [List.mem_cons, not_or] at absent
      exact (ih absent.2).cons first (Ne.symm absent.1)

theorem of_not_mem (absent : .mark ':' ∉ lexemes) : Labelled label lexemes := by
  have empty : Labelled label [] := ⟨.nil, by simp⟩
  simpa using empty.append absent

/-- A lexeme and a colon, which makes a label of the lexeme if it is a name. -/
theorem colon (first : Lexeme) (uncoloned : first ≠ .mark ':')
    (labels : ∀ name, first = .identifier name → label = some name)
    (labelled : Labelled label lexemes) :
    Labelled label (first :: .mark ':' :: lexemes) :=
  ⟨.cons_cons (fun _ => labels)
      (List.isChain_cons.2 ⟨fun _ isNext colon =>
        absurd (colon ▸ isNext) labelled.apart, labelled.chain⟩),
    fun same => uncoloned (Option.some.inj same)⟩

theorem labelLexemes (labelled : Labelled label lexemes) :
    Labelled label (Whirlwind.labelLexemes label ++ lexemes) := by
  cases label with
  | none => exact labelled
  | some name =>
      exact labelled.colon _ Lexeme.noConfusion fun other same =>
        congrArg some (Lexeme.identifier.inj same)

theorem addressLexemes (address : Option PrefixAddress)
    (labelled : Labelled label lexemes) :
    Labelled label (Whirlwind.addressLexemes address ++ lexemes) := by
  cases address with
  | none => exact labelled
  | some place =>
      rcases place with ⟨digits, offset, contents⟩
      have rest := labelled.cons (.digits contents) Lexeme.noConfusion
      cases offset with
      | none =>
          exact (rest.colon (.digits digits) Lexeme.noConfusion
            fun _ => Lexeme.noConfusion).cons (.mark '@') (by simp)
      | some offset =>
          exact (((rest.colon (.digits offset) Lexeme.noConfusion
            fun _ => Lexeme.noConfusion).cons (.mark '.') (by simp)).cons
            (.digits digits) Lexeme.noConfusion).cons (.mark '@') (by simp)

end Labelled

/-- There is no colon in a phrase. -/
theorem Derives.colon_not_mem {phrase : Phrase}
    {lexemes follow : List Lexeme} {expr : Expr}
    (derived : Derives phrase lexemes follow expr) : .mark ':' ∉ lexemes := by
  induction derived with
  | tighter _ _ ih => exact ih
  | joinLeft joins _ _ _ _ ihLeft ihRight
  | joinRight joins _ _ _ _ ihLeft ihRight =>
      cases joins <;> simp [ihLeft, ihRight]
  | sign signs _ ih => cases signs <;> simp [ih]
  | apply _ _ ihCallee ihArguments => simp [ihCallee, ihArguments]
  | group _ ih => simp [ih]
  | zero | identifier | digits | string => simp

theorem Phrase.Spells.colon_not_mem {phrase : Phrase}
    {opening lexemes : List Lexeme} {tree : Option Expr}
    (spelled : phrase.Spells opening lexemes tree)
    (absent : .mark ':' ∉ opening) : .mark ':' ∉ lexemes := by
  cases tree with
  | none =>
      cases spelled
      exact List.not_mem_nil
  | some expr =>
      rcases spelled with ⟨inner, rfl, derived⟩
      exact List.not_mem_append absent derived.colon_not_mem

namespace LineParts

variable {parts : LineParts} {lexemes : List Lexeme}

theorem Reads.labelled (reads : parts.Reads lexemes) :
    Labelled parts.label lexemes := by
  rcases reads.spelled with ⟨condition, operand, spelled, said, rfl⟩
  have comments : .mark ':' ∉ commentLexemes parts.trailing parts.auto := by
    cases parts.trailing <;> cases parts.auto <;> simp [commentLexemes]
  have instruction : .mark ':' ∉
      instructionLexemes (parts.statement.map Statement.instruction) := by
    rcases parts.statement with _ | ⟨⟨name, directive⟩, _⟩
    · exact List.not_mem_nil
    · cases directive <;> simp [instructionLexemes, Instruction.lexemes]
  have operandOnly := said.colon_not_mem List.not_mem_nil
  have behind : Labelled parts.label _ := .of_not_mem
    (List.not_mem_append instruction
      (List.not_mem_append operandOnly comments))
  exact (behind.labelLexemes.append
    (spelled.colon_not_mem (by simp))).addressLexemes _

/-- A name right in front of a colon is the label. -/
theorem Reads.label_eq (reads : parts.Reads lexemes)
    {front behind : List Lexeme} {name : String}
    (same : lexemes = front ++ .identifier name :: .mark ':' :: behind) :
    parts.label = some name :=
  List.isChain_iff_forall_rel_of_append_cons_cons.1 reads.labelled.chain same
    rfl name rfl

end LineParts

/-! ## Lines with a reading are accepted -/

theorem Statement.option_ext {one other : Option Statement}
    (named : one.map Statement.instruction = other.map Statement.instruction)
    (operand : one.bind Statement.operand = other.bind Statement.operand) :
    one = other := by
  cases one with
  | none =>
      cases other with
      | none => rfl
      | some told => cases named
  | some told =>
      cases other with
      | none => cases named
      | some otherTold =>
          cases told
          cases otherTold
          cases named
          cases operand
          rfl

/-- A dot and `if` start what is behind a condition only as a directive. -/
theorem LineParts.starts_if_iff {parts : LineParts} {operand : List Lexeme}
    (said : Phrase.list.Spells [] operand
      (parts.statement.bind Statement.operand)) :
    (∃ behind, parts.lexemesBehind operand =
      .mark '.' :: .identifier "if" :: behind) ↔
    parts.label = none ∧
      ∃ operand, parts.statement = some ⟨⟨"if", true⟩, operand⟩ := by
  rcases parts with ⟨address, condition, label, statement, trailing, auto⟩
  unfold lexemesBehind
  constructor
  · rintro ⟨behind, same⟩
    cases label with
    | some name => cases same
    | none =>
        refine ⟨rfl, ?_⟩
        rcases statement with _ | ⟨⟨name, directive⟩, tree⟩
        · cases said
          cases trailing <;> cases auto <;>
            simp [labelLexemes, instructionLexemes, commentLexemes] at same
        · cases directive with
          | false => cases same
          | true =>
              obtain rfl : name = "if" := by
                simpa [labelLexemes, instructionLexemes, Instruction.lexemes]
                  using (List.cons.inj (List.cons.inj same).2).1
              exact ⟨tree, rfl⟩
  · rintro ⟨rfl, tree, rfl⟩
    exact ⟨_, rfl⟩

/--
Where the parts of a line are spelled, a dot and `if` behind the address are a
condition if and only if a directive of this name has something in front of it.
-/
theorem LineParts.conditioned_iff {parts : LineParts}
    {lexemes condition operand : List Lexeme}
    (spelled : Phrase.atom.Spells [.mark '.', .identifier "if"] condition
      parts.condition)
    (said : Phrase.list.Spells [] operand
      (parts.statement.bind Statement.operand))
    (same : lexemes = addressLexemes parts.address ++
      (condition ++ parts.lexemesBehind operand)) :
    Tells.Conditioned parts.condition parts.label parts.statement ↔
      ∀ behind,
        lexemes = addressLexemes parts.address ++
          .mark '.' :: .identifier "if" :: behind →
        parts.condition.isSome = true := by
  subst same
  simp only [List.append_cancel_left_eq]
  cases given : parts.condition with
  | some expr => exact iff_of_true (fun _ _ => Or.inl rfl) fun _ _ => rfl
  | none =>
      rw [given] at spelled
      cases spelled
      have starts := starts_if_iff said
      constructor
      · intro conditioned behind same
        rcases starts.1 ⟨behind, same⟩ with ⟨unlabelled, tree, named⟩
        rcases conditioned tree named with absent | found
        · exact absent
        · rw [unlabelled] at found
          cases found
      · intro conditional tree named
        cases unlabelled : parts.label with
        | some name => exact Or.inr rfl
        | none =>
            rcases starts.2 ⟨unlabelled, tree, named⟩ with ⟨behind, same⟩
            exact Or.inl (conditional behind same)

namespace LineParts

variable {parts other : LineParts} {lexemes : List Lexeme}

/-- Without a directive that takes the rest of its line operands are parsed. -/
theorem Reads.parsed (reads : parts.Reads lexemes) (untaken : Untaken lexemes) :
    ∀ told ∈ parts.statement, told.instruction.takesRawOperand = false := by
  rcases reads.spelled with ⟨condition, operand, _, _, rfl⟩
  intro told member
  rcases told with ⟨⟨name, directive⟩, tree⟩
  by_contra taken
  rw [Bool.not_eq_false, Instruction.takesRawOperand, Bool.and_eq_true,
    List.contains_iff_mem] at taken
  rcases taken with ⟨rfl, raw⟩
  refine untaken name raw ⟨addressLexemes parts.address ++ (condition ++
    labelLexemes parts.label),
    operand ++ commentLexemes parts.trailing parts.auto, ?_⟩
  rw [lexemesBehind, show parts.statement = _ from member]
  simp [instructionLexemes, Instruction.lexemes]

/-- Lexemes with a reading are read as a line with its parts. -/
theorem Reads.yields (reads : parts.Reads lexemes) (untaken : Untaken lexemes)
    {start : TokenStream} {last : Lexer}
    (offers : start.Offers (lexemes ++ [.finish]) last) (line : Line) :
    (assemblyLine line).Yields start
      (parts.statement.isSome, parts.fill line) [] last := by
  have parsed := reads.parsed untaken
  rcases reads.spelled with ⟨condition, operand, spelled, said, same⟩
  have conditioned := (conditioned_iff spelled said same).2 reads.conditional
  have tells : Tells parts.statement _ last _ last := .of_parsed parsed said
    (endsOperand_comments parts.trailing parts.auto)
  rw [same, lexemesBehind] at offers
  simp only [List.append_assoc] at offers
  exact offers.yields_assemblyLine line tells spelled conditioned

/-- All parts but the comments, which lose blanks, can be told from the line. -/
theorem eq_of_fill_eq {line : Line} (same : parts.fill line = other.fill line)
    (trailing : parts.trailing = other.trailing)
    (auto : parts.auto = other.auto) : parts = other := by
  rcases parts with ⟨_, _, _, statement, _, _⟩
  rcases other with ⟨_, _, _, otherStatement, _, _⟩
  simp only [fill, Line.mk.injEq] at same trailing auto
  rcases same with ⟨_, _, _, rfl, rfl, rfl, named, operand, _⟩
  rw [trailing, auto, Statement.option_ext named operand]

/-- Lexemes in front of the end of a text have no more than one reading. -/
theorem Reads.unique (reads : parts.Reads lexemes)
    (readsOther : other.Reads lexemes) (untaken : Untaken lexemes)
    {start : TokenStream} {last : Lexer}
    (offers : start.Offers (lexemes ++ [.finish]) last) : parts = other := by
  rcases reads.yields untaken offers {} with ⟨after, run, _⟩
  rcases readsOther.yields untaken offers {} with ⟨_, again, _⟩
  have answers := (EStateM.Result.ok.inj (run.symm.trans again)).1
  rcases reads.exists_front with ⟨front, same, builds⟩
  rcases readsOther.exists_front with ⟨otherFront, sameOther, buildsOther⟩
  have comments := same.symm.trans sameOther
  have ends := fun trailing auto =>
    (List.forall_mem_append.1 (not_builds_of_comments trailing auto)).1
  obtain rfl := eq_of_append_comments comments builds buildsOther (ends _ _)
    (ends _ _)
  rcases commentLexemes_inj (List.append_cancel_left comments) with
    ⟨trailing, auto⟩
  exact eq_of_fill_eq (congrArg Prod.snd answers) trailing auto

end LineParts

/-! ## Lines that are accepted have a reading -/

namespace TokenStream

variable {start rest last : TokenStream}

/-- What stands in front of the comments is an operand, if there is one. -/
theorem AccountsOperand.exists_spelled {operand : Option Expr}
    {trailing auto : Option String}
    (accounts : start.AccountsOperand operand rest)
    (passed : rest.Passes (commentLexemes trailing auto ++ [.finish]) last) :
    ∃ lexemes, start.Passes lexemes rest ∧
      Phrase.list.Spells [] lexemes operand := by
  cases operand with
  | none => exact ⟨[], accounts, rfl⟩
  | some expr =>
      rcases accounts with ⟨lexemes, passedOperand, derived⟩
      refine ⟨lexemes, passedOperand, lexemes, rfl,
        (derived []).follow_congr fun closes => ?_⟩
      rcases endsOperand_comments trailing auto with ⟨first, more, same, apart⟩
      rw [same] at passed
      rw [List.append_nil] at closes
      cases ahead : rest.pending with
      | nil =>
          rw [ahead] at closes
          cases closes
      | cons lexeme behind =>
          rw [ahead] at closes
          cases closes
          rw [← eq_of_passes_pending ahead passed] at apart
          cases apart

/-- A directive that takes the rest of its line is consumed up to its name. -/
def TakesBehind (start : TokenStream) : Prop :=
  ∃ name ∈ Instruction.rawDirectives, ∃ named : TokenStream,
    start.Passes [.mark '.', .identifier name] named

/-- A statement is parsed, unless a directive takes the rest of its line. -/
theorem AccountsStatement.exists_spelled {statement : Option Statement}
    {trailing auto : Option String}
    (accounts : start.AccountsStatement statement rest)
    (passed : rest.Passes (commentLexemes trailing auto ++ [.finish]) last) :
    start.TakesBehind ∨
    ∃ operand, Phrase.list.Spells [] operand
        (statement.bind Statement.operand) ∧
      start.Passes (instructionLexemes (statement.map Statement.instruction) ++
        operand) rest := by
  cases accounts with
  | nothing passedNothing => exact Or.inr ⟨[], rfl, passedNothing⟩
  | parsed passedName _ accountsOperand =>
      rcases accountsOperand.exists_spelled passed with
        ⟨operand, passedOperand, spelled⟩
      exact Or.inr ⟨operand, spelled, passedName.trans passedOperand⟩
  | @taken name _ named _ passedName _ takes =>
      have raw : name ∈ Instruction.rawDirectives := by
        simpa [Instruction.takesRawOperand] using takes
      exact Or.inl ⟨name, raw, named, passedName⟩

variable {text : String} {lineNumber : Nat} {lexemes : List Lexeme}
  {after : Lexer}

/-- Lexemes that are consumed, of which none is the last one, start a text. -/
theorem start_of_passes {consumed : List Lexeme}
    (reads : (Lexer.ofText text lineNumber .assembly).Reads
      (lexemes ++ [.finish]) after)
    (passed : (ofText text lineNumber .assembly).Passes consumed rest)
    (absent : .finish ∉ consumed) : consumed <+: lexemes := by
  rcases (idle_ofText text lineNumber .assembly).exists_reads passed with
    ⟨between, readsConsumed⟩
  rcases Nat.le_total consumed.length (lexemes ++ [Lexeme.finish]).length with
    shorter | longer
  · rcases List.prefix_concat_iff.1 (readsConsumed.comparable reads shorter)
      with same | inside
    · exact absurd (by simp [same]) absent
    · exact inside
  · have front := reads.comparable readsConsumed longer
    exact absurd (front.subset (by simp)) absent

/-- Where no directive that takes the rest of its line is named, none does. -/
theorem not_takesBehind {front : List Lexeme}
    (reads : (Lexer.ofText text lineNumber .assembly).Reads
      (lexemes ++ [.finish]) after)
    (untaken : Untaken lexemes)
    (passed : (ofText text lineNumber .assembly).Passes front start)
    (builds : ∀ lexeme ∈ front, Derives.Builds lexeme) :
    ¬start.TakesBehind := by
  rintro ⟨name, raw, named, passedName⟩
  have buildsName : ∀ lexeme ∈ front ++ [.mark '.', .identifier name],
      Derives.Builds lexeme :=
    List.forall_mem_append.2 ⟨builds, builds_instruction ⟨name, true⟩⟩
  have starts := start_of_passes reads (passed.trans passedName)
    fun member => buildsName _ member
  have inside := (List.suffix_append front _).isInfix.trans starts.isInfix
  exact untaken name raw inside

/-- The parts of a line that is accepted are a reading of its lexemes. -/
theorem AccountsLine.exists_reads {line : Line} {result : Bool × Line}
    (reads : (Lexer.ofText text lineNumber .assembly).Reads
      (lexemes ++ [.finish]) after)
    (endless : .finish ∉ lexemes) (untaken : Untaken lexemes)
    (accounts : (ofText text lineNumber .assembly).AccountsLine line result
      last) :
    ∃ parts : LineParts, parts.Reads lexemes ∧
      result = (parts.statement.isSome, parts.fill line) := by
  cases accounts with
  | @parts address condition label statement trailing auto _ _ _ _
      passedAddress accountsCondition passedLabel accountsStatement
      passedComments conditioned same =>
  rcases accountsCondition.exists_spelled with ⟨spelling, passed, spelled⟩
  have passedFront := (passedAddress.trans passed).trans passedLabel
  rcases accountsStatement.exists_spelled passedComments with
    takes | ⟨operand, said, passedStatement⟩
  · have builds : ∀ lexeme ∈ addressLexemes address ++ spelling ++
        labelLexemes label, Derives.Builds lexeme := by
      simp only [List.forall_mem_append]
      exact ⟨⟨builds_addressLexemes address, spelled.says.builds (by
        simp [Derives.Builds])⟩, builds_labelLexemes label⟩
    exact absurd takes (not_takesBehind reads untaken passedFront builds)
  · let parts : LineParts :=
      ⟨address, condition, label, statement, trailing, auto⟩
    have partsRead : parts.Reads _ :=
      { spelled := ⟨spelling, operand, spelled, said, rfl⟩
        conditional := (LineParts.conditioned_iff spelled said rfl).1
          conditioned }
    have whole : (ofText text lineNumber .assembly).Passes
        ((addressLexemes address ++ (spelling ++
          parts.lexemesBehind operand)) ++ [.finish]) last := by
      simpa [LineParts.lexemesBehind, parts] using
        passedFront.trans (passedStatement.trans passedComments)
    rcases (idle_ofText text lineNumber .assembly).exists_reads whole with
      ⟨between, readsParts⟩
    rcases partsRead.exists_front with ⟨front, cut, builds⟩
    have absent := cut ▸ finish_not_mem_comments builds
    rw [reads.unique_of_finish readsParts endless absent]
    exact ⟨parts, partsRead, same⟩

end TokenStream

/-! ## Exactly the grammar -/

/--
A text that is tokenized without error, and names no directive that takes the
rest of its line, is accepted as a line of assembly source if and only if its
lexemes have a reading, and is read as the parts of it.  There is only one
reading, and in it each name right in front of a colon is the label.
-/
theorem Line.parse_eq_ok_iff_reads {text : String} {lineNumber : Nat}
    {tokens : List Token}
    (tokenized : (Lexer.ofText text lineNumber .assembly).tokens =
      (tokens, none))
    (untaken : Untaken (tokens.map Token.lexeme)) :
    (∀ answer, Line.parse text lineNumber .assembly = .ok answer ↔
      ∃ parts : LineParts, parts.Reads (tokens.map Token.lexeme) ∧
        answer = parts.answer text lineNumber) ∧
    (∀ one other : LineParts, one.Reads (tokens.map Token.lexeme) →
      other.Reads (tokens.map Token.lexeme) → one = other) ∧
    ∀ parts : LineParts, parts.Reads (tokens.map Token.lexeme) →
      ∀ front name behind, tokens.map Token.lexeme =
        front ++ .identifier name :: .mark ':' :: behind →
      parts.label = some name := by
  rcases Lexer.reads_of_tokens tokenized with ⟨endless, last, reads⟩
  have offers := offers_ofText reads
  refine ⟨fun answer => ⟨?_, ?_⟩, ?_, ?_⟩
  · intro parsed
    rcases Line.accounts_of_parse parsed with ⟨rest, accounts⟩
    exact accounts.exists_reads reads endless untaken
  · rintro ⟨parts, readsParts, rfl⟩
    exact (readsParts.yields untaken offers _).answer_eq
  · intro one other readsOne readsOther
    exact readsOne.unique readsOther untaken offers
  · intro parts readsParts front name behind same
    exact readsParts.label_eq same

/-- A line with all parts is read as they are, and has no other reading. -/
theorem Line.parse_eq_ok_iff_reads_all :
    let text := "@12.3:4 .if (a|b) x: .foo c+1 ; why @@ how"
    let line : Line :=
      { rawText := text
        lineNumber := 1
        prefixAddress := some ⟨"12", some "3", "4"⟩
        condition := some (.binary .bitOr (.identifier "a") (.identifier "b"))
        label := some "x"
        instruction := some ⟨"foo", true⟩
        operand := some (.binary .plus (.identifier "c") (.digits "1"))
        trailingComment := "why"
        autoComment := "how" }
    ∃ tokens, (Lexer.ofText text 1 .assembly).tokens = (tokens, none) ∧
      Untaken (tokens.map Token.lexeme) ∧
      ∃ parts : LineParts, parts.Reads (tokens.map Token.lexeme) ∧
        parts.answer text 1 = (true, line) ∧ parts.label = some "x" ∧
        ∀ other : LineParts,
          other.Reads (tokens.map Token.lexeme) → other = parts := by
  intro text line
  let lexemes := (Lexer.ofText text 1 .assembly).tokens.1.map Token.lexeme
  have tokenized : (Lexer.ofText text 1 .assembly).tokens =
      ((Lexer.ofText text 1 .assembly).tokens.1, none) := by
    decide +kernel
  have untaken : Untaken lexemes := by decide +kernel
  have colon : lexemes = lexemes.take 13 ++
      .identifier "x" :: .mark ':' :: lexemes.drop 15 := by
    decide +kernel
  have accepted : Line.parse text 1 .assembly = .ok (true, line) :=
    Except.eq_ok_of_toOption (by decide +kernel)
  rcases Line.parse_eq_ok_iff_reads tokenized untaken with
    ⟨accepts, unique, labels⟩
  rcases (accepts _).1 accepted with ⟨parts, reads, same⟩
  exact ⟨_, tokenized, untaken, parts, reads, same.symm,
    labels parts reads _ _ _ colon,
    fun other readsOther => unique other parts readsOther reads⟩

end Whirlwind
