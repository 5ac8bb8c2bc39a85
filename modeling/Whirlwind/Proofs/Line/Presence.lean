import Whirlwind.Proofs.Line.Command
import Whirlwind.Proofs.Tape.Record

/-!
# The fields that a notation fills

Each notation fills some of the fields of a line and leaves the others as they
are (`Grammar.fields`).  A line that is accepted has something to act on if and
only if it has the name of an instruction, for no name is empty, and has no
operand without one.  Only an expression is an operand alone, and is acted on if
it is there (`Line.fields_of_parse`).
-/

namespace Whirlwind

open TokenStream Reading

namespace Line

/-- What may be said by a line besides its text and its number. -/
inductive Field where
  | offset
  | prefixAddress
  | condition
  | label
  | opcode
  | directive
  | operand
  | leadingComment
  | trailingComment
  | autoComment
  deriving DecidableEq, Repr

/-- Whether a line has something in a field. -/
def fills (line : Line) : Field → Bool
  | .offset => line.offset.isSome
  | .prefixAddress => line.prefixAddress.isSome
  | .condition => line.condition.isSome
  | .label => line.label.isSome
  | .opcode => line.opcode ≠ ""
  | .directive => line.isDirective
  | .operand => line.operand.isSome
  | .leadingComment => line.leadingComment ≠ ""
  | .trailingComment => line.trailingComment ≠ ""
  | .autoComment => line.autoComment ≠ ""

end Line

/-- The fields of a line that a notation can fill. -/
def Grammar.fields : Grammar → List Line.Field
  | .assembly =>
      [.prefixAddress, .condition, .label, .opcode, .directive, .operand,
        .trailingComment, .autoComment]
  | .tape =>
      [.offset, .opcode, .directive, .operand, .leadingComment,
        .trailingComment]
  | .debugger => [.opcode, .operand]
  | .expression => [.operand]

/-! ## What lines are made of -/

/-- The instruction of a statement, if there is one, has a name. -/
def Named (statement : Option Statement) : Prop :=
  ∀ stated ∈ statement, stated.instruction.name ≠ ""

/-- A line of which only the text and the number are known. -/
def Line.blank (text : String) (lineNumber : Nat) : Line where
  rawText := String.ofList (Text.trimLineEnd text.toList)
  lineNumber := lineNumber

/-- The parts of which a notation makes a line, and how it is acted on. -/
inductive Line.Made (blank : Line) : Grammar → Bool → Line → Prop where
  | assembly {statement : Option Statement} (named : Named statement)
      (address : Option PrefixAddress) (condition : Option Expr)
      (label : Option String) (trailing auto : String) :
      Made blank .assembly statement.isSome
        { blank.withStatement statement with
          prefixAddress := address
          condition := condition
          label := label
          trailingComment := trailing
          autoComment := auto }
  | tape {statement : Option Statement} (named : Named statement)
      (offset : Option Int64) (leading trailing : String) :
      Made blank .tape statement.isSome
        { blank.withStatement statement with
          leadingComment := leading
          offset := offset
          trailingComment := trailing }
  | debugger {statement : Option Statement} (named : Named statement)
      (plain : ∀ stated ∈ statement, stated.instruction.isDirective = false) :
      Made blank .debugger statement.isSome (blank.withStatement statement)
  | expression (operand : Option Expr) :
      Made blank .expression operand.isSome { blank with operand := operand }

theorem named_none : Named none :=
  fun _ member => nomatch member

/-- A name that has been read is not empty. -/
theorem TokenStream.AccountsStatement.named {base start rest : TokenStream}
    {front : List Lexeme} {statement : Option Statement} (idle : base.Idle)
    (words : base.lexer.grammar.hasRuns = false)
    (passed : base.Passes front start)
    (accounts : start.AccountsStatement statement rest) : Named statement := by
  rintro ⟨instruction, operand⟩ ⟨⟩ empty
  rcases accounts.passes_name with ⟨named, passedName⟩
  have member : .identifier instruction.name ∈ front ++
      instructionLexemes (some instruction) := by
    refine List.mem_append_right _ ?_
    rcases instruction with ⟨name, directive⟩
    cases directive <;> simp [instructionLexemes, Instruction.lexemes]
  have word : IsWord instruction.name :=
    idle.wordlike words (passed.trans passedName) _ member
  rcases word.2 with ⟨character, inside, _⟩
  rw [show instruction.name = "" from empty] at inside
  cases inside

theorem Line.made_of_assembly {text : String} {lineNumber : Nat} {has : Bool}
    {line : Line}
    (parsed : Line.parse text lineNumber .assembly = .ok (has, line)) :
    Made (blank text lineNumber) .assembly has line := by
  rcases Line.accounts_of_parse parsed with ⟨last, accounts⟩
  cases accounts with
  | parts passedAddress accountsCondition passedLabel accountsStatement _ _
      same =>
  cases same
  rcases accountsCondition.exists_said with ⟨_, passedCondition, _⟩
  have passed := (passedAddress.trans passedCondition).trans passedLabel
  have named := accountsStatement.named (idle_ofText text lineNumber .assembly)
    rfl passed
  exact .assembly named _ _ _ _ _

theorem Line.made_of_tape {text : String} {lineNumber : Nat} {has : Bool}
    {line : Line}
    (parsed : Line.parse text lineNumber .tape = .ok (has, line)) :
    Made (blank text lineNumber) .tape has line := by
  rcases Line.accounts_of_parse_tape parsed with ⟨field, lexer, ran, accounts⟩
  rcases Prod.mk.inj ran with ⟨-, rfl⟩
  cases accounts with
  | nothing same =>
      cases same
      exact .tape named_none none _ ""
  | fields passed _ _ accountsStatement _ same =>
      cases same
      have named := accountsStatement.named ⟨Nat.succ_pos 3, rfl⟩ rfl passed
      exact .tape named _ _ _

theorem Line.made_of_parse {text : String} {lineNumber : Nat}
    {grammar : Grammar} {has : Bool} {line : Line}
    (parsed : Line.parse text lineNumber grammar = .ok (has, line)) :
    Made (blank text lineNumber) grammar has line := by
  cases grammar with
  | assembly => exact Line.made_of_assembly parsed
  | tape => exact Line.made_of_tape parsed
  | debugger =>
      cases Line.isCommand_of_parse parsed with
      | nothing =>
          exact .debugger named_none fun _ member => nomatch member
      | @command name operand run =>
          have named : Named (some ⟨⟨name, false⟩, operand⟩) := by
            rintro _ ⟨⟩
            exact run.1.1
          exact .debugger named fun _ member => by
            cases member
            rfl
  | expression =>
      rcases Line.accounts_of_parse_expression parsed with
        ⟨operand, rest, _, same⟩
      cases same
      exact .expression operand

/-! ## Which fields are there -/

/-- Of a statement there is a name, and there is an operand only behind one. -/
theorem Named.fills {statement : Option Statement} (named : Named statement)
    (blank : Line) :
    let line := blank.withStatement statement
    line.hasInstruction = statement.isSome ∧
      line.fills .opcode = statement.isSome ∧
      (line.fills .operand = true → line.fills .opcode = true) := by
  cases statement with
  | none => exact ⟨rfl, rfl, nofun⟩
  | some stated =>
      have visible : (blank.withStatement (some stated)).fills .opcode = true :=
        decide_eq_true (named stated rfl)
      exact ⟨rfl, visible, fun _ => visible⟩

/-- No field is filled but those of the notation. -/
theorem Line.Made.field_mem {text : String} {lineNumber : Nat}
    {grammar : Grammar} {has : Bool} {line : Line} {field : Line.Field}
    (made : Made (blank text lineNumber) grammar has line)
    (filled : line.fills field = true) :
    field ∈ grammar.fields := by
  cases made with
  | assembly =>
      cases field with
      | offset | leadingComment => simp [fills, withStatement, blank] at filled
      | _ => decide
  | tape =>
      cases field with
      | prefixAddress | condition | label | autoComment =>
          simp [fills, withStatement, blank] at filled
      | _ => decide
  | @debugger statement _ plain =>
      cases field with
      | opcode | operand => decide
      | directive =>
          cases statement with
          | none => cases filled
          | some stated =>
              have dotted : stated.instruction.isDirective = true := filled
              rw [plain stated rfl] at dotted
              cases dotted
      | _ => simp [fills, withStatement, blank] at filled
  | expression =>
      cases field with
      | operand => decide
      | _ => simp [fills, isDirective, opcode, blank] at filled

/--
A line of assembly, of a tape or of a debugger command is acted on if it has an
instruction, and an expression, which never has one, if there is something in
it.  An instruction has a name, an operand without an instruction is only in an
expression, and no field is filled but those of the notation.
-/
theorem Line.fields_of_parse {text : String} {lineNumber : Nat}
    {grammar : Grammar} {has : Bool} {line : Line}
    (parsed : Line.parse text lineNumber grammar = .ok (has, line)) :
    (grammar ≠ .expression → has = line.hasInstruction) ∧
    (grammar = .expression →
      line.hasInstruction = false ∧ has = line.fills .operand) ∧
    line.hasInstruction = line.fills .opcode ∧
    (line.fills .operand = true →
      line.fills .opcode = true ∨ grammar = .expression) ∧
    ∀ field, line.fills field = true → field ∈ grammar.fields := by
  have made := Line.made_of_parse parsed
  have fields : ∀ field, line.fills field = true → field ∈ grammar.fields :=
    fun _ => made.field_mem
  cases made with
  | assembly named | tape named | debugger named =>
      rcases named.fills (blank text lineNumber) with ⟨acts, visible, behind⟩
      exact ⟨fun _ => acts.symm, nofun, acts.trans visible.symm,
        fun filled => Or.inl (behind filled), fields⟩
  | expression =>
      exact ⟨fun lined => absurd rfl lined, fun _ => ⟨rfl, rfl⟩, rfl,
        fun _ => Or.inr rfl, fields⟩

/-- A record with all of its fields, and an operand that stands alone. -/
theorem Line.fields_of_parse_record :
    let record : Line :=
      { rawText := "in\t12\t.word a\tout"
        lineNumber := 3
        offset := some 12
        instruction := some ⟨"word", true⟩
        operand := some (.identifier "a")
        leadingComment := "in"
        trailingComment := "out" }
    let sum : Line :=
      { rawText := "a+b;"
        lineNumber := 4
        operand := some
          (.binary .plus (.identifier "a") (.identifier "b")) }
    (Line.parse record.rawText 3 .tape = .ok (true, record) ∧
      true = record.hasInstruction ∧
      ∀ field, record.fills field = true → field ∈ Grammar.tape.fields) ∧
    Line.parse sum.rawText 4 .expression = .ok (true, sum) ∧
      sum.hasInstruction = false ∧ true = sum.fills .operand := by
  intro record sum
  have accepted : Line.parse record.rawText 3 .tape = .ok (true, record) :=
    Except.eq_ok_of_toOption (by decide +kernel)
  have alone : Line.parse sum.rawText 4 .expression = .ok (true, sum) :=
    Except.eq_ok_of_toOption (by decide +kernel)
  rcases Line.fields_of_parse accepted with ⟨acts, _, _, _, fields⟩
  exact ⟨⟨accepted, acts (by decide), fields⟩, alone,
    (Line.fields_of_parse alone).2.1 rfl⟩

end Whirlwind
