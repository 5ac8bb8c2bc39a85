import Whirlwind.Proofs.Line.Reformat
import Whirlwind.Proofs.Token.Run

/-!
# Commands are read back from their listing

A debugger command is a name and, behind it, an operand in which only commas
join and only parentheses group.  What else stands in it is a run or a string.
The listing puts a blank, a comma or a parenthesis behind each of them, so all
are found again, and the command is read as it was (`Line.parse_listing_command`).
-/

namespace Whirlwind

open Lexer TokenStream Reading

/-! ## Trees of commands -/

/-- A tree of runs and strings, with lists and applications of them. -/
def Expr.OfRuns : Expr → Prop
  | .identifier name => (Lexeme.identifier name).RunShaped
  | .digits text => (Lexeme.digits text).RunShaped
  | .string _ => True
  | .unary _ _ => False
  | .apply callee arguments => callee.OfRuns ∧ arguments.OfRuns
  | .binary op left right => op = .comma ∧ left.OfRuns ∧ right.OfRuns

/-- The only operator of a command between operands is the comma. -/
theorem Phrase.Joins.eq_comma {phrase : Phrase} {character : Char}
    {op : BinaryOp} (joins : phrase.Joins character op)
    (shaped : (Lexeme.mark character).RunShaped) : op = .comma := by
  cases joins with
  | comma => rfl
  | assign | plus | minus | multiply | divide | bitAnd | bitOr | dot =>
      cases shaped

/-- No operator of a command stands in front of an operand. -/
theorem Phrase.Signs.not_runShaped {lexeme : Lexeme} {op : UnaryOp}
    (signs : Phrase.Signs lexeme op) : ¬lexeme.RunShaped := by
  intro shaped
  cases signs <;> cases shaped

theorem Derives.ofRuns {phrase : Phrase} {lexemes follow : List Lexeme}
    {expr : Expr} (derived : Derives phrase lexemes follow expr)
    (shaped : ∀ lexeme ∈ lexemes, lexeme.RunShaped) : expr.OfRuns := by
  induction derived with
  | tighter _ _ ih => exact ih shaped
  | joinLeft joins _ _ _ _ ihLeft ihRight
  | joinRight joins _ _ _ _ ihLeft ihRight =>
      simp only [List.forall_mem_append, List.forall_mem_cons] at shaped
      exact ⟨joins.eq_comma shaped.2.1, ihLeft shaped.1, ihRight shaped.2.2⟩
  | sign signs =>
      exact absurd (shaped _ List.mem_cons_self) signs.not_runShaped
  | zero =>
      exact absurd (shaped _ List.mem_cons_self)
        Phrase.Signs.minus.not_runShaped
  | apply _ _ ihCallee ihArguments =>
      simp only [List.forall_mem_append, List.forall_mem_cons] at shaped
      exact ⟨ihCallee shaped.1, ihArguments shaped.2.2.1⟩
  | identifier | digits => exact shaped _ List.mem_cons_self
  | string => trivial
  | group _ ih =>
      simp only [List.forall_mem_append, List.forall_mem_cons] at shaped
      exact ih shaped.2.1

theorem writes_runName {name : String}
    (shaped : (Lexeme.identifier name).RunShaped) :
    Writes .debugger name [.identifier name] := by
  intro gap rest gaps closes
  have gives := gives_run shaped.1 gaps closes
  rwa [Scan.runLexeme, if_pos shaped.2, String.ofList_toList] at gives

/-- The lexer finds the lexemes of a command in its listing. -/
theorem Expr.OfRuns.writes {expr : Expr} (shape : expr.OfRuns) :
    Writes .debugger expr.listing expr.lexemes := by
  induction expr with
  | identifier name => exact writes_runName shape
  | digits text =>
      intro gap rest gaps closes
      have gives := gives_run shape.1 gaps closes
      rwa [Scan.runLexeme, if_neg (by simp [shape.2]),
        String.ofList_toList] at gives
  | string text => exact fun gap rest gaps _ => gives_quotedString gaps
  | unary => cases shape
  | apply callee arguments ihCallee ihArguments =>
      exact ((ihCallee shape.1).parenthesized _).applied (ihArguments shape.2)
  | binary op left right ihLeft ihRight =>
      rcases shape with ⟨rfl, shapeLeft, shapeRight⟩
      exact ((ihLeft shapeLeft).parenthesized _).joined rfl
        ((ihRight shapeRight).parenthesized _)

/-! ## Whole commands -/

/-- A line that says a command, or nothing at all. -/
inductive Line.IsCommand (rawText : String) (lineNumber : Nat) :
    Bool → Line → Prop where
  | nothing :
      IsCommand rawText lineNumber false
        { rawText := rawText, lineNumber := lineNumber }
  | command {name : String} {operand : Option Expr}
      (named : (Lexeme.identifier name).RunShaped)
      (shape : ∀ expr ∈ operand, expr.OfRuns) :
      IsCommand rawText lineNumber true
        { rawText := rawText
          lineNumber := lineNumber
          instruction := some ⟨name, false⟩
          operand := operand }

/-- Every command that is accepted is made of the lexemes of commands. -/
theorem Line.isCommand_of_parse {text : String} {lineNumber : Nat}
    {has : Bool} {line : Line}
    (parsed : Line.parse text lineNumber .debugger = .ok (has, line)) :
    IsCommand (String.ofList (Text.trimLineEnd text.toList)) lineNumber has
      line := by
  rcases answer_eq_ok parsed with ⟨last, answers⟩
  have run : (debuggerLine _).Answers _ (has, line) last := answers
  rcases run.bind with ⟨token, between, read, later⟩
  have passed := passes_next read
  split at later
  · rcases later.pure with ⟨same, rfl⟩
    cases same
    exact .nothing
  · next name lexeme =>
    rcases later.bind with ⟨operand, atFinish, readOperand, more⟩
    rcases more.bind with ⟨_, final, finished, answered⟩
    rcases answered.pure with ⟨same, rfl⟩
    cases same
    rw [lexeme] at passed
    rcases (accounts_operand readOperand).exists_said with
      ⟨lexemes, passedOperand, said⟩
    rcases (idle_ofText text lineNumber .debugger).exists_reads
      (passed.trans passedOperand) with ⟨behind, reads⟩
    have shaped := reads.runShaped rfl rfl
    refine .command (shaped _ List.mem_cons_self) fun expr member => ?_
    cases member
    rcases said with ⟨phrase, inner, follow, rfl, derived⟩
    exact derived.ofRuns (List.forall_mem_cons.1 shaped).2
  · cases later

/-- An operand is listed behind a blank, and its lexemes are found there. -/
theorem gives_commandOperand {operand : Option Expr}
    (shape : ∀ expr ∈ operand, expr.OfRuns) :
    Gives .debugger .start
      ((operand.map fun expr => ' ' :: expr.listing.toList).getD [])
      (operandLexemes operand ++ [.finish]) .start [] := by
  cases operand with
  | none => exact gives_finish (Grammar.skips_nil _)
  | some expr =>
      have front := (shape expr rfl).writes [' '] [] (Grammar.skips_blank _)
        (Grammar.closes_nil _)
      have whole := front.trans (gives_finish (Grammar.skips_nil _))
      simpa [operandLexemes] using whole

theorem Line.listing_command (rawText name : String) (lineNumber : Nat)
    (operand : Option Expr) :
    ({ rawText := rawText
       lineNumber := lineNumber
       instruction := some ⟨name, false⟩
       operand := operand } : Line).listing.toList =
      name.toList ++
        (operand.map fun expr => ' ' :: expr.listing.toList).getD [] := by
  cases operand with
  | none => simp [listing, parts, Instruction.listing]
  | some expr =>
      have plain : operandListing (some ⟨name, false⟩) expr = expr.listing := by
        cases expr <;> rfl
      simp [listing, parts, Instruction.listing, plain]

theorem Line.yields_silence {start : TokenStream} {last : Lexer} (blank : Line)
    (offers : start.Offers [.finish] last) :
    (debuggerLine blank).Yields start (false, blank) [] last := by
  refine offers.yields_next fun token after lexeme offersRest _ => ?_
  simp only [lexeme]
  exact offersRest.yields_pure

/-- A name and its operand are read as a command. -/
theorem Line.yields_command {start : TokenStream} {last : Lexer} {name : String}
    {operand : Option Expr} (blank : Line)
    (offers : start.Offers
      (.identifier name :: (operandLexemes operand ++ [.finish])) last) :
    (debuggerLine blank).Yields start
      (true, blank.withStatement (some ⟨⟨name, false⟩, operand⟩)) [] last := by
  refine offers.yields_next fun token after lexeme offersOperand _ => ?_
  simp only [lexeme]
  have spelled := spells_operandLexemes operand
  refine (offersOperand.yields_operand spelled ⟨_, _, rfl, rfl⟩).bind
    fun _ offersFinish => ?_
  exact offersFinish.yields_expectFinish.bind
    fun _ offersRest => offersRest.yields_pure

/-- A command is read from its listing as it is, apart from its raw text. -/
theorem Line.parse_listing_command {text : String} {lineNumber : Nat}
    {has : Bool} {line : Line}
    (accepted : Line.parse text lineNumber .debugger = .ok (has, line)) :
    ∃ raw, Line.parse line.listing lineNumber .debugger =
      .ok (has, { line with rawText := raw }) := by
  refine ⟨String.ofList (Text.trimLineEnd line.listing.toList), ?_⟩
  have faces := faces_ofText line.listing lineNumber .debugger
  cases isCommand_of_parse accepted with
  | nothing =>
      rcases gives_finish (Grammar.skips_nil _) _ faces with ⟨last, reads, _⟩
      exact (yields_silence _ (offers_ofText reads)).answer_eq
  | @command name operand named shape =>
      rw [listing_command] at faces
      have closes : Grammar.debugger.Closes
          ((operand.map fun expr => ' ' :: expr.listing.toList).getD []) := by
        cases operand with
        | none => exact Grammar.closes_nil _
        | some expr => exact Grammar.closes_cons.2 rfl
      have front := writes_runName named [] _ (Grammar.skips_nil _) closes
      rcases (front.trans (gives_commandOperand shape)) _ faces with
        ⟨last, reads, _⟩
      exact (yields_command _ (offers_ofText reads)).answer_eq

/-- Groups, runs and strings that stand right behind one another. -/
theorem Line.parse_listing_packed :
    ∃ line : Line,
      Line.parse "p(a,b)(\"x\\q\\n\"),+;@0x,(((d)))(e,\"\")" 1 .debugger =
        .ok (true, line) ∧
      line.listing = "p (a, b)(\"x\\\\q\\n\"), +;@0x, d(e, \"\")" ∧
      ∃ raw, Line.parse line.listing 1 .debugger =
        .ok (true, { line with rawText := raw }) := by
  let line : Line :=
    { rawText := "p(a,b)(\"x\\q\\n\"),+;@0x,(((d)))(e,\"\")"
      lineNumber := 1
      instruction := some ⟨"p", false⟩
      operand := some (.binary .comma
        (.apply (.binary .comma (.identifier "a") (.identifier "b"))
          (.string "x\\q\n"))
        (.binary .comma (.digits "+;@0x")
          (.apply (.identifier "d")
            (.binary .comma (.identifier "e") (.string ""))))) }
  have accepted : Line.parse "p(a,b)(\"x\\q\\n\"),+;@0x,(((d)))(e,\"\")" 1
      .debugger = .ok (true, line) :=
    Except.eq_ok_of_toOption (by decide +kernel)
  exact ⟨line, accepted, by decide +kernel, parse_listing_command accepted⟩

end Whirlwind
