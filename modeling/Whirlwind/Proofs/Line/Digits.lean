import Whirlwind.Proofs.Expr.Digits
import Whirlwind.Proofs.Line.Pointing
import Whirlwind.Proofs.Tape.Record

/-!
# The digits in lines

All that a text is read as, by one line of a notation or by any run of
expressions, atoms and tokens, has its trees where decimal digits count.  The
parts of a line that stand in front of a tree end in no radix mark, and on a
tape the first field is no token at all, so the lexer starts over behind it.
-/

namespace Whirlwind

open TokenStream Reading

theorem Lexeme.isDigitBehind_of_plain {lexeme : Lexeme}
    (plain : lexeme.isRadix = false) : lexeme.isDigitBehind = Char.isDigit := by
  refine Lexeme.isDigitBehind_eq ?_
  rintro rfl
  cases plain

/-- Behind lexemes without radix marks decimal digits count. -/
theorem Lexeme.isDigitAfter_of_plain {lexemes : List Lexeme}
    (plain : ∀ lexeme ∈ lexemes, lexeme.isRadix = false) :
    isDigitAfter Char.isDigit lexemes = Char.isDigit := by
  induction lexemes with
  | nil => rfl
  | cons lexeme lexemes ih =>
      rw [List.forall_mem_cons] at plain
      rw [isDigitAfter, isDigitBehind_of_plain plain.1]
      exact ih plain.2

namespace TokenStream

variable {start rest : TokenStream} {lexemes : List Lexeme}

/-- Passing over lexemes without radix marks leaves decimal digits to count. -/
theorem Counts.passes_plain (counts : start.Counts Char.isDigit)
    (passed : start.Passes lexemes rest)
    (plain : ∀ lexeme ∈ lexemes, lexeme.isRadix = false) :
    rest.Counts Char.isDigit :=
  Lexeme.isDigitAfter_of_plain plain ▸ counts.passes passed

theorem AccountsOperand.digitsFit {operand : Option Expr}
    (accounts : start.AccountsOperand operand rest)
    (counts : start.Counts Char.isDigit) :
    ∀ expr ∈ operand, expr.DigitsFit Char.isDigit := by
  rintro expr ⟨⟩
  exact (Accounts.digitsFit accounts counts).1

theorem AccountsCondition.digitsFit {condition : Option Expr}
    (accounts : start.AccountsCondition condition rest)
    (counts : start.Counts Char.isDigit) :
    (∀ expr ∈ condition, expr.DigitsFit Char.isDigit) ∧
      rest.Counts Char.isDigit := by
  cases condition with
  | none => exact ⟨nofun, counts.passes accounts⟩
  | some expr =>
      rcases accounts with ⟨named, passed, _, read⟩
      have inside := counts.passes_plain passed (by simp [Lexeme.isRadix])
      rcases (accounts_atom read).digitsFit inside with ⟨fits, behind⟩
      refine ⟨?_, behind⟩
      rintro _ ⟨⟩
      exact fits

/-- An operand that is not parsed is a string. -/
theorem AccountsStatement.digitsFit {statement : Option Statement}
    (accounts : start.AccountsStatement statement rest)
    (counts : start.Counts Char.isDigit) :
    ∀ expr ∈ statement.bind Statement.operand,
      expr.DigitsFit Char.isDigit := by
  cases accounts with
  | nothing => exact nofun
  | @parsed instruction _ _ _ passed _ accountsOperand =>
      exact accountsOperand.digitsFit (counts.passes_plain passed
        (plain_instructionLexemes (some instruction)))
  | taken =>
      intro expr member
      simp only [Option.bind_some, rawOperand] at member
      split at member <;> cases member
      trivial

theorem AccountsLine.digitsFit {line : Line} {result : Bool × Line}
    (accounts : start.AccountsLine line result rest)
    (counts : start.Counts Char.isDigit) :
    (∀ expr ∈ result.2.condition, expr.DigitsFit Char.isDigit) ∧
      ∀ expr ∈ result.2.operand, expr.DigitsFit Char.isDigit := by
  cases accounts with
  | parts passedAddress accountsCondition passedLabel accountsStatement _ _
      same =>
  subst same
  have atCondition :=
    counts.passes_plain passedAddress (plain_addressLexemes _)
  rcases accountsCondition.digitsFit atCondition with ⟨condition, atLabel⟩
  have atStatement := atLabel.passes_plain passedLabel (plain_labelLexemes _)
  exact ⟨condition, accountsStatement.digitsFit atStatement⟩

/-- Behind the first field of a line of a tape listing decimal digits count. -/
theorem counts_nextField {text : String} {lineNumber : Nat} {field : Token}
    {lexer : Lexer}
    (ran : Lexer.nextField.run (Lexer.ofText text lineNumber .tape) =
      (field, lexer)) :
    ({ lexer := lexer } : TokenStream).Counts Char.isDigit := by
  rcases (Lexer.isIn_ofText text lineNumber .tape).nextField ran with
    ⟨⟨front, rest, _, stands, _, _⟩, written, mode⟩
  have behind : lexer.StandsAt .tape _ .start front rest :=
    ⟨written, mode, rfl, stands, nofun⟩
  have idle : ({ lexer := lexer } : TokenStream).Idle :=
    ⟨Nat.succ_pos 3, rfl⟩
  exact idle.counts rfl behind

theorem AccountsRecord.digitsFit {line : Line} {result : Bool × Line}
    (accounts : start.AccountsRecord line result)
    (counts : start.Counts Char.isDigit)
    (unconditional : line.condition = none) (bare : line.operand = none) :
    (∀ expr ∈ result.2.condition, expr.DigitsFit Char.isDigit) ∧
      ∀ expr ∈ result.2.operand, expr.DigitsFit Char.isDigit := by
  cases accounts with
  | nothing same =>
      subst same
      simp [unconditional, bare]
  | fields passed plain _ accountsStatement _ same =>
      subst same
      refine ⟨by simp [Line.withStatement, unconditional], ?_⟩
      exact accountsStatement.digitsFit (counts.passes_plain passed plain)

end TokenStream

variable {text : String} {firstLine : Nat} {grammar : Grammar}

/-- The trees in a line that is read have the digits that count. -/
theorem Line.digitsFit_of_parse {has : Bool} {line : Line}
    (words : grammar.hasRuns = false)
    (parsed : Line.parse text firstLine grammar = .ok (has, line)) :
    (∀ expr ∈ line.condition, expr.DigitsFit Char.isDigit) ∧
      ∀ expr ∈ line.operand, expr.DigitsFit Char.isDigit := by
  have counts := counts_ofText text firstLine words
  cases grammar with
  | assembly =>
      rcases Line.accounts_of_parse parsed with ⟨last, accounts⟩
      exact accounts.digitsFit counts
  | tape =>
      rcases Line.accounts_of_parse_tape parsed with
        ⟨field, lexer, ran, accounts⟩
      exact accounts.digitsFit (counts_nextField ran) rfl rfl
  | expression =>
      rcases Line.accounts_of_parse_expression parsed with
        ⟨operand, rest, accounts, same⟩
      cases same
      exact ⟨nofun, accounts.digitsFit counts⟩
  | debugger => cases words

/-! ## Whatever is read -/

/--
A stream that reads on in a text, behind whole expressions and atoms and behind
tokens that are no hexadecimal marks.
-/
inductive TokenStream.ReadsOn (text : String) (firstLine : Nat)
    (grammar : Grammar) : TokenStream → Prop
  | start : ReadsOn text firstLine grammar (ofText text firstLine grammar)
  | expression {stream after : TokenStream} {expr : Expr}
      (onward : ReadsOn text firstLine grammar stream)
      (run : expression stream = .ok expr after) :
      ReadsOn text firstLine grammar after
  | atom {stream after : TokenStream} {expr : Expr}
      (onward : ReadsOn text firstLine grammar stream)
      (run : atom stream = .ok expr after) :
      ReadsOn text firstLine grammar after
  | next {stream after : TokenStream} {token : Token}
      (onward : ReadsOn text firstLine grammar stream)
      (run : next stream = .ok token after)
      (other : token.lexeme ≠ .operator .hexadecimal) :
      ReadsOn text firstLine grammar after
  | peek {stream after : TokenStream} {token : Token}
      (onward : ReadsOn text firstLine grammar stream)
      (run : peek stream = .ok token after) :
      ReadsOn text firstLine grammar after

/-- An invariant of whatever is read: decimal digits count. -/
theorem TokenStream.ReadsOn.counts {stream : TokenStream}
    (onward : ReadsOn text firstLine grammar stream)
    (words : grammar.hasRuns = false) : stream.Counts Char.isDigit := by
  induction onward with
  | start => exact counts_ofText text firstLine words
  | expression _ run ih => exact ((accounts_expression run).digitsFit ih).2
  | atom _ run ih => exact ((accounts_atom run).digitsFit ih).2
  | next _ run other ih => exact ih.passes_token (passes_next run) other
  | peek _ run ih => exact ih.passes (passes_peek run).1

/-- A tree that is read from a text, in one of the ways to do so. -/
inductive Expr.IsReadFrom (text : String) (firstLine : Nat)
    (grammar : Grammar) : Expr → Prop
  | whole {expr : Expr} (parsed : Expr.parse text grammar = .ok expr) :
      IsReadFrom text firstLine grammar expr
  | expression {expr : Expr} {stream after : TokenStream}
      (onward : ReadsOn text firstLine grammar stream)
      (run : expression stream = .ok expr after) :
      IsReadFrom text firstLine grammar expr
  | atom {expr : Expr} {stream after : TokenStream}
      (onward : ReadsOn text firstLine grammar stream)
      (run : atom stream = .ok expr after) :
      IsReadFrom text firstLine grammar expr
  | statement {expr : Expr} {all : List Expr} {stream after : TokenStream}
      (onward : ReadsOn text firstLine grammar stream)
      (run : statements stream = .ok all after) (member : expr ∈ all) :
      IsReadFrom text firstLine grammar expr
  | condition {expr : Expr} {has : Bool} {line : Line}
      (parsed : Line.parse text firstLine grammar = .ok (has, line))
      (member : expr ∈ line.condition) :
      IsReadFrom text firstLine grammar expr
  | operand {expr : Expr} {has : Bool} {line : Line}
      (parsed : Line.parse text firstLine grammar = .ok (has, line))
      (member : expr ∈ line.operand) :
      IsReadFrom text firstLine grammar expr

theorem Expr.IsReadFrom.digitsFit {expr : Expr}
    (tree : expr.IsReadFrom text firstLine grammar)
    (words : grammar.hasRuns = false) : expr.DigitsFit Char.isDigit := by
  cases tree with
  | whole parsed =>
      rcases answer_eq_ok parsed with ⟨last, run⟩
      rcases bind_eq_ok run with ⟨result, between, read, later⟩
      rcases bind_eq_ok later with ⟨_, after, _, answered⟩
      rcases pure_eq_ok answered with ⟨rfl, rfl⟩
      have counts := counts_ofText text 1 words
      exact ((accounts_expression read).digitsFit counts).1
  | expression onward run =>
      exact ((accounts_expression run).digitsFit (onward.counts words)).1
  | atom onward run =>
      exact ((accounts_atom run).digitsFit (onward.counts words)).1
  | statement onward run member =>
      rcases Outcome.toResult_eq_ok.1 run with ⟨answers, -⟩
      exact ensures_parseStatements (onward.counts words) _ answers _ member
  | condition parsed member =>
      exact (Line.digitsFit_of_parse words parsed).1 expr member
  | operand parsed member =>
      exact (Line.digitsFit_of_parse words parsed).2 expr member

/--
Every token has the shape of its place: behind a hexadecimal mark, with nothing
between, numbers are made of hexadecimal digits and names are not, and anywhere
else the same holds with decimal digits.  So the digit strings in every tree
that is read are decimal, unless they are the operand of a hexadecimal mark or
what that operand applies to its arguments.
-/
theorem digits_fit (words : grammar.hasRuns = false) (text : String)
    (firstLine : Nat) :
    (∀ {count : Nat} {token : Token}
      {front behind : List (Except SyntaxError Token)},
      (Lexer.ofText text firstLine grammar).answers count =
        front ++ .ok token :: behind →
      Lexer.FitsBehind grammar front.getLast? token) ∧
    ∀ expr : Expr, expr.IsReadFrom text firstLine grammar →
      expr.DigitsFit Char.isDigit :=
  ⟨Lexer.fitsBehind_of_answers words, fun _ tree => tree.digitsFit words⟩

/-- Behind a hexadecimal mark an atom in hexadecimal digits is applied. -/
theorem digits_fit_applied :
    Grammar.assembly.hasRuns = false ∧
    (∃ mark token : Token,
      (Lexer.ofText "0x1f(2)+10" 1 .assembly).answers 2 =
        [.ok mark] ++ .ok token :: [] ∧
      token.lexeme = .digits "1f" ∧ token.FollowsMark (some (.ok mark)) ∧
      token.lexeme.Fits .assembly Scan.isHexDigit) ∧
    ∃ expr : Expr,
      expr = .binary .plus
        (.unary .hexadecimal (.apply (.digits "1f") (.digits "2")))
        (.digits "10") ∧
      expr.IsReadFrom "0x1f(2)+10" 1 .assembly ∧
      expr.DigitsFit Char.isDigit := by
  have fits := @digits_fit .assembly rfl "0x1f(2)+10" 1
  have answered : (Lexer.ofText "0x1f(2)+10" 1 .assembly).answers 2 =
      [.ok ⟨.operator .hexadecimal, ⟨1, 0⟩⟩] ++
        .ok ⟨.digits "1f", ⟨1, 2⟩⟩ :: [] := by
    decide +kernel
  have follows : (⟨.digits "1f", ⟨1, 2⟩⟩ : Token).FollowsMark
      (some (.ok ⟨.operator .hexadecimal, ⟨1, 0⟩⟩)) :=
    ⟨_, rfl, rfl, rfl⟩
  have parsed : Expr.parse "0x1f(2)+10" .assembly = .ok (.binary .plus
      (.unary .hexadecimal (.apply (.digits "1f") (.digits "2")))
      (.digits "10")) :=
    Except.eq_ok_of_toOption (by decide +kernel)
  exact ⟨rfl, ⟨_, _, answered, rfl, follows, (fits.1 answered).1 follows⟩,
    _, rfl, .whole parsed, fits.2 _ (.whole parsed)⟩

end Whirlwind
