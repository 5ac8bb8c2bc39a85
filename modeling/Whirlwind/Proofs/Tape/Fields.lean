import Whirlwind.Proofs.Line.Listing
import Whirlwind.Proofs.Text.Decimal
import Whirlwind.Proofs.Text.Trim

/-!
# The fields of a tape line

Tabs separate the fields of a tape line, but only the two in the middle are
made of tokens.  The first field is taken up to its tab, the last one up to the
end of the line, and in between the tab behind a field is a token that is read
ahead.  None of them takes anything from another: a line that is written field
by field is read as these fields (`Line.parse_fields`).
-/

namespace Whirlwind

namespace Tape

/-- The text of an operand field and the blank in front of it, if there is one. -/
def operandField (operand : Option Expr) : String :=
  (operand.map (" " ++ ·.listing)).getD ""

/-- A line that is written field by field. -/
def fieldsText (leading digits opcode : String) (operand : Option Expr)
    (trailing : String) : String :=
  leading ++ "\t" ++ digits ++ "\t" ++ opcode ++ operandField operand ++
    "\t" ++ trailing

/-- The number that the digits of an offset field stand for. -/
def offsetNumber (digits : String) : Nat :=
  Nat.ofDigitChars 10 digits.toList 0

/-- The offset that a field holds, if it is not empty. -/
def offset? (digits : String) : Option Int64 :=
  if digits = "" then none else some (Int64.ofInt (offsetNumber digits))

/-- The lexemes of an offset field and the tab behind it. -/
def offsetFieldLexemes (digits : String) : List Lexeme :=
  if digits = "" then [.tab] else [.digits digits, .tab]

end Tape

namespace Lexer

/-! ## What the lexer finds in the fields -/

/-- The first field is what stands before the first tab, which stays unread. -/
theorem Faces.nextField {lexer : Lexer} {grammar : Grammar} {mode : Mode}
    {field rest : List Char}
    (faces : lexer.Faces grammar mode (field ++ '\t' :: rest))
    (plain : '\t' ∉ field) (inLine : '\n' ∉ field) :
    ∃ location after, Lexer.nextField.run lexer =
        (⟨.comment (String.ofList (Text.trimReturns field)), location⟩,
          after) ∧
      after.Faces grammar .start ('\t' :: rest) := by
  have settled := faces.text.settle.settle
  have spanInLine : '\n' ∉ field ++ ['\t'] := by simp [inLine]
  have facesField := faces.text.settle
  rw [List.append_cons] at facesField
  rcases facesField.settle_ahead spanInLine (by simp) with ⟨line, ahead, _⟩
  rw [← List.append_cons] at ahead
  have inside : ∀ character ∈ field,
      (!(decide (character = '\t') || decide (character = '\n'))) = true := by
    intro character member
    have noTab : character ≠ '\t' := fun same => plain (same ▸ member)
    have noNewline : character ≠ '\n' := fun same => inLine (same ▸ member)
    simp [noTab, noNewline]
  have span : lexer.cursor.settle.settle.ahead.takeWhile (fun character =>
      !(decide (character = '\t') || decide (character = '\n'))) = field := by
    rw [ahead, List.takeWhile_append_of_pos inside]
    simp
  rcases settled.skip ahead with ⟨behind, same, _, facesBehind⟩
  rcases List.append_cancel_left same with rfl
  have run : Lexer.nextField.run lexer =
      (⟨.comment (String.ofList (Text.trimReturns
        (lexer.cursor.settle.settle.ahead.takeWhile fun character =>
          !(decide (character = '\t') || decide (character = '\n'))))),
        lexer.cursor.settle.locationHere⟩,
      { lexer with
        cursor := lexer.cursor.settle.settle.skip
          (lexer.cursor.settle.settle.ahead.takeWhile fun character =>
            !(decide (character = '\t') || decide (character = '\n')))
        mode := .start }) := rfl
  rw [span] at run
  exact ⟨_, _, run, faces.notation_eq, rfl, facesBehind⟩

theorem gives_tab {gap rest : List Char} (gaps : Grammar.tape.Skips gap) :
    Gives .tape .start (gap ++ '\t' :: rest) [.tab] .start rest :=
  gives_token '\t' [] gaps rfl (by decide) fun _ _ _ => rfl

/-- A tab ends a field. -/
theorem closes_tab (rest : List Char) : Grammar.tape.Closes ('\t' :: rest) :=
  Grammar.closes_cons.2 rfl

/-- Behind a tab and in front of another one an offset field is read. -/
theorem gives_offsetField {digits : String} {rest : List Char}
    (decimal : ∀ character ∈ digits.toList, character.isDigit = true) :
    Gives .tape .start (digits.toList ++ '\t' :: rest)
      (Tape.offsetFieldLexemes digits) .start rest := by
  have tab : Gives .tape .start ([] ++ '\t' :: rest) [.tab] .start rest :=
    gives_tab (Grammar.skips_nil _)
  unfold Tape.offsetFieldLexemes
  split
  · next empty =>
    rw [empty]
    exact tab
  · next visible =>
    have front : Gives .tape .start ([] ++ (digits.toList ++ '\t' :: rest))
        [.digits digits] .start _ :=
      gives_digits rfl (Grammar.skips_nil _) ⟨visible, decimal⟩
        (closes_tab rest)
    exact front.trans tab

/-- An opcode field is read as an instruction and its operand. -/
theorem writes_opcodeField {opcode : String} {operand : Option Expr}
    (named : IsName opcode)
    (shape : ∀ expr ∈ operand,
      expr.WellFormed ∧ expr.hasAssignment = false) :
    Writes .tape (opcode ++ Tape.operandField operand)
      (.identifier opcode :: operandLexemes operand) := by
  have front : Writes .tape opcode [.identifier opcode] :=
    fun _ _ gaps closes => gives_identifier rfl gaps named closes
  cases operand with
  | none => simpa [Tape.operandField, operandLexemes] using front
  | some expr =>
      rcases shape expr rfl with ⟨formed, unassigned⟩
      have behind := (writes_listing ⟨rfl, Or.inr unassigned⟩ formed :
        Writes .tape expr.listing expr.lexemes).behindBlank
      have ends : ∀ rest, Grammar.tape.Closes
          ((" " ++ expr.listing).toList ++ rest) := by
        intro rest
        rw [String.toList_append]
        exact Grammar.closes_cons.2 rfl
      exact front.append behind ends

/-- Behind the first field two fields of tokens are read with their tabs. -/
theorem gives_fields {digits opcode : String} {operand : Option Expr}
    {rest : List Char}
    (decimal : ∀ character ∈ digits.toList, character.isDigit = true)
    (named : IsName opcode)
    (shape : ∀ expr ∈ operand,
      expr.WellFormed ∧ expr.hasAssignment = false) :
    Gives .tape .start
      ('\t' :: (digits.toList ++ '\t' ::
        ((opcode ++ Tape.operandField operand).toList ++ '\t' :: rest)))
      (.tab :: (Tape.offsetFieldLexemes digits ++
        (.identifier opcode :: (operandLexemes operand ++ [.tab]))))
      .start rest := by
  have statement := (writes_opcodeField named shape) [] ('\t' :: rest)
    (Grammar.skips_nil _) (closes_tab rest)
  have tab : ∀ rest, Gives .tape .start ([] ++ '\t' :: rest) [.tab] .start
      rest := fun rest => gives_tab (Grammar.skips_nil _)
  have whole := (tab _).trans ((gives_offsetField decimal).trans
    (statement.trans (tab rest)))
  simpa using whole

end Lexer

namespace TokenStream

open Reading

variable {start : TokenStream} {lexemes rest : List Lexeme}
  {last finish : Lexer}

/-! ## What the actions make of the fields -/

/-- An offset field that is in range is read, with the tab behind it. -/
theorem Offers.yields_sectionOffset {digits : String}
    (decimal : ∀ character ∈ digits.toList, character.isDigit = true)
    (fits : (Tape.offsetNumber digits : Int) ≤ Integer.greatest)
    (offers : start.Offers (Tape.offsetFieldLexemes digits ++ rest) last) :
    sectionOffset?.Yields start (Tape.offset? digits) rest last := by
  unfold sectionOffset?
  by_cases empty : digits = ""
  · simp only [Tape.offsetFieldLexemes, Tape.offset?, empty, if_pos] at offers ⊢
    refine offers.yields_next fun token after lexeme offersAfter _ => ?_
    simp only [lexeme]
    exact offersAfter.yields_pure
  · have numeral : Integer.numeral? 10 digits.toList =
        some (Tape.offsetNumber digits) :=
      Integer.numeral?_ten_eq_some_iff.2 ⟨by simpa using empty, decimal, rfl⟩
    have inRange : Integer.ofInt? (Tape.offsetNumber digits) =
        some (Int64.ofInt (Tape.offsetNumber digits)) := by
      have positive : Integer.least ≤ (Tape.offsetNumber digits : Int) := by
        unfold Integer.least
        omega
      rw [Integer.ofInt?, if_pos ⟨positive, fits⟩]
    simp only [Tape.offsetFieldLexemes, Tape.offset?, empty, if_false,
      List.cons_append, List.nil_append] at offers ⊢
    refine offers.yields_next fun token after lexeme offersAfter _ => ?_
    simp only [lexeme, numeral, Option.bind_some, Function.comp_apply,
      Int.ofNat_eq_natCast, inRange]
    refine offersAfter.yields_next fun tab later same offersLater _ => ?_
    rw [if_pos same]
    exact offersLater.yields_pure

/-- What is left behind a tab is a comment, whatever it is. -/
theorem exists_yields_tapeComment {comment : List Char}
    (faces : last.Faces .tape .start comment) (inLine : '\n' ∉ comment) :
    ∃ finish, ∀ start : TokenStream, start.Offers [.tab] last →
      tapeComment.Yields start (String.ofList (Text.trimBlanks comment)) []
        finish := by
  rcases faces.restOfLine_inLine inLine with ⟨between, run, facesEnd⟩
  rcases Lexer.gives_finish (Grammar.skips_nil _) between facesEnd with
    ⟨finish, reads, _⟩
  refine ⟨finish, fun start offers => ?_⟩
  unfold tapeComment
  refine offers.yields_next fun token after lexeme offersAfter _ => ?_
  simp only [lexeme]
  refine yields_get ?_
  -- The tab was the only token read ahead, so the rest of the line is all there.
  rw [hasReturned, offersAfter.of_nil.1]
  refine (offersAfter.yields_onLexer run).bind fun _ offersRest => ?_
  refine (offersRest.extend reads).yields_expectFinish.bind
    fun _ offersEnd => ?_
  rw [Text.trim, String.toList_ofList, Text.trimBlanks_trimReturns]
  exact offersEnd.yields_pure

/-- A line whose fields behind the first one are on offer is read. -/
theorem yields_tapeLine (line : Line) {field : Token} {behind : TokenStream}
    {digits opcode : String} {operand : Option Expr} {trailing : List Char}
    (took : onLexer Lexer.nextField start = .ok field behind)
    (offers : behind.Offers
      (.tab :: (Tape.offsetFieldLexemes digits ++
        (.identifier opcode :: (operandLexemes operand ++ [.tab])))) last)
    (faces : last.Faces .tape .start trailing)
    (decimal : ∀ character ∈ digits.toList, character.isDigit = true)
    (fits : (Tape.offsetNumber digits : Int) ≤ Integer.greatest)
    (inLine : '\n' ∉ trailing) :
    ∃ finish, (tapeLine line).Yields start
      (true,
        { line with
          leadingComment := Text.trim field.lexeme.text
          offset := Tape.offset? digits
          instruction := some ⟨opcode, false⟩
          operand := operand
          trailingComment := String.ofList (Text.trimBlanks trailing) }) []
      finish := by
  have stops : EndsOperand [Lexeme.tab] := ⟨_, _, rfl, rfl⟩
  rcases exists_yields_tapeComment faces inLine with ⟨finish, comments⟩
  refine ⟨finish, ?_⟩
  unfold tapeLine
  refine yields_of_eq_ok took ?_
  refine offers.yields_next fun token after lexeme offersOffset _ => ?_
  simp only [lexeme]
  refine (offersOffset.yields_sectionOffset decimal fits).bind
    fun _ offersStatement => ?_
  have tells : Tells (some ⟨⟨opcode, false⟩, operand⟩) _ last _ last :=
    .instruction (spells_operandLexemes operand) stops
  refine (tells.yields_statement offersStatement).bind
    fun _ offersComment => ?_
  exact (comments _ offersComment).bind fun _ offersEnd =>
    offersEnd.yields_pure

end TokenStream

/--
A line of a tape listing that is written field by field is read as its fields.
The first field is any text up to a tab, the second one the digits of an offset
or nothing, the third one a name and perhaps an operand, and the last one any
text up to the end of the line.
-/
theorem Line.parse_fields {leading digits opcode trailing : String}
    {operand : Option Expr}
    (plain : '\t' ∉ leading.toList) (leadingInLine : '\n' ∉ leading.toList)
    (decimal : ∀ character ∈ digits.toList, character.isDigit = true)
    (fits : (Tape.offsetNumber digits : Int) ≤ Integer.greatest)
    (named : IsName opcode)
    (shape : ∀ expr ∈ operand,
      expr.WellFormed ∧ expr.hasAssignment = false)
    (trailingInLine : '\n' ∉ trailing.toList) (lineNumber : Nat) :
    Line.parse (Tape.fieldsText leading digits opcode operand trailing)
        lineNumber .tape =
      .ok (true,
        { rawText := String.ofList (Text.trimLineEnd
            (Tape.fieldsText leading digits opcode operand trailing).toList)
          lineNumber := lineNumber
          offset := Tape.offset? digits
          prefixAddress := none
          condition := none
          label := none
          instruction := some { name := opcode, isDirective := false }
          operand := operand
          leadingComment := Text.trim leading
          trailingComment := Text.trim trailing
          autoComment := "" }) := by
  have written : (Tape.fieldsText leading digits opcode operand
      trailing).toList = leading.toList ++ '\t' :: (digits.toList ++ '\t' ::
        ((opcode ++ Tape.operandField operand).toList ++
          '\t' :: trailing.toList)) := by
    simp [Tape.fieldsText]
  have faces := Lexer.faces_ofText
    (Tape.fieldsText leading digits opcode operand trailing) lineNumber .tape
  rw [written] at faces
  rcases faces.nextField plain leadingInLine with
    ⟨location, behind, run, facesBehind⟩
  rcases Lexer.gives_fields decimal named shape behind facesBehind with
    ⟨last, reads, facesLast⟩
  have took : TokenStream.onLexer Lexer.nextField (TokenStream.ofText
      (Tape.fieldsText leading digits opcode operand trailing) lineNumber
        .tape) =
      .ok ⟨.comment (String.ofList (Text.trimReturns leading.toList)),
        location⟩ { lexer := behind } := by
    unfold TokenStream.onLexer TokenStream.ofText
    rw [run]
  have idle : ({ lexer := behind } : TokenStream).Idle :=
    ⟨Nat.succ_pos 3, rfl⟩
  rcases TokenStream.yields_tapeLine _ took (idle.offers reads) facesLast
    decimal fits trailingInLine with ⟨finish, yields⟩
  have parsed := yields.answer_eq
  simp only [Lexeme.text, Text.trim, String.toList_ofList,
    Text.trimBlanks_trimReturns] at parsed
  exact parsed

/-- A line whose last field has a tab and the marks of comments in it. -/
theorem Line.parse_fields_marks :
    Tape.fieldsText " reel 3;" "007" "ca"
        (some (.binary .plus (.identifier "a") (.digits "2")))
        "\t; kept @@ too " =
      " reel 3;\t007\tca a + 2\t\t; kept @@ too " ∧
    Line.parse " reel 3;\t007\tca a + 2\t\t; kept @@ too " 5 .tape =
      .ok (true,
        { rawText := " reel 3;\t007\tca a + 2\t\t; kept @@ too "
          lineNumber := 5
          offset := some 7
          instruction := some { name := "ca" }
          operand := some (.binary .plus (.identifier "a") (.digits "2"))
          leadingComment := "reel 3;"
          trailingComment := "; kept @@ too" }) := by
  have text : Tape.fieldsText " reel 3;" "007" "ca"
      (some (.binary .plus (.identifier "a") (.digits "2")))
      "\t; kept @@ too " =
        " reel 3;\t007\tca a + 2\t\t; kept @@ too " := by
    decide +kernel
  have parsed := @Line.parse_fields " reel 3;" "007" "ca"
    "\t; kept @@ too " (some (.binary .plus (.identifier "a") (.digits "2")))
    (by decide +kernel) (by decide +kernel)
    (List.all_eq_true.1 (by decide +kernel)) (by decide +kernel)
    (by decide +kernel)
    (by
      rintro _ ⟨⟩
      exact ⟨by decide +kernel, rfl⟩)
    (by decide +kernel) 5
  rw [text] at parsed
  refine ⟨text, parsed.trans ?_⟩
  decide +kernel

end Whirlwind
