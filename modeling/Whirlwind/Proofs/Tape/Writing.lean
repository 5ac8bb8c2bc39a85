import Whirlwind.Proofs.Tape.Section

/-!
# Reading rebuilt source

The text of a rebuilt instruction consists of three fields: the label, the
opcode with its operand, and the comment.  Blanks pad the first two, unless what
they hold is too wide.  Whatever the widths are, the fields are read as the
parts of a line of assembly source (`RebuiltInstruction.parse_text`).
-/

namespace Whirlwind

open Lexer

/-! ## Lines that are given by their lexemes -/

/-- The lexemes of a statement, if there is one. -/
def statementLexemes (statement : Option Statement) : List Lexeme :=
  instructionLexemes (statement.map Statement.instruction) ++
    operandLexemes (statement.bind Statement.operand)

theorem tells_statement {statement : Option Statement} {rest : List Lexeme}
    {last : Lexer}
    (parsed : ∀ told ∈ statement, told.instruction.takesRawOperand = false)
    (stops : EndsOperand rest) :
    Tells statement (statementLexemes statement ++ rest) last rest last := by
  rw [statementLexemes, List.append_assoc]
  exact .of_parsed parsed (spells_operandLexemes _) stops

/-- A text with the lexemes of some parts is read as a line with these parts. -/
theorem Line.parse_of_gives {text : String} {label : Option String}
    {statement : Option Statement} {trailing auto : Option String}
    (gives : Gives .assembly .start text.toList
      (labelLexemes label ++ (statementLexemes statement ++
        (commentLexemes trailing auto ++ [.finish]))) .start [])
    (parsed : ∀ told ∈ statement, told.instruction.takesRawOperand = false)
    (apart : Tells.Conditioned none label statement) (lineNumber : Nat) :
    Line.parse text lineNumber .assembly =
      .ok (statement.isSome,
        { rawText := String.ofList (Text.trimLineEnd text.toList)
          lineNumber := lineNumber
          label := label
          instruction := statement.map Statement.instruction
          operand := statement.bind Statement.operand
          trailingComment := keptComment trailing
          autoComment := keptComment auto }) := by
  rcases gives _ (faces_ofText text lineNumber .assembly) with
    ⟨last, reads, _⟩
  have tells : Tells statement _ last _ last :=
    tells_statement parsed (TokenStream.endsOperand_comments trailing auto)
  have offers : (TokenStream.ofText text lineNumber .assembly).Offers
      (addressLexemes none ++ ([] ++ (labelLexemes label ++
        (statementLexemes statement ++
          (commentLexemes trailing auto ++ [.finish]))))) last :=
    TokenStream.offers_ofText reads
  have unconditional : Phrase.atom.Spells [.mark '.', .identifier "if"] []
      none := rfl
  have yields := offers.yields_assemblyLine
    { rawText := String.ofList (Text.trimLineEnd text.toList)
      lineNumber := lineNumber } tells unconditional apart
  exact yields.answer_eq

/-! ## Comments -/

/-- A comment is read, and kept as it is unless at signs split it. -/
theorem IsRemark.exists_gives {comment : String} (remark : IsRemark comment) :
    ∃ trailing auto,
      (¬['@', '@'] <:+: comment.toList →
        keptComment trailing = comment ∧ keptComment auto = "") ∧
      ∀ gap, Grammar.assembly.Skips gap →
        Gives .assembly .start (gap ++ ';' :: ' ' :: comment.toList)
          (commentLexemes trailing auto ++ [.finish]) .start [] := by
  have finish : Gives .assembly .start [] [.finish] .start [] :=
    gives_finish (Grammar.skips_nil _)
  have inLine : '\n' ∉ ' ' :: comment.toList := by simpa using remark.inLine
  cases found : Scan.beforeAtSigns? (' ' :: comment.toList) with
  | none =>
      exact ⟨some _, none, fun _ => ⟨remark.trim_behindBlank, rfl⟩,
        fun gap gaps => (gives_comment rfl gaps inLine found).trans finish⟩
  | some body =>
      rcases Scan.beforeAtSigns?_found found with ⟨rest, written, splits⟩
      refine ⟨some (String.ofList body),
        some (String.ofList (Text.trimReturns rest)), fun unsplit => ?_,
        fun gap gaps => ?_⟩
      · have alone : Scan.beforeAtSigns? (' ' :: comment.toList) = none := by
          rw [Scan.beforeAtSigns?_eq_none_iff, List.infix_cons_iff, not_or]
          exact ⟨by simp, unsplit⟩
        cases alone.symm.trans found
      · rw [written] at inLine ⊢
        simp only [List.mem_append, List.mem_cons, not_or] at inLine
        rcases inLine with ⟨bodyInLine, _, _, restInLine⟩
        have front : Gives .assembly .start _ _ .autoComment rest :=
          gives_splitComment rfl gaps bodyInLine splits
        have both := (front.trans (gives_dueComment restInLine)).trans finish
        simpa [commentLexemes] using both

/-! ## Lines without an instruction -/

/-- A name and a colon are read as a label. -/
theorem Line.parse_heading {name : String} (named : IsName name)
    (lineNumber : Nat) :
    ∃ line, Line.parse (name ++ ":") lineNumber .assembly =
      .ok (false, line) := by
  have front : Gives .assembly .start ([] ++ (name.toList ++ [':']))
      [.identifier name] .start [':'] :=
    gives_identifier rfl (Grammar.skips_nil _) named (Grammar.closes_cons.2 rfl)
  have colon : Gives .assembly .start ([] ++ ':' :: []) [.mark ':'] .start [] :=
    gives_mark ':' (Grammar.skips_nil _) rfl
  have whole := (front.trans colon).trans (gives_finish (Grammar.skips_nil _))
  rw [List.nil_append] at whole
  have written : (name ++ ":").toList = name.toList ++ [':'] := by simp
  rw [← written] at whole
  have gives : Gives .assembly .start (name ++ ":").toList
      (labelLexemes (some name) ++ (statementLexemes none ++
        (commentLexemes none none ++ [.finish]))) .start [] := whole
  exact ⟨_, Line.parse_of_gives gives nofun nofun lineNumber⟩

/-- A comment is read as a line of its own. -/
theorem Line.parse_comment {comment : String} (remark : IsRemark comment)
    (lineNumber : Nat) :
    ∃ line, Line.parse ("; " ++ comment) lineNumber .assembly =
      .ok (false, line) := by
  rcases remark.exists_gives with ⟨trailing, auto, _, comments⟩
  have whole := comments [] (Grammar.skips_nil _)
  rw [List.nil_append] at whole
  have written : ("; " ++ comment).toList = ';' :: ' ' :: comment.toList := by
    simp
  rw [← written] at whole
  have gives : Gives .assembly .start ("; " ++ comment).toList
      (labelLexemes none ++ (statementLexemes none ++
        (commentLexemes trailing auto ++ [.finish]))) .start [] := whole
  exact ⟨_, Line.parse_of_gives gives nofun nofun lineNumber⟩

/-! ## Fields -/

/-- A text is read as an operand, or there is neither. -/
inductive Spells : String → Option Expr → Prop where
  | nothing : Spells "" none
  | tree {text : String} {expr : Expr} (visible : text ≠ "")
      (writes : Writes .assembly text expr.lexemes) : Spells text (some expr)

theorem Grammar.skips_spaces (grammar : Grammar) (count : Nat) :
    grammar.Skips (Text.spaces count).toList := by
  intro character member
  rw [Text.spaces, String.toList_ofList] at member
  rw [List.eq_of_mem_replicate member]
  cases grammar <;> rfl

namespace Tape.RebuiltInstruction

/-- A label field is a label, if it is written, and a gap. -/
theorem gives_labelField {label : String} {written : Bool} {rest : List Char}
    {lexemes : List Lexeme}
    (named : written = true → IsName label)
    (behind : ∀ gap, Grammar.assembly.Skips gap →
      Gives .assembly .start (gap ++ rest) lexemes .start []) :
    Gives .assembly .start ((labelField label written).toList ++ rest)
      (labelLexemes (if written then some label else none) ++ lexemes)
      .start [] := by
  cases written with
  | false => exact behind _ (Grammar.skips_spaces _ _)
  | true =>
      have gap := Grammar.skips_append
        (Grammar.assembly.skips_spaces
          (labelWidth - (label.utf8ByteSize + 2)))
        (Grammar.skips_blank _)
      have front : Gives .assembly .start ([] ++ (label.toList ++ ':' ::
          ((Text.spaces (labelWidth - (label.utf8ByteSize + 2))).toList ++
            [' '] ++ rest))) [.identifier label] .start _ :=
        gives_identifier rfl (Grammar.skips_nil _) (named rfl)
          (Grammar.closes_cons.2 rfl)
      have whole := (front.trans
        (gives_mark ':' (Grammar.skips_nil _) rfl)).trans (behind _ gap)
      simpa [labelField, labelLexemes] using whole

theorem writes_statement {instruction : Instruction} {text : String}
    {operand : Option Expr} (named : IsName instruction.name)
    (spells : Spells text operand) :
    Writes .assembly (statement instruction.listing text)
      (statementLexemes (some ⟨instruction, operand⟩)) := by
  have writes := writes_instruction named
  cases spells with
  | nothing =>
      simpa [statement, statementLexemes, operandLexemes, instructionLexemes]
        using writes
  | tree visible writesOperand =>
      have whole := writes.append writesOperand.behindBlank
        (by simp [Grammar.closes_cons]; rfl)
      rw [statement, if_neg visible, String.append_assoc]
      exact whole

theorem closes_commentField (opcode operand comment : String) :
    Grammar.assembly.Closes (commentField opcode operand comment).toList := by
  unfold commentField
  split
  · exact Grammar.closes_nil _
  · cases statementWidth - (opcode.utf8ByteSize + operand.utf8ByteSize) <;>
      simp [Text.spaces, List.replicate_succ, Grammar.closes_cons] <;> rfl

/-- A comment field is read as its comment, if there is one. -/
theorem exists_gives_commentField {comment : String} (remark : IsRemark comment)
    (opcode operand : String) :
    ∃ trailing auto,
      (¬['@', '@'] <:+: comment.toList →
        keptComment trailing = comment ∧ keptComment auto = "") ∧
      Gives .assembly .start (commentField opcode operand comment).toList
        (commentLexemes trailing auto ++ [.finish]) .start [] := by
  unfold commentField
  split
  · next silent =>
    exact ⟨none, none, fun _ => ⟨silent.symm, rfl⟩,
      gives_finish (Grammar.skips_nil _)⟩
  · rcases remark.exists_gives with ⟨trailing, auto, kept, gives⟩
    refine ⟨trailing, auto, kept, ?_⟩
    simpa using gives _ (Grammar.assembly.skips_spaces
      (statementWidth - (opcode.utf8ByteSize + operand.utf8ByteSize)))

theorem text_toList (word : RebuiltInstruction) (written : Bool) :
    (word.text written).toList =
      (labelField word.label written).toList ++
        ((statement word.opcode word.operand.text).toList ++
          (commentField word.opcode word.operand.text word.comment).toList) := by
  simp [text]

/-- The text of an instruction is read as a line with its parts. -/
theorem parse_text {word : RebuiltInstruction} {written : Bool}
    {instruction : Instruction} {operand : Option Expr}
    (labelled : written = true → IsName word.label)
    (opcode : word.opcode = instruction.listing)
    (named : IsName instruction.name)
    (parsed : instruction.takesRawOperand = false)
    (unconditional : instruction ≠ ⟨"if", true⟩)
    (spells : Spells word.operand.text operand)
    (remark : IsRemark word.comment) :
    ∃ trailing auto,
      (¬['@', '@'] <:+: word.comment.toList →
        trailing = word.comment ∧ auto = "") ∧
      ∀ lineNumber, Line.parse (word.text written) lineNumber .assembly =
        .ok (true,
          { rawText :=
              String.ofList (Text.trimLineEnd (word.text written).toList)
            lineNumber := lineNumber
            label := if written then some word.label else none
            instruction := some instruction
            operand := operand
            trailingComment := trailing
            autoComment := auto }) := by
  rcases exists_gives_commentField remark word.opcode word.operand.text with
    ⟨trailing, auto, kept, comments⟩
  refine ⟨keptComment trailing, keptComment auto, kept, fun lineNumber => ?_⟩
  have whole := gives_labelField labelled fun gap gaps =>
    ((writes_statement named spells) gap _ gaps
      (closes_commentField word.opcode word.operand.text word.comment)).trans
      comments
  rw [← opcode, ← text_toList] at whole
  refine Line.parse_of_gives whole ?_ ?_ lineNumber
  · rintro _ ⟨⟩
    exact parsed
  · rintro _ ⟨⟩
    exact absurd rfl unconditional

end Tape.RebuiltInstruction

end Whirlwind
