import Whirlwind.Proofs.Line.Reading
import Whirlwind.Proofs.Text.Trim

/-!
# Listings of lines are read back

A line whose parts can be read as such is read from its listing, apart from its
raw text.  The lexer finds the lexemes of the parts one part after another, as
every part but the first has a blank in front of it.  Only what stands behind a
directive that takes the rest of its line is not read as lexemes.

The condition has to be a single lexeme.  It is listed without parentheses, and
a condition that is read ends where an atom ends.
-/

namespace Whirlwind

open Lexer

/-- A text that is kept as it is: on one line and without blanks at its ends. -/
structure IsRemark (text : String) : Prop where
  trimmed : Text.trim text = text
  inLine : '\n' ∉ text.toList

/-- The parts of a prefix address are numbers. -/
structure PrefixAddress.WellFormed (place : PrefixAddress) : Prop where
  address : IsNumber Char.isDigit place.address
  offset : ∀ digits ∈ place.offset, IsNumber Char.isDigit digits
  contents : IsNumber Char.isDigit place.contents

/-- An operand is of the kind that its instruction takes. -/
def Instruction.Takes (instruction : Instruction) (operand : Expr) : Prop :=
  if instruction.takesRawOperand then
    ∃ raw, operand = .string raw ∧ raw ≠ "" ∧ IsRemark raw
  else operand.WellFormed ∧ operand.hasAssignment = false

/-- The parts of a line of assembly source can be read as such. -/
structure Line.WellFormed (line : Line) : Prop where
  prefixAddress : ∀ address ∈ line.prefixAddress, address.WellFormed
  condition : ∀ expr ∈ line.condition,
    expr.WellFormed ∧ expr.hasAssignment = false
  label : ∀ name ∈ line.label, IsName name
  instruction : ∀ instruction ∈ line.instruction, IsName instruction.name
  operand : ∀ expr ∈ line.operand,
    ∃ instruction ∈ line.instruction, instruction.Takes expr
  trailingComment : IsRemark line.trailingComment
  unsplit : ¬['@', '@'] <:+: line.trailingComment.toList
  autoComment : IsRemark line.autoComment
  /-- The rest of the line is an operand, so there are no comments. -/
  uncommented : ∀ instruction ∈ line.instruction,
    instruction.takesRawOperand = true →
      line.trailingComment = "" ∧ line.autoComment = ""
  /-- A directive named `if` has something in front of it. -/
  unambiguous : line.instruction = some ⟨"if", true⟩ →
    line.condition.isSome = true ∨ line.label.isSome = true
  offset : line.offset = none
  leadingComment : line.leadingComment = ""

/-! ## Parts -/

/-- Parts of a listing behind a gap, with blanks between them. -/
def spread (gap : List Char) : List String → List Char
  | [] => []
  | part :: parts => gap ++ (part.toList ++ spread [' '] parts)

@[simp]
theorem spread_nil (parts : List String) :
    spread [] parts = (" ".intercalate parts).toList := by
  induction parts with
  | nil => rfl
  | cons part parts ih =>
      cases parts with
      | nil => simp [spread]
      | cons next parts =>
          simp only [spread, List.nil_append] at ih
          simp [spread, ih]

theorem closes_spread (parts : List String) :
    Grammar.assembly.Closes (spread [' '] parts) := by
  cases parts with
  | nil => exact Grammar.closes_nil _
  | cons => exact Grammar.closes_cons.2 rfl

/-- What stands in front of a part: a blank, or nothing. -/
def IsSeparator (gap : List Char) : Prop :=
  gap = [] ∨ gap = [' ']

theorem IsSeparator.skips {gap : List Char} (gaps : IsSeparator gap) :
    Grammar.assembly.Skips gap := by
  rcases gaps with rfl | rfl
  · exact Grammar.skips_nil _
  · exact Grammar.skips_blank _

/-- Parts are read as lexemes, behind a gap and in front of other parts. -/
def Leads (parts : List String) (lexemes : List Lexeme) : Prop :=
  ∀ gap rest, IsSeparator gap →
    ∃ other, IsSeparator other ∧
      Gives .assembly .start (spread gap (parts ++ rest)) lexemes .start
        (spread other rest)

@[simp]
theorem leads_nil : Leads [] [] :=
  fun gap _ gaps => ⟨gap, gaps, .done⟩

theorem Leads.append {front back : List String} {first second : List Lexeme}
    (leads : Leads front first) (later : Leads back second) :
    Leads (front ++ back) (first ++ second) := by
  intro gap rest gaps
  rcases leads gap (back ++ rest) gaps with ⟨middle, gapsMiddle, gives⟩
  rcases later middle rest gapsMiddle with ⟨other, gapsOther, givesLater⟩
  rw [List.append_assoc]
  exact ⟨other, gapsOther, gives.trans givesLater⟩

theorem leads_part {part : String} {lexemes : List Lexeme}
    (writes : Writes .assembly part lexemes) : Leads [part] lexemes :=
  fun gap rest gaps =>
    ⟨[' '], Or.inr rfl, writes gap _ gaps.skips (closes_spread rest)⟩

theorem writes_number {text : String}
    (shape : IsNumber Char.isDigit text) :
    Writes .assembly text [.digits text] :=
  fun _ _ gaps closes => gives_digits rfl gaps shape closes

theorem writes_name {name : String} (shape : IsName name) :
    Writes .assembly name [.identifier name] :=
  fun _ _ gaps closes => gives_identifier rfl gaps shape closes

/-- A text with an operator in front of it. -/
theorem Lexer.Writes.behindMark {text : String} {lexemes : List Lexeme}
    (writes : Writes .assembly text lexemes) (mark : Char)
    (marked : Grammar.assembly.isMark mark = true) :
    Writes .assembly (String.singleton mark ++ text)
      (.mark mark :: lexemes) := by
  intro gap rest gaps closes
  have whole := (gives_mark mark gaps marked).trans
    (writes [] rest (Grammar.skips_nil _) closes)
  simpa using whole

/-- Two texts, the second of which can end a word. -/
theorem Lexer.Writes.append {grammar : Grammar} {text later : String}
    {lexemes more : List Lexeme} (writes : Writes grammar text lexemes)
    (writesLater : Writes grammar later more)
    (ends : ∀ rest, grammar.Closes (later.toList ++ rest)) :
    Writes grammar (text ++ later) (lexemes ++ more) := by
  intro gap rest gaps closes
  have behind := writesLater [] rest (Grammar.skips_nil _) closes
  have front := writes gap (later.toList ++ rest) gaps (ends rest)
  simpa using front.trans behind

/-- A number with an at sign in front of it. -/
theorem Lexer.Writes.behindAtSign {digits text : String}
    {lexemes : List Lexeme} (writes : Writes .assembly (digits ++ text) lexemes)
    (shape : IsNumber Char.isDigit digits) :
    Writes .assembly ("@" ++ (digits ++ text)) (.mark '@' :: lexemes) := by
  rcases List.exists_cons_of_ne_nil (show digits.toList ≠ [] by simpa using
    shape.1) with ⟨first, others, written⟩
  have single : first ≠ '@' := by
    rintro rfl
    exact absurd (shape.2 '@' (by simp [written])) (by decide +kernel)
  intro gap rest gaps closes
  have whole := (gives_atSign rfl gaps (by simp [written, single])).trans
    (writes [] rest (Grammar.skips_nil _) closes)
  simpa using whole

theorem writes_address {place : PrefixAddress} (shape : place.WellFormed) :
    Writes .assembly place.listing place.lexemes := by
  rcases place with ⟨digits, offset, contents⟩
  rcases shape with ⟨digitsShape, offsetShape, contentsShape⟩
  have behind := (writes_number contentsShape).behindMark ':' rfl
  have ends : ∀ rest, Grammar.assembly.Closes
      ((String.singleton ':' ++ contents).toList ++ rest) := by
    simp [Grammar.closes_cons]
    rfl
  cases offset with
  | none =>
      have whole := ((writes_number digitsShape).append behind
        ends).behindAtSign digitsShape
      simpa [PrefixAddress.listing, PrefixAddress.lexemes, offsetLexemes,
        String.append_assoc] using whole
  | some offset =>
      have middle := ((writes_number (offsetShape _ rfl)).append behind
        ends).behindMark '.' rfl
      have whole := ((writes_number digitsShape).append middle
        (by simp [Grammar.closes_cons]; rfl)).behindAtSign digitsShape
      simpa [PrefixAddress.listing, PrefixAddress.lexemes, offsetLexemes,
        String.append_assoc] using whole

theorem leads_address {address : Option PrefixAddress}
    (shape : ∀ place ∈ address, place.WellFormed) :
    Leads (address.map PrefixAddress.listing).toList
      (addressLexemes address) := by
  cases address with
  | none => exact leads_nil
  | some place => exact leads_part (writes_address (shape _ rfl))

/-- A blank in front of a text makes no difference to its lexemes. -/
theorem Lexer.Writes.behindBlank {grammar : Grammar} {text : String}
    {lexemes : List Lexeme} (writes : Writes grammar text lexemes) :
    Writes grammar (" " ++ text) lexemes := by
  intro gap rest gaps closes
  have blanks : grammar.Skips (gap ++ [' ']) := by
    intro character member
    rcases List.mem_append.1 member with front | blank
    · exact gaps character front
    · exact Grammar.skips_blank _ character blank
  simpa using writes (gap ++ [' ']) rest blanks closes

theorem leads_condition {condition : Option Expr}
    (shape : ∀ expr ∈ condition,
      expr.WellFormed ∧ expr.hasAssignment = false) :
    Leads (condition.map (".if " ++ ·.listing)).toList
      (conditionLexemes condition) := by
  cases condition with
  | none => exact leads_nil
  | some expr =>
      rcases shape _ rfl with ⟨shaped, free⟩
      have lists : Grammar.assembly.Lists expr := ⟨rfl, Or.inr free⟩
      have named : IsName "if" := by decide +kernel
      have whole := ((writes_name named).append
        (writes_listing lists shaped).behindBlank
        (by simp [Grammar.closes_cons]; rfl)).behindMark '.' rfl
      have same : ".if " = String.singleton '.' ++ "if" ++ " " := by decide +kernel
      rw [← String.append_assoc, ← String.append_assoc, ← same] at whole
      exact leads_part whole

theorem leads_label {label : Option String}
    (shape : ∀ name ∈ label, IsName name) :
    Leads (label.map (· ++ ":")).toList (labelLexemes label) := by
  cases label with
  | none => exact leads_nil
  | some name =>
      refine leads_part fun gap rest gaps closes => ?_
      have colon : Gives .assembly .start (':' :: rest) [.mark ':'] .start
          rest :=
        gives_mark ':' (Grammar.skips_nil _) rfl
      have whole := (gives_identifier rfl gaps (shape _ rfl)
        (Grammar.closes_cons.2 rfl)).trans colon
      simpa [labelLexemes] using whole

theorem writes_instruction {instruction : Instruction}
    (named : IsName instruction.name) :
    Writes .assembly instruction.listing instruction.lexemes := by
  rcases instruction with ⟨name, directive⟩
  have writes := writes_name named
  cases directive with
  | false => exact writes
  | true => exact writes.behindMark '.' rfl

theorem leads_instruction {instruction : Option Instruction}
    (shape : ∀ named ∈ instruction, IsName named.name) :
    Leads (instruction.map Instruction.listing).toList
      (instructionLexemes instruction) := by
  cases instruction with
  | none => exact leads_nil
  | some named => exact leads_part (writes_instruction (shape _ rfl))

theorem leads_operand {operand : Option Expr}
    (shape : ∀ expr ∈ operand, expr.WellFormed ∧ expr.hasAssignment = false) :
    Leads (operand.map Expr.listing).toList (operandLexemes operand) := by
  cases operand with
  | none => exact leads_nil
  | some expr =>
      rcases shape _ rfl with ⟨shaped, free⟩
      exact leads_part (writes_listing ⟨rfl, Or.inr free⟩ shaped)

/-! ## Comments -/

theorem isBlank_of_mem_space :
    ∀ character ∈ [' '], Text.isBlank character = true :=
  List.forall_mem_singleton.2 (by decide)

theorem IsRemark.trim_behindBlank {text : String} (remark : IsRemark text) :
    Text.trim (String.ofList (Text.trimReturns (' ' :: text.toList))) =
      text := by
  rw [Text.trim, String.toList_ofList, Text.trimBlanks_trimReturns,
    ← List.singleton_append,
    Text.trimBlanks_append_left isBlank_of_mem_space]
  exact remark.trimmed

theorem IsRemark.trim_betweenBlanks {text : String} (remark : IsRemark text) :
    Text.trim (String.ofList (' ' :: text.toList ++ [' '])) = text := by
  rw [Text.trim, String.toList_ofList,
    Text.trimBlanks_append_right isBlank_of_mem_space,
    ← List.singleton_append,
    Text.trimBlanks_append_left isBlank_of_mem_space]
  exact remark.trimmed

/-- The parts of a listing that are comments. -/
def commentParts (trailing auto : String) : List String :=
  (if trailing = "" then [] else ["; " ++ trailing]) ++
    (if auto = "" then [] else ["@@ " ++ auto])

/-- Comments at the end of a listing are read as they are kept. -/
theorem gives_comments {trailing auto : String} (remark : IsRemark trailing)
    (unsplit : ¬['@', '@'] <:+: trailing.toList)
    (autoRemark : IsRemark auto) :
    ∃ written autoWritten : Option String,
      keptComment written = trailing ∧ keptComment autoWritten = auto ∧
      ∀ gap, Grammar.assembly.Skips gap →
        Gives .assembly .start (spread gap (commentParts trailing auto))
          (commentLexemes written autoWritten ++ [.finish]) .start [] := by
  have finish : Gives .assembly .start [] [.finish] .start [] :=
    gives_finish (Grammar.skips_nil _)
  have inLine : '\n' ∉ ' ' :: trailing.toList := by
    simpa using remark.inLine
  have autoInLine : '\n' ∉ ' ' :: auto.toList := by
    simpa using autoRemark.inLine
  have alone : Scan.beforeAtSigns? (' ' :: trailing.toList) = none := by
    rw [Scan.beforeAtSigns?_eq_none_iff, List.infix_cons_iff, not_or]
    refine ⟨?_, unsplit⟩
    rintro ⟨later, same⟩
    simp at same
  by_cases silent : trailing = ""
  · by_cases autoSilent : auto = ""
    · exact ⟨none, none, silent.symm, autoSilent.symm, fun gap _ => by
        simpa [commentParts, silent, autoSilent, spread, commentLexemes]
          using finish⟩
    · refine ⟨none, some _, silent.symm, autoRemark.trim_behindBlank,
        fun gap gaps => ?_⟩
      have whole := (gives_autoComment rfl gaps autoInLine).trans finish
      simpa [commentParts, silent, autoSilent, spread, commentLexemes]
        using whole
  · by_cases autoSilent : auto = ""
    · refine ⟨some _, none, remark.trim_behindBlank, autoSilent.symm,
        fun gap gaps => ?_⟩
      have whole := (gives_comment rfl gaps inLine alone).trans finish
      simpa [commentParts, silent, autoSilent, spread, commentLexemes]
        using whole
    · refine ⟨some _, some _, remark.trim_betweenBlanks,
        autoRemark.trim_behindBlank, fun gap gaps => ?_⟩
      have bodyInLine : '\n' ∉ ' ' :: trailing.toList ++ [' '] := by
        simpa using remark.inLine
      have splits : ∀ line, Scan.beforeAtSigns? (' ' :: trailing.toList ++
          [' '] ++ '@' :: '@' :: line) =
            some (' ' :: trailing.toList ++ [' ']) := by
        intro line
        rw [List.append_assoc]
        exact Scan.beforeAtSigns?_append (by decide) alone line
      have front : Gives .assembly .start _ _ .autoComment
          (' ' :: auto.toList) :=
        gives_splitComment rfl gaps bodyInLine splits
      have whole := (front.trans (gives_dueComment autoInLine)).trans finish
      simpa [commentParts, silent, autoSilent, spread, commentLexemes]
        using whole

/-! ## Whole lines -/

/-- A stream offers what its lexer goes on to read. -/
theorem TokenStream.Offers.extend {stream : TokenStream}
    {lexemes more : List Lexeme} {between last : Lexer}
    (offers : stream.Offers lexemes between) (reads : between.Reads more last) :
    stream.Offers (lexemes ++ more) last := by
  rcases offers with ⟨room, fits, fresh, readsFresh, same⟩
  refine ⟨room, fits, fresh ++ more, readsFresh.append reads, ?_⟩
  rw [← List.append_assoc, same]

/-- The instruction of a line and its operand. -/
def Line.statement (line : Line) : Option Statement :=
  line.instruction.map fun instruction => ⟨instruction, line.operand⟩

/-- The parts of a listing in front of the operand. -/
def Line.frontParts (line : Line) : List String :=
  (line.prefixAddress.map PrefixAddress.listing).toList ++
    (line.condition.map (".if " ++ ·.listing)).toList ++
    (line.label.map (· ++ ":")).toList ++
    (line.instruction.map Instruction.listing).toList

/-- The lexemes of the parts of a listing in front of the operand. -/
def Line.frontLexemes (line : Line) : List Lexeme :=
  addressLexemes line.prefixAddress ++ conditionLexemes line.condition ++
    labelLexemes line.label ++
    instructionLexemes line.instruction

theorem Line.WellFormed.leads_front {line : Line} (shape : line.WellFormed) :
    Leads line.frontParts line.frontLexemes :=
  (((leads_address shape.prefixAddress).append
    (leads_condition shape.condition)).append
    (leads_label shape.label)).append (leads_instruction shape.instruction)

theorem Line.listing_eq_spread (line : Line) :
    line.listing.toList = spread [] (line.frontParts ++
      ((line.operand.map (operandListing line.instruction)).toList ++
        commentParts line.trailingComment line.autoComment)) := by
  rw [spread_nil, Line.listing, Line.parts, commentParts, Line.frontParts]
  simp only [List.append_assoc]

/-- The parts of a listing in front of the operand are read. -/
theorem Line.WellFormed.exists_reads_front {line : Line}
    (shape : line.WellFormed) :
    ∃ gap between, IsSeparator gap ∧
      (Lexer.ofText line.listing line.lineNumber .assembly).Reads
        line.frontLexemes between ∧
      between.Faces .assembly .start (spread gap
        ((line.operand.map (operandListing line.instruction)).toList ++
          commentParts line.trailingComment line.autoComment)) := by
  rcases shape.leads_front [] _ (Or.inl rfl) with ⟨gap, gaps, gives⟩
  have faces := Lexer.faces_ofText line.listing line.lineNumber .assembly
  rw [line.listing_eq_spread] at faces
  rcases gives _ faces with ⟨between, reads, facesBetween⟩
  exact ⟨gap, between, gaps, reads, facesBetween⟩

theorem IsRemark.trim_behindSeparator {raw : String} {gap : List Char}
    (remark : IsRemark raw) (gaps : IsSeparator gap) :
    Text.trim (String.ofList (Text.trimReturns (gap ++ raw.toList))) =
      raw := by
  rcases gaps with rfl | rfl
  · rw [Text.trim, String.toList_ofList, Text.trimBlanks_trimReturns]
    exact remark.trimmed
  · exact remark.trim_behindBlank

/-- An operand that is taken as it is, is taken from where it is listed. -/
theorem rawOperand_spread {name : String} {operand : Option Expr}
    {gap : List Char}
    (takes : Instruction.takesRawOperand ⟨name, true⟩ = true)
    (shape : ∀ expr ∈ operand, Instruction.Takes ⟨name, true⟩ expr)
    (gaps : IsSeparator gap) :
    let text := spread gap
      (operand.map (Line.operandListing (some ⟨name, true⟩))).toList
    '\n' ∉ text ∧
      TokenStream.rawOperand
        (Text.trim (String.ofList (Text.trimReturns text))) = operand := by
  cases operand with
  | none =>
      refine ⟨List.not_mem_nil, ?_⟩
      simp [spread, Text.trimReturns, Text.trim, Text.trimBlanks,
        TokenStream.rawOperand]
  | some expr =>
      have takesExpr := shape expr rfl
      rw [Instruction.Takes, if_pos takes] at takesExpr
      rcases takesExpr with ⟨raw, rfl, visible, remark⟩
      have trimmed := remark.trim_behindSeparator gaps
      have inGap : '\n' ∉ gap := by
        rcases gaps with rfl | rfl <;> decide
      simp [spread, Line.operandListing, takes, trimmed, visible, inGap,
        remark.inLine, TokenStream.rawOperand]

/-- Behind a directive that takes it as it is, all of a line is its operand. -/
theorem exists_tells_rest {name : String} {between : Lexer} {text : List Char}
    (takes : Instruction.takesRawOperand ⟨name, true⟩ = true)
    (inLine : '\n' ∉ text) (faces : between.Faces .assembly .start text) :
    ∃ finish, Tells (some ⟨⟨name, true⟩, TokenStream.rawOperand
        (Text.trim (String.ofList (Text.trimReturns text)))⟩)
      [.mark '.', .identifier name] between [.finish] finish := by
  rcases faces.restOfLine_inLine inLine with ⟨after, run, facesAfter⟩
  rcases gives_finish (Grammar.skips_nil _) after facesAfter with
    ⟨finish, reads, _⟩
  refine ⟨finish, .directive fun token start named offers => ?_⟩
  rcases offers.yields_rawDirective named takes run with
    ⟨last, answered, offersLast⟩
  exact ⟨last, answered, offersLast.extend reads⟩

/-- The rest of a listing behind a directive that takes it as it is. -/
theorem exists_tells_raw {name : String} {operand : Option Expr}
    {between : Lexer} {gap : List Char}
    (takes : Instruction.takesRawOperand ⟨name, true⟩ = true)
    (shape : ∀ expr ∈ operand, Instruction.Takes ⟨name, true⟩ expr)
    (gaps : IsSeparator gap)
    (faces : between.Faces .assembly .start (spread gap
      (operand.map (Line.operandListing (some ⟨name, true⟩))).toList)) :
    ∃ finish, Tells (some ⟨⟨name, true⟩, operand⟩)
      [.mark '.', .identifier name] between [.finish] finish := by
  rcases rawOperand_spread takes shape gaps with ⟨inLine, kept⟩
  have tells := exists_tells_rest takes inLine faces
  rwa [kept] at tells

/-- An operand that is read as an expression, and the comments behind it. -/
theorem exists_reads_operand {instruction : Instruction}
    {operand : Option Expr} {trailing auto : String} {between : Lexer}
    {gap : List Char} (parsed : instruction.takesRawOperand = false)
    (shape : ∀ expr ∈ operand, instruction.Takes expr)
    (remark : IsRemark trailing) (unsplit : ¬['@', '@'] <:+: trailing.toList)
    (autoRemark : IsRemark auto) (gaps : IsSeparator gap)
    (faces : between.Faces .assembly .start (spread gap
      ((operand.map (Line.operandListing (some instruction))).toList ++
        commentParts trailing auto))) :
    ∃ (last : Lexer) (written autoWritten : Option String),
      between.Reads (operandLexemes operand ++
        (commentLexemes written autoWritten ++ [.finish])) last ∧
      keptComment written = trailing ∧ keptComment autoWritten = auto := by
  have listed : operand.map (Line.operandListing (some instruction)) =
      operand.map Expr.listing := by
    refine congrArg (operand.map ·) (funext fun expr => ?_)
    cases expr <;> simp [Line.operandListing, parsed]
  have leads := leads_operand fun expr member => by
    have takes := shape expr member
    rwa [Instruction.Takes, if_neg (by simp [parsed])] at takes
  rw [listed] at faces
  rcases leads gap _ gaps with ⟨other, gapsOther, gives⟩
  rcases gives between faces with ⟨middle, reads, facesMiddle⟩
  rcases gives_comments remark unsplit autoRemark with
    ⟨written, autoWritten, kept, autoKept, givesComments⟩
  rcases givesComments other gapsOther.skips middle facesMiddle with
    ⟨last, readsComments, _⟩
  exact ⟨last, written, autoWritten, reads.append readsComments, kept,
    autoKept⟩

/-- Without an instruction there is no operand. -/
theorem Line.WellFormed.operand_eq_none {line : Line}
    (shape : line.WellFormed) (named : line.instruction = none) :
    line.operand = none := by
  cases given : line.operand with
  | none => rfl
  | some expr =>
      rcases shape.operand expr given with ⟨instruction, member, _⟩
      rw [named] at member
      cases member

/-- Behind the name of an instruction the rest of its statement is read. -/
theorem Line.WellFormed.exists_tells {line : Line} (shape : line.WellFormed)
    {between : Lexer} {gap : List Char} (gaps : IsSeparator gap)
    (faces : between.Faces .assembly .start (spread gap
      ((line.operand.map (operandListing line.instruction)).toList ++
        commentParts line.trailingComment line.autoComment))) :
    ∃ (more : List Lexeme) (last finish : Lexer) (written auto : Option String),
      between.Reads more last ∧
      Tells line.statement
        (instructionLexemes line.instruction ++ more) last
        (commentLexemes written auto ++ [.finish]) finish ∧
      keptComment written = line.trailingComment ∧
      keptComment auto = line.autoComment := by
  cases named : line.instruction with
  | none =>
      rw [shape.operand_eq_none named] at faces
      rcases gives_comments shape.trailingComment shape.unsplit
        shape.autoComment with ⟨written, auto, kept, autoKept, gives⟩
      rcases gives gap gaps.skips between faces with ⟨last, reads, _⟩
      refine ⟨_, last, last, written, auto, reads, ?_, kept, autoKept⟩
      simpa [Line.statement, named, instructionLexemes] using
        Tells.nothing (TokenStream.endsOperand_comments written auto)
  | some instruction =>
      have takesOperand : ∀ expr ∈ line.operand, instruction.Takes expr := by
        intro expr member
        rcases shape.operand expr member with ⟨other, same, takes⟩
        rw [named] at same
        exact Option.some.inj same ▸ takes
      rw [named] at faces
      rcases instruction with ⟨name, directive⟩
      cases raw : Instruction.takesRawOperand ⟨name, directive⟩ with
      | false =>
          rcases exists_reads_operand raw takesOperand shape.trailingComment
            shape.unsplit shape.autoComment gaps faces with
            ⟨last, written, auto, reads, kept, autoKept⟩
          have tells : Tells (some ⟨⟨name, directive⟩, line.operand⟩) _ last _
              last :=
            .parsed raw (spells_operandLexemes _)
              (TokenStream.endsOperand_comments written auto)
          refine ⟨_, last, last, written, auto, reads, ?_, kept, autoKept⟩
          simpa [Line.statement, named, instructionLexemes] using tells
      | true =>
          rcases shape.uncommented _ named raw with ⟨silent, autoSilent⟩
          have isDirective : directive = true := by
            cases directive with
            | true => rfl
            | false => cases raw
          subst isDirective
          rw [silent, autoSilent, commentParts, if_pos rfl, if_pos rfl,
            List.append_nil, List.append_nil] at faces
          rcases exists_tells_raw raw takesOperand gaps faces with
            ⟨finish, tells⟩
          refine ⟨[], between, finish, none, none, .done, ?_, silent.symm,
            autoSilent.symm⟩
          simpa [Line.statement, named, instructionLexemes,
            Instruction.lexemes, commentLexemes] using tells

theorem Line.WellFormed.withStatement {line other : Line}
    (shape : line.WellFormed) :
    other.withStatement line.statement =
      { other with
        instruction := line.instruction
        operand := line.operand } := by
  unfold Line.withStatement Line.statement
  cases named : line.instruction with
  | some instruction => rfl
  | none =>
      rw [shape.operand_eq_none named]
      rfl

/-- Lexer and stream, one after the other, make the line of its listing. -/
theorem Line.WellFormed.yields_listing {line : Line}
    (shape : line.WellFormed)
    (leaf : ∀ expr ∈ line.condition, expr.isLeaf = true) (raw : String) :
    ∃ last, (TokenStream.assemblyLine
        { rawText := raw, lineNumber := line.lineNumber }).Yields
      (TokenStream.ofText line.listing line.lineNumber .assembly)
      (line.hasInstruction, { line with rawText := raw }) [] last := by
  rcases shape.exists_reads_front with ⟨gap, between, gaps, reads, faces⟩
  rcases shape.exists_tells gaps faces with
    ⟨more, last, finish, written, auto, later, tells, trailing, tool⟩
  have offers := TokenStream.offers_ofText (reads.append later)
  simp only [Line.frontLexemes, List.append_assoc] at offers
  have apart : Tells.Conditioned line.condition line.label line.statement := by
    intro operand same
    refine shape.unambiguous ?_
    rcases Option.map_eq_some_iff.1 same with ⟨instruction, named, conditional⟩
    rw [named, (Statement.mk.inj conditional).1]
  let blank : Line := { rawText := raw, lineNumber := line.lineNumber }
  have yields := offers.yields_assemblyLine blank tells
    (spells_conditionLexemes leaf) apart
  have same : { blank.withStatement line.statement with
      prefixAddress := line.prefixAddress
      condition := line.condition
      label := line.label
      trailingComment := keptComment written
      autoComment := keptComment auto } = { line with rawText := raw } := by
    rw [shape.withStatement, trailing, tool]
    simp only [blank, ← shape.offset, ← shape.leadingComment]
  rw [same, Line.statement, Option.isSome_map] at yields
  exact ⟨finish, yields⟩

/-- A line is read from its listing as it is, apart from its raw text. -/
theorem Line.parse_listing_of_leaf (line : Line) (shape : line.WellFormed)
    (leaf : ∀ expr ∈ line.condition, expr.isLeaf = true) :
    ∃ raw, Line.parse line.listing line.lineNumber .assembly =
      .ok (line.hasInstruction, { line with rawText := raw }) := by
  let raw := String.ofList (Text.trimLineEnd line.listing.toList)
  rcases shape.yields_listing leaf raw with ⟨last, yields⟩
  exact ⟨raw, yields.answer_eq⟩

/-- A line with every part, whose directive is named like a condition. -/
theorem Line.parse_listing_complete :
    ∃ line : Line,
      line.listing = "@12.3:4 .if a loop: .if b + 0x1f ; note @@ more" ∧
      ∃ raw, Line.parse line.listing line.lineNumber .assembly =
        .ok (line.hasInstruction, { line with rawText := raw }) := by
  refine ⟨{ lineNumber := 7
            prefixAddress := some ⟨"12", some "3", "4"⟩
            condition := some (.identifier "a")
            label := some "loop"
            instruction := some ⟨"if", true⟩
            operand := some (.binary .plus (.identifier "b")
              (.unary .hexadecimal (.digits "1f")))
            trailingComment := "note"
            autoComment := "more" },
    by decide +kernel, Line.parse_listing_of_leaf _ ?_ (by simp [Expr.isLeaf])⟩
  have unconditional : Instruction.takesRawOperand ⟨"if", true⟩ = false := by
    decide
  exact
    { prefixAddress := by
        rintro _ ⟨⟩
        refine ⟨by decide +kernel, ?_, by decide +kernel⟩
        rintro _ ⟨⟩
        decide
      condition := by
        rintro _ ⟨⟩
        exact ⟨by decide +kernel, rfl⟩
      label := by
        rintro _ ⟨⟩
        decide
      instruction := by
        rintro _ ⟨⟩
        decide
      operand := by
        rintro _ ⟨⟩
        refine ⟨_, rfl, ?_⟩
        rw [Instruction.Takes, if_neg (by simp [unconditional])]
        exact ⟨⟨by decide +kernel, by decide +kernel⟩, rfl⟩
      trailingComment := ⟨by decide +kernel, by decide +kernel⟩
      unsplit := by decide +kernel
      autoComment := ⟨by decide +kernel, by decide +kernel⟩
      uncommented := by
        rintro _ ⟨⟩ raw
        exact absurd (unconditional.symm.trans raw) (by decide +kernel)
      unambiguous := fun _ => Or.inl rfl
      offset := rfl
      leadingComment := rfl }

end Whirlwind
