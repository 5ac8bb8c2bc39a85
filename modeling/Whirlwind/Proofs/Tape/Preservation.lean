import Mathlib.Data.List.Forall2
import Mathlib.Data.List.Infix
import Whirlwind.Proofs.Tape.Layout
import Whirlwind.Proofs.Tape.Writing

/-!
# Rebuilding keeps the program

If no section has a name that completes a radix mark, then each instruction of
a listing is written as a line of assembly source with the same operand, up to
the names of words, and the same comment.  It has a label if and only if an
operand refers to it (`IsListing.exists_keeps`).
-/

namespace Whirlwind.Tape

/-! ## Instructions -/

/-- What an instruction of a tape is read as in assembly source. -/
def assemblyInstruction : String → Instruction
  | "sl" => ⟨"slr", false⟩
  | "sr" => ⟨"srr", false⟩
  | "p" => ⟨"word", true⟩
  | name => ⟨name, false⟩

theorem listing_assemblyInstruction (name : String) :
    (assemblyInstruction name).listing = assemblyOpcode name := by
  unfold assemblyInstruction assemblyOpcode
  split <;> simp [Instruction.listing]

theorem isName_assemblyInstruction {name : String} (named : IsName name) :
    IsName (assemblyInstruction name).name := by
  unfold assemblyInstruction
  split <;> first | decide | exact named

/-- The only directive is one that has an operand of lexemes. -/
theorem isDirective_assemblyInstruction {name : String}
    (directed : (assemblyInstruction name).isDirective = true) :
    assemblyInstruction name = ⟨"word", true⟩ := by
  unfold assemblyInstruction at directed ⊢
  split at directed <;> first | rfl | cases directed

theorem takesRawOperand_assemblyInstruction (name : String) :
    (assemblyInstruction name).takesRawOperand = false := by
  cases directed : (assemblyInstruction name).isDirective with
  | false => rw [Instruction.takesRawOperand, directed, Bool.false_and]
  | true =>
      rw [isDirective_assemblyInstruction directed]
      decide

/-! ## Operands -/

/-- An operand can be read as such in assembly source. -/
def IsReadable (operand : Option Expr) : Prop :=
  ∀ expr ∈ operand, expr.WellFormed ∧ expr.hasAssignment = false

/-- What a readable operand is renamed to is readable, but for a radix mark. -/
theorem Renames.isReadable {inside : String} {operand result : Option Expr}
    (renames : Renames inside operand result) (named : IsName inside)
    (apart : CompletesRadix inside → operand ≠ some (.identifier "0r"))
    (readable : IsReadable operand) : IsReadable result := by
  cases renames with
  | relative number =>
      rintro _ ⟨⟩
      refine ⟨(isName_append_iff number named).2 ?_, rfl⟩
      rintro ⟨rfl, completes⟩
      exact apart completes rfl
  | other => exact readable

/-- A readable operand is read from its text. -/
theorem spells_ofOperand {inside : String} {operand : Option Expr}
    (leaves : ∀ expr ∈ renamed inside operand, expr.Wordlike)
    (readable : IsReadable (renamed inside operand)) :
    Spells (RebuiltOperand.ofOperand inside operand).text
      (renamed inside operand) := by
  rw [RebuiltOperand.text_ofOperand]
  cases result : renamed inside operand with
  | none => exact .nothing
  | some expr =>
      rcases readable expr result with ⟨shape, unassigned⟩
      exact .tree (leaves expr result).listing_ne_empty
        (Lexer.writes_listing ⟨rfl, Or.inr unassigned⟩ shape)

/-! ## Lines of instructions -/

section

variable {records : List Line} {place : Place} {stated : Instruction}
  {operand : Option Expr}

/-- A label is a name if its section does not complete a radix mark. -/
theorem Place.isName_label (record : place.record.IsRecord)
    (named : IsName place.inside) (apart : ¬CompletesRadix place.inside) :
    IsName place.label := by
  rcases place.exists_label_eq record with ⟨digits, number, same, _⟩
  rw [same, isName_append_iff number named]
  exact fun zero => apart zero.2

/--
The line of an instruction is read as that instruction if its label, when it has
one, and its operand are read as such.
-/
theorem Place.parse_word (record : place.record.IsRecord)
    (instruction : place.record.instruction = some stated)
    (rebuilt : place.rebuilt = .instruction (place.word stated))
    (labelled : Refers records place.label → IsName place.label)
    (spells : Spells (place.word stated).operand.text operand) :
    ∃ trailing auto,
      (¬['@', '@'] <:+: place.record.trailingComment.toList →
        trailing = place.record.trailingComment ∧ auto = "") ∧
      ∀ lineNumber, ∃ raw,
        Line.parse (place.rebuilt.text (RebuiltLine.ofLines records)) lineNumber
          .assembly = .ok (true,
            { rawText := raw
              lineNumber := lineNumber
              label := if Refers records place.label then some place.label
                else none
              instruction := some (assemblyInstruction stated.name)
              operand := operand
              trailingComment := trailing
              autoComment := auto }) := by
  have unconditional : assemblyInstruction stated.name ≠ ⟨"if", true⟩ := by
    intro same
    have directive := isDirective_assemblyInstruction (congrArg _ same)
    exact absurd (same.symm.trans directive) (by decide)
  have referenced := isReferenced_iff records place.label
  rcases (place.word stated).parse_text
    (fun written => labelled (referenced.1 written))
    (listing_assemblyInstruction stated.name).symm
    (isName_assemblyInstruction (record.instruction stated instruction))
    (takesRawOperand_assemblyInstruction stated.name) unconditional spells
    record.trailingComment with ⟨trailing, auto, kept, parsed⟩
  simp only [referenced] at parsed
  rw [rebuilt]
  exact ⟨trailing, auto, kept, fun lineNumber => ⟨_, parsed lineNumber⟩⟩

end

/-! ## Whole sources -/

/-- What the line of a record in rebuilt source says. -/
inductive Keeps (records : List Line) : Place → String → Prop where
  | heading {place : Place} (opens : opensSection place.record = true) :
      Keeps records place (place.inside ++ ":")
  | comment {place : Place} (absent : place.record.instruction = none) :
      Keeps records place ("; " ++ place.record.leadingComment)
  | word {place : Place} {text : String} {stated : Instruction}
      {operand : Option Expr}
      (word : place.isWord = true)
      (instruction : place.record.instruction = some stated)
      (renames : Renames place.inside place.record.operand operand)
      (parsed : ∀ lineNumber, ∃ raw, Line.parse text lineNumber .assembly =
        .ok (true,
          { rawText := raw
            lineNumber := lineNumber
            label := if Refers records place.label then some place.label
              else none
            instruction := some (assemblyInstruction stated.name)
            operand := operand
            trailingComment := place.record.trailingComment })) :
      Keeps records place text

namespace IsListing

variable {records : List Line}

/-- A record of a listing without names that complete radix marks is kept. -/
theorem keeps_rebuilt
    (listing : IsListing (fun first =>
      Scan.isNameStart first = true ∧ first ≠ 'o' ∧ first ≠ 'x') records)
    (operands : ∀ record ∈ records, ∀ expr ∈ record.operand, expr.WellFormed)
    (unsplit : ∀ record ∈ records,
      ¬['@', '@'] <:+: record.trailingComment.toList)
    {place : Place} (member : place ∈ places records) :
    Keeps records place
      (place.rebuilt.text (RebuiltLine.ofLines records)) := by
  have isIn := record_mem_of_mem member
  rcases place.rebuilt_cases with ⟨absent, rebuilt⟩ | ⟨opens, rebuilt⟩ | word
  · rw [rebuilt]
    exact .comment absent
  · rw [rebuilt]
    exact .heading opens
  · have record := listing.isRecord isIn
    rcases Place.exists_of_isWord word with ⟨stated, instruction, rebuilt⟩
    rcases listing.inside member (Place.hasInstruction_of_isWord word) with
      ⟨named, first, initial, _, notOctal, notHexadecimal⟩
    have apart : ¬CompletesRadix place.inside := by
      rintro (octal | hexadecimal)
      · exact notOctal (Option.some.inj (initial.symm.trans octal))
      · exact notHexadecimal
          (Option.some.inj (initial.symm.trans hexadecimal))
    have renames := renames_renamed place.inside place.record.operand
    have readable := renames.isReadable named
      (fun completes => absurd completes apart) fun expr isOperand =>
        ⟨operands _ isIn expr isOperand, record.unassigned expr isOperand⟩
    have labelled := Place.isName_label record named apart
    rcases Place.parse_word record instruction rebuilt (fun _ => labelled)
      (spells_ofOperand (renames.wordlike named record.wordlike) readable)
      with ⟨trailing, auto, keeps, parsed⟩
    rcases keeps (unsplit _ isIn) with ⟨rfl, rfl⟩
    exact .word word instruction renames parsed

/--
The records of a listing are written one by one, and are kept.  Those without an
instruction that are written hold a comment in their first field.
-/
theorem exists_keeps
    (listing : IsListing (fun first =>
      Scan.isNameStart first = true ∧ first ≠ 'o' ∧ first ≠ 'x') records)
    (operands : ∀ record ∈ records, ∀ expr ∈ record.operand, expr.WellFormed)
    (unsplit : ∀ record ∈ records,
      ¬['@', '@'] <:+: record.trailingComment.toList) :
    ∃ texts : List String,
      Text.lines '\n' (sourceText (RebuiltLine.ofLines records)).toList =
        texts.map (fun text => text.toList ++ ['\n']) ∧
      List.Forall₂ (Keeps records)
        ((places records).filter Place.isWritten) texts := by
  refine ⟨_, listing.lines_sourceText, ?_⟩
  rw [List.forall₂_map_right_iff, List.forall₂_same]
  intro place kept
  exact listing.keeps_rebuilt operands unsplit (List.mem_filter.1 kept).1

/-- A word that refers to itself, behind the title of a tape. -/
theorem exists_keeps_self :
    ∃ records : List Line,
      sourceText (RebuiltLine.ofLines records) =
        "; Tape 7\nmain:\n0main:    ca 0main             ; load it\n" ∧
      ∃ texts : List String,
        Text.lines '\n' (sourceText (RebuiltLine.ofLines records)).toList =
          texts.map (fun text => text.toList ++ ['\n']) ∧
        List.Forall₂ (Keeps records)
          ((places records).filter Place.isWritten) texts := by
  let title : Line :=
    { rawText := "Tape 7", lineNumber := 1, leadingComment := "Tape 7" }
  let heading : Line :=
    { rawText := "\t\tsection main", lineNumber := 2
      instruction := some ⟨"section", false⟩
      operand := some (.identifier "main") }
  let word : Line :=
    { rawText := "\t0\tca 0r\tload it", lineNumber := 3
      offset := some 0
      instruction := some ⟨"ca", false⟩
      operand := some (.identifier "0r")
      trailingComment := "load it" }
  have parsedTitle : Line.parse "Tape 7" 1 .tape = .ok (false, title) :=
    Except.eq_ok_of_toOption (by decide +kernel)
  have parsedHeading : Line.parse "\t\tsection main" 2 .tape =
      .ok (true, heading) := Except.eq_ok_of_toOption (by decide +kernel)
  have parsedWord : Line.parse "\t0\tca 0r\tload it" 3 .tape =
      .ok (true, word) := Except.eq_ok_of_toOption (by decide +kernel)
  have listing : IsListing (fun first =>
      Scan.isNameStart first = true ∧ first ≠ 'o' ∧ first ≠ 'x')
      [title, heading, word] :=
    { parsed := List.forall_mem_cons.2 ⟨⟨_, _, _, parsedTitle⟩,
        List.forall_mem_cons.2 ⟨⟨_, _, _, parsedHeading⟩,
          List.forall_mem_singleton.2 ⟨_, _, _, parsedWord⟩⟩⟩
      undirected := by decide
      named := List.forall_mem_cons.2 ⟨nofun,
        List.forall_mem_cons.2 ⟨fun _ => ⟨"main", rfl, 'm', rfl, by decide⟩,
          List.forall_mem_singleton.2 fun opens =>
            absurd opens (by decide)⟩⟩
      opened := by
        simp only [← List.mem_inits]
        decide }
  have source : sourceText (RebuiltLine.ofLines [title, heading, word]) =
      "; Tape 7\nmain:\n0main:    ca 0main             ; load it\n" := by
    decide +kernel
  have unsplit : ∀ record ∈ [title, heading, word],
      ¬['@', '@'] <:+: record.trailingComment.toList := by
    decide +kernel
  have operands : ∀ record ∈ [title, heading, word],
      ∀ expr ∈ record.operand, expr.WellFormed := by
    refine List.forall_mem_cons.2 ⟨(fun _ member => nomatch member),
      List.forall_mem_cons.2 ⟨?_, List.forall_mem_singleton.2 ?_⟩⟩
    · rintro _ ⟨⟩
      exact (by decide : IsName "main")
    · rintro _ ⟨⟩
      exact (by decide : IsName "0r")
  exact ⟨[title, heading, word], source,
    exists_keeps listing operands unsplit⟩

end IsListing

end Whirlwind.Tape
