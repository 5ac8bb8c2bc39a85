import Whirlwind.Line.Sequence
import Whirlwind.Proofs.Tape.Preservation
import Whirlwind.Proofs.Tape.Reference

/-!
# What becomes of directives

A line of a tape listing may hold a directive of any name.  The name of its
instruction is all that is kept of it in rebuilt source, and a dot is put only in
front of the names that are replaced by one with a dot.  So the line of any other
directive is read as an instruction of the same name that is no directive
(`Place.keepsInstruction_iff`).
-/

namespace Whirlwind.Tape

/-- The names that are replaced in rebuilt source. -/
def renamedOpcodes : List String :=
  ["sl", "sr", "p"]

/-- Whatever has another name is read as no directive. -/
theorem assemblyInstruction_of_not_mem {name : String}
    (kept : name ∉ renamedOpcodes) :
    assemblyInstruction name = ⟨name, false⟩ := by
  unfold assemblyInstruction
  split <;> first | rfl | exact absurd (by decide) kept

/-- An operand is missing or decimal. -/
def IsDecimal (operand : Option Expr) : Prop :=
  ∀ expr ∈ operand, ∃ digits, expr = .digits digits ∧
    IsNumber Char.isDigit digits

/-- No name is replaced in such an operand, and it is read from its text. -/
theorem IsDecimal.spells {operand : Option Expr} (decimal : IsDecimal operand)
    (inside : String) :
    Spells (RebuiltOperand.ofOperand inside operand).text operand := by
  cases operand with
  | none => exact .nothing
  | some expr =>
      rcases decimal expr rfl with ⟨digits, rfl, number⟩
      have shape : (Expr.digits digits).WellFormed := number
      exact .tree number.1 (Lexer.writes_listing ⟨rfl, Or.inr rfl⟩ shape)

variable {records : List Line} {place : Place} {stated : Instruction}

/--
The line of an instruction with a decimal operand is read with the same name and
operand, but never as a directive.  So it is read as the same instruction if and
only if that is no directive.
-/
theorem Place.keepsInstruction_iff {text : String} {lineNumber : Nat}
    {has : Bool} (member : place ∈ places records)
    (word : place.isWord = true)
    (accepted : Line.parse text lineNumber .tape = .ok (has, place.record))
    (instruction : place.record.instruction = some stated)
    (plain : stated.name ∉ Instruction.rawDirectives)
    (kept : stated.name ∉ renamedOpcodes)
    (decimal : IsDecimal place.record.operand)
    (named : IsName place.inside) (apart : ¬CompletesRadix place.inside) :
    place.rebuilt ∈ RebuiltLine.ofLines records ∧
      ∀ number, ∃ line,
        Line.parse (place.rebuilt.text (RebuiltLine.ofLines records)) number
          .assembly = .ok (true, line) ∧
        line.opcode = stated.name ∧
        line.operand = place.record.operand ∧
        line.isDirective = false ∧
        (line.instruction = some stated ↔ stated.isDirective = false) := by
  refine ⟨Place.rebuilt_mem_ofLines member word, fun number => ?_⟩
  have lexemes : ∀ other ∈ place.record.instruction,
      other.takesRawOperand = false := by
    rw [instruction]
    rintro _ ⟨⟩
    rw [Instruction.takesRawOperand, Bool.and_eq_false_iff]
    exact Or.inr (by simpa using plain)
  have record := Line.isRecord_of_parse_lexemes accepted lexemes
  rcases Place.exists_of_isWord word with ⟨found, stands, rebuilt⟩
  rcases Option.some.inj (instruction.symm.trans stands) with rfl
  rcases Place.parse_word record instruction rebuilt
    (fun _ => Place.isName_label record named apart)
    (decimal.spells place.inside) with ⟨trailing, auto, _, parsed⟩
  rcases parsed number with ⟨raw, read⟩
  rw [assemblyInstruction_of_not_mem kept] at read
  refine ⟨_, read, rfl, rfl, rfl, ?_⟩
  rcases stated with ⟨name, directive⟩
  simp [eq_comm]

/-- A directive that is rebuilt as an instruction. -/
theorem Place.keepsInstruction_iff_word :
    ∃ records : List Line,
      LineSequence.parse ["\t\tsection main", "\t0\t.word 5"] .tape =
        { lines := records } ∧
      sourceText (RebuiltLine.ofLines records) =
        "main:\n          word 5\n" ∧
      ∃ place ∈ places records,
        place.record.instruction = some ⟨"word", true⟩ ∧
        ∃ line,
          Line.parse (place.rebuilt.text (RebuiltLine.ofLines records)) 2
            .assembly = .ok (true, line) ∧
          line.opcode = "word" ∧ line.operand = some (.digits "5") ∧
          line.isDirective = false := by
  let heading : Line :=
    { rawText := "\t\tsection main", lineNumber := 1
      instruction := some ⟨"section", false⟩
      operand := some (.identifier "main") }
  let word : Line :=
    { rawText := "\t0\t.word 5", lineNumber := 2
      offset := some 0
      instruction := some ⟨"word", true⟩
      operand := some (.digits "5") }
  let place : Place := ⟨"main", word⟩
  have parsed : LineSequence.parse
      ["\t\tsection main", "\t0\t.word 5"] .tape =
        { lines := [heading, word] } := by decide +kernel
  have accepted : Line.parse "\t0\t.word 5" 2 .tape = .ok (true, word) :=
    Except.eq_ok_of_toOption (by decide +kernel)
  have member : place ∈ places [heading, word] := by
    simp [places, placesFrom, place, heading, word, opensSection,
      headingName, RebuiltLine.headingOpcode, Expr.listing]
  have decimal : IsDecimal place.record.operand := by
    rintro _ ⟨⟩
    exact ⟨"5", rfl, by decide⟩
  rcases (Place.keepsInstruction_iff member (by decide) accepted rfl
    (by decide) (by decide) decimal (by decide) (by decide)).2 2 with
    ⟨line, read, opcode, operand, undirected, _⟩
  exact ⟨_, parsed, by decide +kernel, place, member, rfl, line, read, opcode,
    operand, undirected⟩

end Whirlwind.Tape
