import Whirlwind.Proofs.Tape.Naming
import Whirlwind.Proofs.Tape.Record

/-!
# Records in their sections

Which section a record is in depends on the records in front of it.  Put beside
each record, the name of its section makes rebuilding a map: one line of source
for each record that has an instruction or text in its first field, in order
(`RebuiltLine.ofLines_eq`).  Labels are referred to from all sections.
-/

namespace Whirlwind.Tape

/-- Whether a record opens a section. -/
def opensSection (record : Line) : Bool :=
  record.instruction.any fun stated =>
    stated.name = RebuiltLine.headingOpcode

/-- The name of the section that a record opens, which is its operand. -/
def headingName (record : Line) : String :=
  (record.operand.map Expr.listing).getD ""

/-- A record and the name of the section that it is in. -/
structure Place where
  inside : String
  record : Line

/-- The places of records, from inside a section on. -/
def placesFrom (inside : String) : List Line → List Place
  | [] => []
  | record :: rest =>
      let here := if opensSection record then headingName record else inside
      ⟨here, record⟩ :: placesFrom here rest

/-- The places of the records of a listing. -/
def places (records : List Line) : List Place :=
  placesFrom "" records

namespace Place

/-- The label that a record can be referred to by. -/
def label (place : Place) : String :=
  wordLabel place.inside place.record.offset

/-- Whether a record is an instruction of its section. -/
def isWord (place : Place) : Bool :=
  place.record.hasInstruction && !opensSection place.record

/-- Whether a record has a line in the rebuilt source. -/
def isWritten (place : Place) : Bool :=
  place.record.hasInstruction || place.record.leadingComment ≠ ""

/-- An instruction of a section in the rebuilt source. -/
def word (place : Place) (stated : Instruction) : RebuiltInstruction :=
  { label := place.label
    opcode := assemblyOpcode stated.name
    operand := .ofOperand place.inside place.record.operand
    comment := place.record.trailingComment }

/-- The line that a record has in the rebuilt source. -/
def rebuilt (place : Place) : RebuiltLine :=
  match place.record.instruction with
  | none => .comment place.record.leadingComment
  | some stated =>
      if stated.name = RebuiltLine.headingOpcode then .heading place.inside
      else .instruction (place.word stated)

theorem hasInstruction_of_opens {place : Place}
    (opens : opensSection place.record = true) :
    place.record.hasInstruction = true := by
  rw [opensSection] at opens
  cases instruction : place.record.instruction with
  | none => simp [instruction] at opens
  | some => simp [Line.hasInstruction, instruction]

theorem hasInstruction_of_isWord {place : Place} (word : place.isWord = true) :
    place.record.hasInstruction = true :=
  (Bool.and_eq_true_iff.1 word).1

/-- An instruction of its section is rebuilt as an instruction. -/
theorem exists_of_isWord {place : Place} (word : place.isWord = true) :
    ∃ stated, place.record.instruction = some stated ∧
      place.rebuilt = .instruction (place.word stated) := by
  rw [isWord, Line.hasInstruction, opensSection] at word
  cases instruction : place.record.instruction with
  | none => simp [instruction] at word
  | some stated =>
      have other : stated.name ≠ RebuiltLine.headingOpcode := by
        simpa [instruction] using word
      exact ⟨stated, rfl, by simp [rebuilt, instruction, other]⟩

/-- A record is a comment, opens a section or is an instruction of one. -/
theorem rebuilt_cases (place : Place) :
    place.record.instruction = none ∧
      place.rebuilt = .comment place.record.leadingComment ∨
    opensSection place.record = true ∧
      place.rebuilt = .heading place.inside ∨
    place.isWord = true := by
  rw [isWord, Line.hasInstruction, opensSection, rebuilt]
  cases place.record.instruction with
  | none => exact Or.inl ⟨rfl, rfl⟩
  | some stated =>
      by_cases opens : stated.name = RebuiltLine.headingOpcode
      · exact Or.inr (Or.inl (by simp [opens]))
      · exact Or.inr (Or.inr (by simp [opens]))

end Place

theorem RebuiltLine.ofLinesFrom_eq (inside : String) (records : List Line) :
    ofLinesFrom inside records =
      ((placesFrom inside records).filter Place.isWritten).map
        Place.rebuilt := by
  induction records generalizing inside with
  | nil => rfl
  | cons record rest ih =>
      cases stated : record.instruction with
      | none =>
          by_cases silent : record.leadingComment = "" <;>
            simp [ofLinesFrom, placesFrom, opensSection, Place.isWritten,
              Place.rebuilt, Line.hasInstruction, stated, silent, ih]
      | some instruction =>
          by_cases opens : instruction.name = headingOpcode <;>
            simp [ofLinesFrom, placesFrom, opensSection, Place.isWritten,
              Place.rebuilt, Place.word, Place.label, Line.hasInstruction,
              headingName, stated, opens, ih]

/-- Rebuilding is a map of the records in their sections. -/
theorem RebuiltLine.ofLines_eq (records : List Line) :
    ofLines records =
      ((places records).filter Place.isWritten).map Place.rebuilt :=
  ofLinesFrom_eq "" records

/-! ## References -/

/-- Some instruction of a listing has a label as its bare operand. -/
def Refers (records : List Line) (label : String) : Prop :=
  ∃ place ∈ places records, place.isWord = true ∧
    Renames place.inside place.record.operand (some (.identifier label))

theorem RebuiltOperand.eq_reference_iff {inside label : String}
    {operand : Option Expr} :
    RebuiltOperand.ofOperand inside operand = .reference label ↔
      Renames inside operand (some (.identifier label)) := by
  rw [renames_iff]
  cases operand with
  | none => simp [RebuiltOperand.ofOperand, renamed]
  | some expr =>
      cases expr <;> simp [RebuiltOperand.ofOperand, renamed, eq_comm]

theorem Place.refersTo_rebuilt (place : Place) (label : String) :
    RebuiltLine.refersTo label place.rebuilt = true ↔
      place.isWord = true ∧
        Renames place.inside place.record.operand
          (some (.identifier label)) := by
  rw [← RebuiltOperand.eq_reference_iff]
  rcases place.rebuilt_cases with ⟨absent, rebuilt⟩ | ⟨opens, rebuilt⟩ | word
  · simp [rebuilt, RebuiltLine.refersTo, isWord, Line.hasInstruction, absent]
  · simp [rebuilt, RebuiltLine.refersTo, isWord, opens]
  · rcases exists_of_isWord word with ⟨stated, _, rebuilt⟩
    rw [rebuilt, Place.word]
    cases RebuiltOperand.ofOperand place.inside place.record.operand <;>
      simp [RebuiltLine.refersTo, word]

/-- The labels that are referred to are the bare operands of instructions. -/
@[simp]
theorem isReferenced_iff (records : List Line) (label : String) :
    isReferenced (RebuiltLine.ofLines records) label = true ↔
      Refers records label := by
  rw [isReferenced, RebuiltLine.ofLines_eq, List.any_map, List.any_filter,
    List.any_eq_true, Refers]
  constructor
  · rintro ⟨place, member, refers⟩
    rw [Bool.and_eq_true] at refers
    exact ⟨place, member, (place.refersTo_rebuilt label).1 refers.2⟩
  · rintro ⟨place, member, word, renames⟩
    have written : place.isWritten = true := by
      rw [Place.isWritten, Place.hasInstruction_of_isWord word, Bool.true_or]
    exact ⟨place, member, Bool.and_eq_true_iff.2 ⟨written,
      (place.refersTo_rebuilt label).2 ⟨word, renames⟩⟩⟩

instance (records : List Line) (label : String) :
    Decidable (Refers records label) :=
  decidable_of_iff _ (isReferenced_iff records label)

/-! ## Sections of instructions -/

/--
A record is in a section that the listing opens, or it stands in front of all
of them.
-/
theorem mem_placesFrom {inside : String} {records : List Line} {place : Place}
    (member : place ∈ placesFrom inside records) :
    (∃ heading ∈ records, opensSection heading = true ∧
      headingName heading = place.inside) ∨
    place.inside = inside ∧ ∃ front, front <+: records ∧
      place.record ∈ front ∧ front.any opensSection = false := by
  induction records generalizing inside with
  | nil => cases member
  | cons record rest ih =>
      cases opens : opensSection record with
      | true =>
          simp only [placesFrom, opens, if_true, List.mem_cons] at member
          rcases member with rfl | behind
          · exact Or.inl ⟨record, List.mem_cons_self, opens, rfl⟩
          · rcases ih behind with ⟨heading, later, found⟩ | ⟨same, _⟩
            · exact Or.inl ⟨heading, List.mem_cons_of_mem _ later, found⟩
            · exact Or.inl ⟨record, List.mem_cons_self, opens, same.symm⟩
      | false =>
          simp only [placesFrom, opens, Bool.false_eq_true, if_false,
            List.mem_cons] at member
          rcases member with rfl | behind
          · exact Or.inr ⟨rfl, [record], ⟨rest, rfl⟩,
              List.mem_singleton.2 rfl, by simp [opens]⟩
          · rcases ih behind with ⟨heading, later, found⟩ |
              ⟨same, front, start, isIn, none_open⟩
            · exact Or.inl ⟨heading, List.mem_cons_of_mem _ later, found⟩
            · exact Or.inr ⟨same, record :: front,
                List.cons_prefix_cons.2 ⟨rfl, start⟩,
                List.mem_cons_of_mem _ isIn, by simp [opens, none_open]⟩

theorem record_mem_of_mem {inside : String} {place : Place}
    (member : place ∈ placesFrom inside records) : place.record ∈ records := by
  induction records generalizing inside with
  | nil => cases member
  | cons record rest ih =>
      rcases List.mem_cons.1 member with rfl | behind
      · exact List.mem_cons_self
      · exact List.mem_cons_of_mem _ (ih behind)

/-- A label is a number, which is zero if the offset is, and a section. -/
theorem Place.exists_label_eq (place : Place)
    (record : place.record.IsRecord) :
    ∃ digits, IsNumber Char.isDigit digits ∧
      place.label = digits ++ place.inside ∧
      (digits = "0" ↔ place.record.offset.getD 0 = 0) := by
  have positive : 0 ≤ (place.record.offset.getD 0).toInt := by
    cases offset : place.record.offset with
    | none => decide
    | some number => exact record.offset number offset
  exact ⟨_, Text.isNumber_decimal positive, rfl, Text.decimal_eq_zero_iff⟩

/--
The records of a listing: lines of a tape listing without directives, where each
instruction follows the line that opens its section, by a bare name that starts
with a character of a kind.
-/
structure IsListing (starts : Char → Prop) (records : List Line) : Prop where
  parsed : ∀ record ∈ records, ∃ text lineNumber has,
    Line.parse text lineNumber .tape = .ok (has, record)
  undirected : ∀ record ∈ records, record.isDirective = false
  named : ∀ record ∈ records, opensSection record = true →
    ∃ name, record.operand = some (.identifier name) ∧
      ∃ first ∈ name.toList.head?, starts first
  opened : ∀ front, front <+: records →
    front.any Line.hasInstruction = true → front.any opensSection = true

namespace IsListing

variable {starts : Char → Prop} {records : List Line}

theorem isRecord (listing : IsListing starts records) {record : Line}
    (member : record ∈ records) : record.IsRecord := by
  rcases listing.parsed record member with ⟨text, lineNumber, has, parsed⟩
  exact Line.isRecord_of_parse parsed (listing.undirected record member)

/-- The name of a section is a name, and starts as it should. -/
theorem heading (listing : IsListing starts records) {record : Line}
    (member : record ∈ records) (opens : opensSection record = true) :
    IsName (headingName record) ∧
      ∃ first ∈ (headingName record).toList.head?, starts first := by
  rcases listing.named record member opens with ⟨name, operand, initial⟩
  have same : headingName record = name := by
    simp [headingName, operand, Expr.listing]
  rw [same]
  exact ⟨(listing.isRecord member).shaped _ operand rfl, initial⟩

/-- An instruction is in a section with a name. -/
theorem inside (listing : IsListing starts records) {place : Place}
    (member : place ∈ places records)
    (instructed : place.record.hasInstruction = true) :
    IsName place.inside ∧
      ∃ first ∈ place.inside.toList.head?, starts first := by
  rcases mem_placesFrom member with
    ⟨heading, isIn, opens, same⟩ | ⟨_, front, start, isIn, none_open⟩
  · rw [← same]
    exact listing.heading isIn opens
  · have opened := listing.opened front start
      (List.any_eq_true.2 ⟨_, isIn, instructed⟩)
    exact absurd (none_open.symm.trans opened) (by decide)

theorem exists_label_eq (listing : IsListing starts records) {place : Place}
    (member : place ∈ places records) :
    ∃ digits, IsNumber Char.isDigit digits ∧
      place.label = digits ++ place.inside ∧
      (digits = "0" ↔ place.record.offset.getD 0 = 0) :=
  place.exists_label_eq (listing.isRecord (record_mem_of_mem member))

end IsListing

end Whirlwind.Tape
