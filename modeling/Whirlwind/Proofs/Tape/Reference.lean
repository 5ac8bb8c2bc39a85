import Whirlwind.Line.Sequence
import Whirlwind.Proofs.Expr.Names
import Whirlwind.Proofs.Machine.Integer
import Whirlwind.Proofs.Tape.Layout
import Whirlwind.Proofs.Tape.Writing

/-!
# What becomes of references

A relative name refers to a word of its section wherever it stands in an
operand, but it is replaced, and its word is labelled, only if it is the whole
operand (`Place.followsReferences_iff`).  It is replaced by its digits as they
are written, while the label has the digits of the offset.  So the two agree
only if the reference is written without superfluous zeros
(`Place.labelled_iff`).
-/

namespace Whirlwind

/-! ## Digits in front of letters -/

namespace Text

/-- Digits in front of a letter are all the digits that a text starts with. -/
theorem takeWhile_isDigit_append {digits name : List Char}
    (digit : ∀ character ∈ digits, character.isDigit = true)
    (lettered : ∃ first ∈ name.head?, first.isAlpha = true)
    (rest : List Char) :
    (digits ++ (name ++ rest)).takeWhile Char.isDigit = digits := by
  rcases lettered with ⟨first, initial, letter⟩
  rcases List.head?_eq_some_iff.1 initial with ⟨tail, rfl⟩
  rw [List.takeWhile_append_of_pos digit, List.cons_append,
    List.takeWhile_cons_of_neg (by simp [isDigit_of_isAlpha letter]),
    List.append_nil]

end Text

namespace Tape

/-! ## Names in operands -/

/-- A relative name stays as it is only in a section of one name. -/
theorem assemblyLabel_eq_self_iff {inside name : String} :
    assemblyLabel inside name = name ↔
      ∀ digits, IsNumber Char.isDigit digits → name = digits ++ "r" →
        inside = "r" := by
  unfold assemblyLabel
  split
  · next digits found =>
    rcases offsetDigits?_eq_some_iff.1 found with ⟨number, rfl⟩
    rw [String.append_right_inj]
    exact ⟨fun same _ _ _ => same, fun all => all digits number rfl⟩
  · next absent =>
    refine ⟨fun _ digits number same => ?_, fun _ => rfl⟩
    rw [offsetDigits?_eq_some_iff.2 ⟨number, same⟩] at absent
    cases absent

theorem length_le_assemblyLabel {inside : String} (visible : inside ≠ "")
    (name : String) : name.length ≤ (assemblyLabel inside name).length := by
  have filled : 0 < inside.length := by
    rw [← String.length_toList, List.length_pos_iff]
    simpa using visible
  unfold assemblyLabel
  split
  · next digits found =>
    rcases offsetDigits?_eq_some_iff.1 found with ⟨_, rfl⟩
    have mark : "r".length = 1 := rfl
    simp only [String.length_append]
    omega
  · exact Nat.le_refl _

/-- All names of an operand are replaced if it is one or has none to replace. -/
theorem text_ofOperand_eq_iff {inside : String} (visible : inside ≠ "")
    (operand : Expr) :
    (RebuiltOperand.ofOperand inside (some operand)).text =
        (operand.mapNames (assemblyLabel inside)).listing ↔
      (∃ name, operand = .identifier name) ∨
        ∀ name ∈ operand.names, assemblyLabel inside name = name := by
  have kept := Expr.listing_mapNames_eq_iff (length_le_assemblyLabel visible)
    operand
  rw [Expr.mapNames_eq_self_iff] at kept
  cases operand with
  | identifier name => exact ⟨fun _ => Or.inl ⟨name, rfl⟩, fun _ => rfl⟩
  | binary | unary | apply | string | digits =>
      rw [← kept, eq_comm]
      exact ⟨Or.inr, fun found => found.resolve_left nofun⟩

/-! ## References at any depth -/

/-- A reference occurs in an operand, as a whole or inside. -/
def Mentions (operand : Expr) (digits : String) : Prop :=
  IsNumber Char.isDigit digits ∧ digits ++ "r" ∈ operand.names

/-- Every reference in an operand is replaced in its text and looked up. -/
structure FollowsReferences (records : List Line) (inside : String)
    (operand : Expr) (text : String) : Prop where
  replaced : text = (operand.mapNames (assemblyLabel inside)).listing
  referenced : ∀ digits, Mentions operand digits →
    isReferenced (RebuiltLine.ofLines records) (digits ++ inside) = true

namespace Place

variable {records : List Line} {place other : Place}

theorem rebuilt_mem_ofLines (member : place ∈ places records)
    (word : place.isWord = true) :
    place.rebuilt ∈ RebuiltLine.ofLines records := by
  rw [RebuiltLine.ofLines_eq]
  refine List.mem_map_of_mem (List.mem_filter.2 ⟨member, ?_⟩)
  rw [isWritten, hasInstruction_of_isWord word, Bool.true_or]

/-- The word itself refers to the label that its bare operand becomes. -/
theorem refers_of_relative {digits : String} (member : place ∈ places records)
    (word : place.isWord = true) (number : IsNumber Char.isDigit digits)
    (operand : place.record.operand = some (.identifier (digits ++ "r"))) :
    Refers records (digits ++ place.inside) :=
  ⟨place, member, word, operand ▸ .relative number⟩

/--
The references of an instruction are followed if and only if the operand is one
or has none.  In a section that is called as relative names end they need no
replacing, but have to be the operand of some instruction.
-/
theorem followsReferences_iff {operand : Expr}
    (member : place ∈ places records) (word : place.isWord = true)
    (lettered : ∃ first ∈ place.inside.toList.head?, first.isAlpha = true)
    (isOperand : place.record.operand = some operand) :
    ∃ instruction, place.rebuilt = .instruction instruction ∧
      .instruction instruction ∈ RebuiltLine.ofLines records ∧
      (FollowsReferences records place.inside operand
          instruction.operand.text ↔
        ∀ digits, Mentions operand digits →
          operand = .identifier (digits ++ "r") ∨
            place.inside = "r" ∧ Refers records (digits ++ "r")) := by
  rcases exists_of_isWord word with ⟨stated, _, rebuilt⟩
  have isIn := rebuilt_mem_ofLines member word
  refine ⟨_, rebuilt, rebuilt ▸ isIn, ?_⟩
  have visible : place.inside ≠ "" := by
    rintro empty
    rcases lettered with ⟨first, initial, _⟩
    rw [empty] at initial
    cases initial
  have replaced := text_ofOperand_eq_iff visible operand
  rw [Place.word, isOperand]
  constructor
  · rintro ⟨text, referenced⟩ digits mentioned
    rcases replaced.1 text with ⟨name, rfl⟩ | fixed
    · have same := List.mem_singleton.1 mentioned.2
      exact Or.inl (congrArg Expr.identifier same.symm)
    · have same := assemblyLabel_eq_self_iff.1 (fixed _ mentioned.2) digits
        mentioned.1 rfl
      have found := referenced digits mentioned
      rw [isReferenced_iff, same] at found
      exact Or.inr ⟨same, found⟩
  · intro followed
    constructor
    · rw [replaced, or_iff_not_imp_left]
      intro notBare name isName
      rw [assemblyLabel_eq_self_iff]
      rintro digits number rfl
      rcases followed digits ⟨number, isName⟩ with bare | ⟨same, _⟩
      · exact absurd ⟨_, bare⟩ notBare
      · exact same
    · intro digits mentioned
      rw [isReferenced_iff]
      rcases followed digits mentioned with bare | ⟨same, refers⟩
      · rw [bare] at isOperand
        exact refers_of_relative member word mentioned.1 isOperand
      · rwa [same]

/-- A reference in a sum is left as it is, and its word has no label. -/
theorem followsReferences_iff_sum :
    ∃ records : List Line,
      LineSequence.parse
          ["\t\tsection main", "\t0\tca 1r+2", "\t1\tsi 0"] .tape =
        { lines := records } ∧
      sourceText (RebuiltLine.ofLines records) =
        "main:\n          ca 1r + 2\n          si 0\n" ∧
      ∃ place ∈ places records, ∃ operand instruction,
        place.record.operand = some operand ∧ Mentions operand "1" ∧
        place.rebuilt = .instruction instruction ∧
        ¬FollowsReferences records place.inside operand
          instruction.operand.text := by
  let heading : Line :=
    { rawText := "\t\tsection main", lineNumber := 1
      instruction := some ⟨"section", false⟩
      operand := some (.identifier "main") }
  let sum : Expr := .binary .plus (.identifier "1r") (.digits "2")
  let word : Line :=
    { rawText := "\t0\tca 1r+2", lineNumber := 2
      offset := some 0
      instruction := some ⟨"ca", false⟩
      operand := some sum }
  let target : Line :=
    { rawText := "\t1\tsi 0", lineNumber := 3
      offset := some 1
      instruction := some ⟨"si", false⟩
      operand := some (.digits "0") }
  let place : Place := ⟨"main", word⟩
  have parsed : LineSequence.parse
      ["\t\tsection main", "\t0\tca 1r+2", "\t1\tsi 0"] .tape =
        { lines := [heading, word, target] } := by decide +kernel
  have member : place ∈ places [heading, word, target] := by
    simp [places, placesFrom, place, heading, word, target, opensSection,
      headingName, RebuiltLine.headingOpcode, Expr.listing]
  have lettered : ∃ first ∈ place.inside.toList.head?,
      first.isAlpha = true := ⟨'m', by decide, by decide⟩
  have mentioned : Mentions sum "1" := ⟨by decide, by decide⟩
  rcases followsReferences_iff member (by decide) lettered rfl with
    ⟨instruction, rebuilt, _, followed⟩
  refine ⟨_, parsed, by decide +kernel, place, member, sum, instruction, rfl,
    mentioned, rebuilt, fun follows => ?_⟩
  rcases followed.1 follows "1" mentioned with bare | ⟨same, _⟩
  · exact absurd bare (by decide)
  · exact absurd same (by decide)

/-! ## Labels and the digits of references -/

theorem exists_text_of_refers (word : place.isWord = true)
    (refers : Refers records place.label) :
    ∃ behind, (place.rebuilt.text (RebuiltLine.ofLines records)).toList =
      place.label.toList ++ ':' :: behind := by
  rcases exists_of_isWord word with ⟨stated, _, rebuilt⟩
  have written : isReferenced (RebuiltLine.ofLines records)
      (place.word stated).label = true :=
    (isReferenced_iff records place.label).2 refers
  rw [rebuilt, RebuiltLine.text, RebuiltInstruction.text_toList,
    RebuiltInstruction.labelField, if_pos written]
  simp only [String.toList_append, List.append_assoc]
  exact ⟨_, rfl⟩

/-- Where no label is written a line starts with a blank. -/
theorem exists_text_of_not_refers (word : place.isWord = true)
    (unnamed : ¬Refers records place.label) :
    ∃ behind, (place.rebuilt.text (RebuiltLine.ofLines records)).toList =
      ' ' :: behind := by
  rcases exists_of_isWord word with ⟨stated, _, rebuilt⟩
  have blank : ¬isReferenced (RebuiltLine.ofLines records)
      (place.word stated).label = true :=
    mt (isReferenced_iff records place.label).1 unnamed
  rw [rebuilt, RebuiltLine.text, RebuiltInstruction.text_toList,
    RebuiltInstruction.labelField, if_neg blank]
  exact ⟨_, rfl⟩

/-- A line starts with a number and a section if they are its written label. -/
theorem startsWith_iff {digits : String} (word : place.isWord = true)
    (positive : 0 ≤ (place.record.offset.getD 0).toInt)
    (lettered : ∃ first ∈ place.inside.toList.head?, first.isAlpha = true)
    (number : IsNumber Char.isDigit digits) :
    (digits ++ place.inside ++ ":").toList <+:
        (place.rebuilt.text (RebuiltLine.ofLines records)).toList ↔
      Text.decimal (place.record.offset.getD 0) = digits ∧
        Refers records place.label := by
  have label : place.label.toList =
      (Text.decimal (place.record.offset.getD 0)).toList ++
        place.inside.toList := by
    rw [Place.label, wordLabel, String.toList_append]
  rw [String.toList_append, String.toList_append, List.append_assoc]
  constructor
  · rintro ⟨rest, line⟩
    rw [List.append_assoc, List.append_assoc] at line
    have front := congrArg (List.takeWhile Char.isDigit) line
    rw [Text.takeWhile_isDigit_append number.2 lettered] at front
    by_cases refers : Refers records place.label
    · rcases exists_text_of_refers word refers with ⟨behind, labelled⟩
      rw [labelled, label, List.append_assoc, Text.takeWhile_isDigit_append
        (Text.isNumber_decimal positive).2 lettered] at front
      exact ⟨(String.toList_inj.1 front).symm, refers⟩
    · rcases exists_text_of_not_refers word refers with ⟨behind, blank⟩
      rw [blank, List.takeWhile_cons_of_neg (by decide)] at front
      exact absurd (String.toList_eq_nil_iff.1 front) number.1
  · rintro ⟨rfl, refers⟩
    rcases exists_text_of_refers word refers with ⟨behind, labelled⟩
    rw [labelled, label, List.append_assoc]
    exact ⟨behind, by simp⟩

/--
The line of a word is labelled as a bare operand of its section says, which has
the digits of the word's offset, if and only if these are written without
superfluous zeros.
-/
theorem labelled_iff {digits : String} {number : Nat} {offset : Int64}
    (member : place ∈ places records) (word : place.isWord = true)
    (memberOther : other ∈ places records) (wordOther : other.isWord = true)
    (same : other.inside = place.inside)
    (lettered : ∃ first ∈ place.inside.toList.head?, first.isAlpha = true)
    (operand : place.record.operand = some (.identifier (digits ++ "r")))
    (value : Integer.numeral? 10 digits.toList = some number)
    (stated : other.record.offset = some offset)
    (equal : offset.toInt = number) :
    ∃ instruction, place.rebuilt = .instruction instruction ∧
      place.rebuilt ∈ RebuiltLine.ofLines records ∧
      other.rebuilt ∈ RebuiltLine.ofLines records ∧
      ((instruction.operand.text ++ ":").toList <+:
          (other.rebuilt.text (RebuiltLine.ofLines records)).toList ↔
        digits = "0" ∨ digits.toList.head? ≠ some '0') := by
  rcases exists_of_isWord word with ⟨named, _, rebuilt⟩
  refine ⟨_, rebuilt, rebuilt_mem_ofLines member word,
    rebuilt_mem_ofLines memberOther wordOther, ?_⟩
  rcases Integer.numeral?_ten_eq_some_iff.1 value with ⟨visible, digit, read⟩
  have isNumber : IsNumber Char.isDigit digits :=
    ⟨by simpa using visible, digit⟩
  have text : (place.word named).operand.text = digits ++ other.inside := by
    rw [Place.word, RebuiltOperand.text_ofOperand, operand,
      ← (Renames.relative isNumber).eq_renamed, same]
    rfl
  have positive : 0 ≤ (other.record.offset.getD 0).toInt := by
    rw [stated, Option.getD_some, equal]
    exact Int.natCast_nonneg number
  have canonical : Text.decimal (other.record.offset.getD 0) = digits ↔
      digits = "0" ∨ digits.toList.head? ≠ some '0' := by
    rw [← String.toList_inj, Text.decimal_eq positive, stated,
      Option.getD_some, equal, Int.toNat_natCast, read,
      Text.toDigits_ofDigitChars_eq_self_iff visible digit,
      ← String.toList_inj]
    rfl
  rw [text, startsWith_iff wordOther positive (same ▸ lettered) isNumber,
    canonical, and_iff_left_iff_imp, ← canonical]
  intro kept
  rw [Place.label, wordLabel, kept, same]
  exact refers_of_relative member word isNumber operand

/-- A word that refers to itself with a superfluous zero has no label. -/
theorem labelled_iff_zeros :
    ∃ records : List Line,
      LineSequence.parse ["\t\tsection main", "\t1\tsp 01r"] .tape =
        { lines := records } ∧
      sourceText (RebuiltLine.ofLines records) =
        "main:\n          sp 01main\n" ∧
      ∃ place ∈ places records, ∃ instruction,
        place.record.offset = some 1 ∧
        place.record.operand = some (.identifier "01r") ∧
        place.rebuilt = .instruction instruction ∧
        ¬(instruction.operand.text ++ ":").toList <+:
          (place.rebuilt.text (RebuiltLine.ofLines records)).toList := by
  let heading : Line :=
    { rawText := "\t\tsection main", lineNumber := 1
      instruction := some ⟨"section", false⟩
      operand := some (.identifier "main") }
  let word : Line :=
    { rawText := "\t1\tsp 01r", lineNumber := 2
      offset := some 1
      instruction := some ⟨"sp", false⟩
      operand := some (.identifier "01r") }
  let place : Place := ⟨"main", word⟩
  have parsed : LineSequence.parse ["\t\tsection main", "\t1\tsp 01r"] .tape =
      { lines := [heading, word] } := by decide +kernel
  have member : place ∈ places [heading, word] := by
    simp [places, placesFrom, place, heading, word, opensSection,
      headingName, RebuiltLine.headingOpcode, Expr.listing]
  have lettered : ∃ first ∈ place.inside.toList.head?,
      first.isAlpha = true := ⟨'m', by decide, by decide⟩
  have value : Integer.numeral? 10 "01".toList = some 1 := by decide
  rcases labelled_iff member (by decide) member (by decide) rfl lettered rfl
    value rfl (by decide) with ⟨instruction, rebuilt, _, _, labelled⟩
  refine ⟨_, parsed, by decide +kernel, place, member, instruction, rfl, rfl,
    rebuilt, fun starts => ?_⟩
  rcases labelled.1 starts with same | other
  · exact absurd same (by decide)
  · exact other rfl

end Place

end Tape

end Whirlwind
