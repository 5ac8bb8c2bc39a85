import Whirlwind.Proofs.Line.Marks
import Whirlwind.Proofs.Tape.Preservation

/-!
# Which rebuilt sources are accepted

In a section whose name completes a radix mark, the first word is called by a
zero and that name, which starts with a radix mark.  As a label it is refused.
As an operand it is read as a number or a name behind the mark, or refused if
nothing is behind the mark.  Apart from that, rebuilt source is accepted line by
line (`IsListing.accepted_iff`).
-/

namespace Whirlwind.Tape

open Lexer

/-- An instruction refers to the first word of its section by a radix mark. -/
structure Place.RefersToOrigin (place : Place) : Prop where
  word : place.isWord = true
  completes : CompletesRadix place.inside
  operand : place.record.operand = some (.identifier "0r")

/-- A word is the first one of a section with a name. -/
structure Place.IsOrigin (inside : String) (place : Place) : Prop where
  word : place.isWord = true
  inside_eq : place.inside = inside
  offset : place.record.offset.getD 0 = 0

/-! ## Names that start with a radix mark -/

theorem isNumber_zero : IsNumber Char.isDigit "0" :=
  ⟨by decide, List.forall_mem_singleton.2 rfl⟩

theorem renames_origin (inside : String) :
    Renames inside (some (.identifier "0r"))
      (some (.identifier ("0" ++ inside))) :=
  .relative isNumber_zero

/-- Only the first word of a section is called by a radix mark. -/
theorem Renames.startsRadix_iff {inside name : String} {operand : Option Expr}
    (renames : Renames inside operand (some (.identifier name)))
    (readable : IsReadable operand) :
    Scan.startsRadix name.toList = true ↔
      operand = some (.identifier "0r") ∧ CompletesRadix inside := by
  generalize result : some (Expr.identifier name) = written at renames
  cases renames with
  | @relative digits number =>
      rcases Expr.identifier.inj (Option.some.inj result) with rfl
      rw [startsRadix_append_iff number]
      constructor
      · rintro ⟨rfl, completes⟩
        exact ⟨rfl, completes⟩
      · rintro ⟨same, completes⟩
        have glued := Expr.identifier.inj (Option.some.inj same)
        exact ⟨String.append_left_inj "r" |>.1 glued, completes⟩
  | other apart =>
      subst result
      constructor
      · intro marked
        have named : IsName name := (readable _ rfl).1
        exact absurd (named.2.2.symm.trans marked) (by decide)
      · exact fun origin => absurd origin.1 (apart "0" isNumber_zero)

/-- Behind a zero, a name that completes a radix mark goes on or ends there. -/
theorem exists_radix_append {inside : String}
    (completes : CompletesRadix inside) :
    ∃ (op : UnaryOp) (tail : List Char), op.isRadix = true ∧
      ("0" ++ inside).toList = op.operator.symbol.toList ++ tail ∧
      (tail = [] ↔ inside.length = 1) := by
  rcases UnaryOp.startsRadix_iff.1 ((startsRadix_append_iff isNumber_zero).2
    ⟨rfl, completes⟩) with ⟨op, radix, tail, written⟩
  refine ⟨op, tail, radix, written, ?_⟩
  have mark : op.operator.symbol.toList.length = 2 := by
    cases op with
    | plus | minus => cases radix
    | octal | hexadecimal => rfl
  have lengths := congrArg List.length written
  rw [String.length_toList, String.length_append, List.length_append, mark]
    at lengths
  have zero : "0".length = 1 := rfl
  rw [← List.length_eq_zero_iff]
  omega

/-- A word that starts with a radix mark is an operand if it goes on. -/
theorem spells_radixWord {op : UnaryOp} {text : String} {tail : List Char}
    (radix : op.isRadix = true)
    (written : text.toList = op.operator.symbol.toList ++ tail)
    (visible : tail ≠ [])
    (word : ∀ character ∈ tail, Scan.isNameChar character = true) :
    ∃ expr, Spells text (some expr) := by
  have writes : Writes .assembly text
      [.operator op.operator, Scan.wordLexeme op.isDigit tail] := by
    intro gap rest gaps closes
    rw [written, List.append_assoc]
    exact (gives_sign op rfl gaps).trans
      (gives_dueWord radix visible word closes)
  have leaf : ∃ leaf : Expr, leaf.lexemes = [Scan.wordLexeme op.isDigit tail] ∧
      decide (leaf.strength < Expr.unaryStrength) = false := by
    unfold Scan.wordLexeme
    split
    · exact ⟨.digits _, rfl, rfl⟩
    · exact ⟨.identifier _, rfl, rfl⟩
  have nonempty : text ≠ "" := by
    rw [ne_eq, ← String.toList_eq_nil_iff, written]
    simp [visible]
  rcases leaf with ⟨leaf, same, strong⟩
  refine ⟨.unary op leaf, .tree nonempty ?_⟩
  rw [Expr.lexemes, strong, same]
  exact writes

/-! ## Words -/

/-- An operand is absent, or a name or a number. -/
def IsBare (operand : Option Expr) : Prop :=
  ∀ expr ∈ operand,
    (∃ name, expr = .identifier name) ∨ ∃ text, expr = .digits text

theorem isReadable_of_isBare {record : Line} (shape : record.IsRecord)
    (bare : IsBare record.operand) : IsReadable record.operand := by
  intro expr isOperand
  refine ⟨shape.shaped expr isOperand ?_, shape.unassigned expr isOperand⟩
  rcases bare expr isOperand with ⟨name, rfl⟩ | ⟨text, rfl⟩ <;> rfl

/-- The operand of an instruction is read, unless it is a radix mark alone. -/
theorem exists_spells_operand {inside : String} {operand : Option Expr}
    (named : IsName inside) (readable : IsReadable operand)
    (leaves : ∀ expr ∈ operand, expr.Wordlike)
    (goesOn : CompletesRadix inside → operand = some (.identifier "0r") →
      inside.length ≠ 1) :
    ∃ result, Spells (RebuiltOperand.ofOperand inside operand).text result := by
  have renames := renames_renamed inside operand
  by_cases origin :
    operand = some (.identifier "0r") ∧ CompletesRadix inside
  · rcases origin with ⟨rfl, completes⟩
    rw [RebuiltOperand.text_ofOperand, ← (renames_origin inside).eq_renamed]
    rcases exists_radix_append completes with
      ⟨op, tail, radix, written, ends⟩
    have visible : tail ≠ [] := fun silent =>
      goesOn completes rfl (ends.1 silent)
    have word := (isWord_append isNumber_zero named).1
    rw [written, List.forall_mem_append] at word
    rcases spells_radixWord radix written visible word.2 with ⟨expr, spells⟩
    exact ⟨some expr, spells⟩
  · have readableResult := renames.isReadable named
      (fun completes same => origin ⟨same, completes⟩) readable
    exact ⟨_, spells_ofOperand (renames.wordlike named leaves) readableResult⟩

/-! ## Lines that are accepted -/

namespace IsListing

variable {starts : Char → Prop} {records : List Line} {place other : Place}

theorem isReadable (listing : IsListing starts records)
    (bare : ∀ record ∈ records, IsBare record.operand)
    (member : place ∈ places records) : IsReadable place.record.operand :=
  isReadable_of_isBare (listing.isRecord (record_mem_of_mem member))
    (bare _ (record_mem_of_mem member))

/-- A label that is referred to is a name, unless a radix mark refers to it. -/
theorem isName_label (listing : IsListing starts records)
    (bare : ∀ record ∈ records, IsBare record.operand)
    (member : place ∈ places records) (word : place.isWord = true)
    (apart : ∀ other ∈ places records, other.RefersToOrigin →
      ¬place.IsOrigin other.inside)
    (referred : Refers records place.label) : IsName place.label := by
  have named := (listing.inside member
    (Place.hasInstruction_of_isWord word)).1
  rcases listing.exists_label_eq member with ⟨digits, number, same, zero⟩
  rw [same, isName_append_iff number named]
  rintro ⟨rfl, completes⟩
  rcases referred with ⟨other, memberOther, wordOther, renames⟩
  rw [same] at renames
  have marked := (startsRadix_append_iff number).2 ⟨rfl, completes⟩
  rcases (renames.startsRadix_iff (listing.isReadable bare memberOther)).1
    marked with ⟨operand, completesOther⟩
  rw [operand] at renames
  have glued : "0" ++ place.inside = "0" ++ other.inside := by
    have result := renames.eq_renamed.trans
      (renames_origin other.inside).eq_renamed.symm
    exact Expr.identifier.inj (Option.some.inj result)
  exact apart other memberOther ⟨wordOther, completesOther, operand⟩
    ⟨word, (String.append_right_inj "0").1 glued, zero.1 rfl⟩

/-- Without references by radix marks that are refused all lines are accepted. -/
theorem accepts (listing : IsListing starts records)
    (bare : ∀ record ∈ records, IsBare record.operand)
    (goesOn : ∀ place ∈ places records, place.RefersToOrigin →
      place.inside.length ≠ 1)
    (apart : ∀ place ∈ places records, place.RefersToOrigin →
      ∀ other ∈ places records, ¬other.IsOrigin place.inside)
    (member : place ∈ places records) (lineNumber : Nat) :
    ∃ result, Line.parse (place.rebuilt.text (RebuiltLine.ofLines records))
      lineNumber .assembly = .ok result := by
  have record := listing.isRecord (record_mem_of_mem member)
  rcases place.rebuilt_cases with ⟨_, rebuilt⟩ | ⟨opens, rebuilt⟩ | word
  · rw [rebuilt]
    rcases Line.parse_comment record.leadingComment lineNumber with
      ⟨line, parsed⟩
    exact ⟨_, parsed⟩
  · rw [rebuilt]
    have named := (listing.inside member
      (Place.hasInstruction_of_opens opens)).1
    rcases Line.parse_heading named lineNumber with ⟨line, parsed⟩
    exact ⟨_, parsed⟩
  · rcases Place.exists_of_isWord word with ⟨stated, instruction, rebuilt⟩
    have named := (listing.inside member
      (Place.hasInstruction_of_isWord word)).1
    have labelled := listing.isName_label bare member word
      fun other isIn refers => apart other isIn refers place member
    rcases exists_spells_operand named (listing.isReadable bare member)
      record.wordlike fun completes operand =>
        goesOn place member ⟨word, completes, operand⟩ with ⟨result, spells⟩
    rcases Place.parse_word record instruction rebuilt labelled spells with
      ⟨trailing, auto, _, parsed⟩
    rcases parsed lineNumber with ⟨raw, accepted⟩
    exact ⟨_, accepted⟩

end IsListing

/-! ## Lines that are refused -/

theorem startsRadix_append_right {front : List Char}
    (marked : Scan.startsRadix front = true) (back : List Char) :
    Scan.startsRadix (front ++ back) = true := by
  rcases UnaryOp.startsRadix_iff.1 marked with ⟨op, radix, tail, rfl⟩
  exact UnaryOp.startsRadix_iff.2 ⟨op, radix, tail ++ back, by simp⟩

/-- A line starts as the label of its instruction does, if that is written. -/
theorem RebuiltInstruction.startsRadix_text {word : RebuiltInstruction}
    (marked : Scan.startsRadix word.label.toList = true) :
    Scan.startsRadix (word.text true).toList = true := by
  rw [text_toList, labelField, if_pos rfl]
  simp only [String.toList_append, List.append_assoc]
  exact startsRadix_append_right marked _

/-- A label is no directive that takes the rest of its line. -/
theorem append_not_mem_rawDirectives {digits inside : String}
    (number : IsNumber Char.isDigit digits) :
    digits ++ inside ∉ Instruction.rawDirectives := by
  rcases number with ⟨visible, digit⟩
  rw [ne_eq, ← String.toList_eq_nil_iff] at visible
  rcases List.exists_cons_of_ne_nil visible with ⟨first, rest, written⟩
  have isDigit := digit first (by simp [written])
  intro raw
  rw [Instruction.rawDirectives, List.mem_pair] at raw
  rcases raw with same | same
  all_goals
    have initial := congrArg (fun text => text.toList.head?) same
    simp only [String.toList_append, written, List.cons_append,
      List.head?_cons] at initial
    rcases Option.some.inj initial with rfl
    exact absurd isDigit (by decide)

/-- The lexemes of a word in front of its operand are of a plain line. -/
theorem not_takes_word {label : Option String} {op : UnaryOp} (name : String)
    (labelled : ∀ text ∈ label, text ∉ Instruction.rawDirectives) :
    ¬TokenStream.Takes (labelLexemes label ++
      ((assemblyInstruction name).lexemes ++ [.operator op.operator])) := by
  rintro ⟨dotted, taken, raw, named⟩
  cases directed : (assemblyInstruction name).isDirective with
  | false =>
      cases label <;> cases op <;>
        simp [labelLexemes, Instruction.lexemes, directed,
          UnaryOp.operator] at dotted
  | true =>
      rw [isDirective_assemblyInstruction directed] at named
      have found : label = some taken ∨ taken = "word" := by
        cases label <;>
          simpa [labelLexemes, Instruction.lexemes, eq_comm] using named
      rcases found with isLabel | rfl
      · exact labelled taken isLabel raw
      · exact absurd raw (by decide)

/-- An instruction whose operand is a radix mark alone is read as lexemes. -/
theorem RebuiltInstruction.exists_gives_mark {word : RebuiltInstruction}
    {written : Bool} {instruction : Instruction} {op : UnaryOp}
    (labelled : written = true → IsName word.label)
    (opcode : word.opcode = instruction.listing)
    (named : IsName instruction.name)
    (operand : word.operand.text = op.operator.symbol)
    (remark : IsRemark word.comment) :
    ∃ trailing auto, Gives .assembly .start (word.text written).toList
      (labelLexemes (if written then some word.label else none) ++
        (instruction.lexemes ++ [.operator op.operator]) ++
          (commentLexemes trailing auto ++ [.finish])) .start [] := by
  rcases exists_gives_commentField remark word.opcode word.operand.text with
    ⟨trailing, auto, _, comments⟩
  refine ⟨trailing, auto, ?_⟩
  have due : Gives .assembly op.mode
      (commentField word.opcode word.operand.text word.comment).toList
      (commentLexemes trailing auto ++ [.finish]) .start [] := by
    rcases List.exists_cons_of_ne_nil (List.append_ne_nil_of_right_ne_nil
      (commentLexemes trailing auto) (List.cons_ne_nil Lexeme.finish [])) with
      ⟨first, rest, same⟩
    rw [same] at comments ⊢
    exact comments.radixOver op (closes_commentField _ _ _)
  have mark := (gives_sign op rfl (Grammar.skips_blank _)).trans due
  have whole := gives_labelField labelled fun gap gaps =>
    (writes_instruction named gap _ gaps (Grammar.closes_cons.2 rfl)).trans mark
  have fields : statement word.opcode word.operand.text =
      instruction.listing ++ (" " ++ op.operator.symbol) := by
    rw [statement, operand, opcode, String.append_assoc, if_neg]
    cases op <;> decide
  rw [text_toList, fields]
  simpa using whole

namespace IsListing

variable {starts : Char → Prop} {records : List Line} {place other : Place}
  {lineNumber : Nat} {result : Bool × Line}

/-- The first word of a section is refused if a radix mark refers to it. -/
theorem refuses_origin (listing : IsListing starts records)
    (member : place ∈ places records) (refers : place.RefersToOrigin)
    (memberOther : other ∈ places records)
    (origin : other.IsOrigin place.inside) :
    Line.parse (other.rebuilt.text (RebuiltLine.ofLines records)) lineNumber
      .assembly ≠ .ok result := by
  intro accepted
  rcases listing.exists_label_eq memberOther with ⟨digits, number, same, zero⟩
  rcases zero.2 origin.offset with rfl
  rw [origin.inside_eq] at same
  rcases Place.exists_of_isWord origin.word with ⟨stated, _, rebuilt⟩
  have referenced :
      isReferenced (RebuiltLine.ofLines records) other.label = true := by
    rw [isReferenced_iff, same]
    refine ⟨place, member, refers.word, ?_⟩
    rw [refers.operand]
    exact renames_origin place.inside
  have marked : Scan.startsRadix other.label.toList = true := by
    rw [same]
    exact (startsRadix_append_iff number).2 ⟨rfl, refers.completes⟩
  have text : other.rebuilt.text (RebuiltLine.ofLines records) =
      (other.word stated).text true := by
    rw [rebuilt, RebuiltLine.text, Place.word, referenced]
  have plain := Line.startsRadix_eq_false_of_parse accepted
  have starts : Scan.startsRadix ((other.word stated).text true).toList = true :=
    RebuiltInstruction.startsRadix_text marked
  rw [text, starts] at plain
  exact Bool.noConfusion plain

/-- A word is refused if its operand is a radix mark alone. -/
theorem refuses_mark (listing : IsListing starts records)
    (member : place ∈ places records) (refers : place.RefersToOrigin)
    (short : place.inside.length = 1)
    (labelled : Refers records place.label → IsName place.label) :
    Line.parse (place.rebuilt.text (RebuiltLine.ofLines records)) lineNumber
      .assembly ≠ .ok result := by
  intro accepted
  have record := listing.isRecord (record_mem_of_mem member)
  rcases Place.exists_of_isWord refers.word with ⟨stated, instruction, rebuilt⟩
  rcases exists_radix_append refers.completes with
    ⟨op, tail, radix, written, ends⟩
  have alone : "0" ++ place.inside = op.operator.symbol := by
    rw [← String.toList_inj, written, ends.2 short, List.append_nil]
  have operand : (place.word stated).operand.text = op.operator.symbol := by
    rw [Place.word, RebuiltOperand.text_ofOperand, refers.operand,
      ← (renames_origin place.inside).eq_renamed]
    exact alone
  have referenced := isReferenced_iff records place.label
  rcases (place.word stated).exists_gives_mark
    (fun isWritten => labelled (referenced.1 isWritten))
    (listing_assemblyInstruction stated.name).symm
    (isName_assemblyInstruction (record.instruction stated instruction))
    operand record.trailingComment with ⟨trailing, auto, gives⟩
  rw [rebuilt, RebuiltLine.text] at accepted
  have attended := Line.attended_of_parse accepted gives ?_ ?_
  · rw [← List.append_assoc] at attended
    have plain := attended.last
    cases op with
    | plus | minus => cases radix
    | octal | hexadecimal => cases plain
  · simp only [List.forall_mem_append, List.forall_mem_singleton]
    exact ⟨builds_labelLexemes _, builds_instruction _, trivial⟩
  · refine not_takes_word stated.name fun text isLabel => ?_
    rcases listing.exists_label_eq member with ⟨digits, number, same, _⟩
    split at isLabel
    · rcases Option.some.inj isLabel with rfl
      rw [Place.word, same]
      exact append_not_mem_rawDirectives number
    · cases isLabel

/--
All lines of a source are accepted if and only if a radix mark that refers to a
word has something behind it, and the word that it refers to is not there.
-/
theorem accepted_iff
    (listing : IsListing (fun first => first.isAlpha = true) records)
    (bare : ∀ record ∈ records, IsBare record.operand) :
    ∃ texts : List String,
      Text.lines '\n' (sourceText (RebuiltLine.ofLines records)).toList =
        texts.map (fun text => text.toList ++ ['\n']) ∧
      ((∀ text ∈ texts, ∀ lineNumber, ∃ result,
          Line.parse text lineNumber .assembly = .ok result) ↔
        ∀ place ∈ places records, place.RefersToOrigin →
          place.inside.length ≠ 1 ∧
            ∀ other ∈ places records, ¬other.IsOrigin place.inside) := by
  refine ⟨_, listing.lines_sourceText, ?_⟩
  simp only [List.forall_mem_map, List.mem_filter]
  constructor
  · intro accepted
    have accepts : ∀ place ∈ places records, place.isWord = true →
        ∃ result, Line.parse (place.rebuilt.text (RebuiltLine.ofLines records))
          1 .assembly = .ok result := by
      intro place member word
      refine accepted place ⟨member, ?_⟩ 1
      rw [Place.isWritten, Place.hasInstruction_of_isWord word, Bool.true_or]
    have apart : ∀ place ∈ places records, place.RefersToOrigin →
        ∀ other ∈ places records, ¬other.IsOrigin place.inside := by
      intro place member refers other memberOther origin
      rcases accepts other memberOther origin.word with ⟨result, parsed⟩
      exact listing.refuses_origin member refers memberOther origin parsed
    refine fun place member refers => ⟨fun short => ?_,
      apart place member refers⟩
    rcases accepts place member refers.word with ⟨result, parsed⟩
    refine listing.refuses_mark member refers short ?_ parsed
    exact listing.isName_label bare member refers.word
      fun other isIn refersOther => apart other isIn refersOther place member
  · intro sound place kept lineNumber
    exact listing.accepts bare
      (fun place member refers => (sound place member refers).1)
      (fun place member refers => (sound place member refers).2)
      kept.1 lineNumber

/-- A word that refers to itself by a radix mark has a line that is refused. -/
theorem accepted_iff_orbit :
    ∃ records : List Line,
      sourceText (RebuiltLine.ofLines records) =
        "orbit:\n0orbit:   sp 0orbit\n" ∧
      ∃ texts : List String,
        Text.lines '\n' (sourceText (RebuiltLine.ofLines records)).toList =
          texts.map (fun text => text.toList ++ ['\n']) ∧
        ¬∀ text ∈ texts, ∀ lineNumber, ∃ result,
          Line.parse text lineNumber .assembly = .ok result := by
  let heading : Line :=
    { rawText := "\t\tsection orbit", lineNumber := 1
      instruction := some ⟨"section", false⟩
      operand := some (.identifier "orbit") }
  let word : Line :=
    { rawText := "\t0\tsp 0r", lineNumber := 2
      offset := some 0
      instruction := some ⟨"sp", false⟩
      operand := some (.identifier "0r") }
  have parsedHeading : Line.parse "\t\tsection orbit" 1 .tape =
      .ok (true, heading) := Except.eq_ok_of_toOption (by decide +kernel)
  have parsedWord : Line.parse "\t0\tsp 0r" 2 .tape = .ok (true, word) :=
    Except.eq_ok_of_toOption (by decide +kernel)
  have listing : IsListing (fun first => first.isAlpha = true)
      [heading, word] :=
    { parsed := List.forall_mem_cons.2 ⟨⟨_, _, _, parsedHeading⟩,
        List.forall_mem_singleton.2 ⟨_, _, _, parsedWord⟩⟩
      undirected := by decide
      named := List.forall_mem_cons.2
        ⟨fun _ => ⟨"orbit", rfl, 'o', rfl, by decide⟩,
          List.forall_mem_singleton.2 fun opens => absurd opens (by decide)⟩
      opened := by
        simp only [← List.mem_inits]
        decide }
  have bare : ∀ record ∈ [heading, word], IsBare record.operand := by
    refine List.forall_mem_cons.2 ⟨?_, List.forall_mem_singleton.2 ?_⟩
    · rintro _ ⟨⟩
      exact Or.inl ⟨_, rfl⟩
    · rintro _ ⟨⟩
      exact Or.inl ⟨_, rfl⟩
  rcases accepted_iff listing bare with ⟨texts, cut, accepted⟩
  refine ⟨[heading, word], by decide +kernel, texts, cut, fun all => ?_⟩
  let place : Place := ⟨"orbit", word⟩
  have member : place ∈ places [heading, word] := by
    simp [places, placesFrom, place, heading, word, opensSection, headingName,
      RebuiltLine.headingOpcode, Expr.listing]
  have refers : place.RefersToOrigin := ⟨by decide, by decide, rfl⟩
  exact (accepted.1 all place member refers).2 place member
    ⟨by decide, rfl, by decide⟩

end IsListing

end Whirlwind.Tape
