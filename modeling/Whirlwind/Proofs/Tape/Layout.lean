import Whirlwind.Proofs.Tape.Section

/-!
# The lines of rebuilt source

Nothing that is written for a record of a listing holds a newline.  So the
source, cut at its newlines, has one line for each record that is written, in
the order of the records (`IsListing.lines_sourceText`).
-/

namespace Whirlwind

namespace Text

/-- Lines that are put together are cut apart again. -/
theorem lines_join {texts : List String}
    (inLine : ∀ text ∈ texts, '\n' ∉ text.toList) :
    lines '\n' (String.join (texts.map (· ++ "\n"))).toList =
      texts.map fun text => text.toList ++ ['\n'] := by
  induction texts with
  | nil => rfl
  | cons text texts ih =>
      rw [List.forall_mem_cons] at inLine
      have written : (String.join ((text :: texts).map (· ++ "\n"))).toList =
          text.toList ++ '\n' ::
            (String.join (texts.map (· ++ "\n"))).toList := by
        simp [String.toList_join]
      rw [written, lines_append inLine.1, lines_cons, if_pos rfl, ih inLine.2]
      rfl

theorem newline_not_mem_spaces (count : Nat) : '\n' ∉ (spaces count).toList := by
  rw [spaces, String.toList_ofList]
  exact fun member => absurd (List.eq_of_mem_replicate member) (by decide)

end Text

theorem IsWord.newline_not_mem {name : String} (word : IsWord name) :
    '\n' ∉ name.toList :=
  fun member => absurd (word.1 _ member) (by decide)

theorem IsName.newline_not_mem {name : String} (named : IsName name) :
    '\n' ∉ name.toList :=
  (isName_iff_isWord.1 named).1.newline_not_mem

/-- The listing of a tree that is read is on one line. -/
theorem Expr.Wordlike.newline_not_mem {expr : Expr} (leaves : expr.Wordlike) :
    '\n' ∉ expr.listing.toList := by
  have enclosed : ∀ (needed : Bool) {text : String}, '\n' ∉ text.toList →
      '\n' ∉ (parenthesized needed text).toList := by
    intro needed text inLine
    cases needed <;> simp [parenthesized, inLine]
  induction expr with
  | identifier name => exact IsWord.newline_not_mem leaves
  | digits text =>
      exact fun member => absurd (leaves.2 _ member) (by decide)
  | string text =>
      have inLine := Scan.newline_not_mem_escaped text.toList
      simpa [listing, quotedString, String.toList_join, List.flatMap_map]
        using inLine
  | unary op operand ih =>
      have inner := enclosed (operand.strength < unaryStrength) (ih leaves)
      cases op <;> cases shape : operand.isDigits <;>
        simp [listing, UnaryOp.operator, UnaryOp.isRadix, Operator.symbol,
          shape, inner]
  | apply callee arguments ihCallee ihArguments =>
      have inner := enclosed (callee.strength < atomStrength)
        (ihCallee leaves.1)
      simp [listing, inner, ihArguments leaves.2]
  | binary op left right ihLeft ihRight =>
      have front := enclosed (leftNeedsParentheses op left) (ihLeft leaves.1)
      have back := enclosed (rightNeedsParentheses op right)
        (ihRight leaves.2)
      cases op <;>
        simp [listing, spaced, BinaryOp.symbol, BinaryOp.mark, front, back]

theorem Expr.Wordlike.listing_ne_empty {expr : Expr} (leaves : expr.Wordlike) :
    expr.listing ≠ "" := by
  rw [ne_eq, ← String.toList_eq_nil_iff]
  cases expr with
  | identifier name =>
      rcases leaves.2 with ⟨letter, member, _⟩
      exact List.ne_nil_of_mem member
  | digits text => simpa [listing] using leaves.1
  | string text => simp [listing, quotedString]
  | unary op operand =>
      cases op <;> simp [listing, UnaryOp.operator, Operator.symbol]
  | apply callee arguments => simp [listing]
  | binary op left right =>
      cases op <;> simp [listing, spaced]

namespace Tape

/-! ## Operands of rebuilt instructions -/

/-- The text of an operand is the listing of what it is renamed to. -/
theorem RebuiltOperand.text_ofOperand (inside : String)
    (operand : Option Expr) :
    (ofOperand inside operand).text =
      ((renamed inside operand).map Expr.listing).getD "" := by
  cases operand with
  | none => rfl
  | some expr => cases expr <;> rfl

/-- Digits and a name are a word, whatever they start with. -/
theorem isWord_append {digits inside : String}
    (number : IsNumber Char.isDigit digits) (named : IsName inside) :
    IsWord (digits ++ inside) := by
  rcases named with ⟨inName, ⟨letter, member, other⟩, -⟩
  constructor
  · rw [String.toList_append, List.forall_mem_append]
    exact ⟨fun character isIn =>
      Scan.isNameChar_of_isDigit (number.2 character isIn), inName⟩
  · exact ⟨letter, by simp [member], other⟩

theorem Renames.wordlike {inside : String} {operand result : Option Expr}
    (renames : Renames inside operand result) (named : IsName inside)
    (leaves : ∀ expr ∈ operand, expr.Wordlike) :
    ∀ expr ∈ result, expr.Wordlike := by
  cases renames with
  | relative number =>
      rintro _ ⟨⟩
      exact isWord_append number named
  | other => exact leaves

/-! ## Lines of rebuilt source -/

namespace RebuiltInstruction

/-- An instruction is on one line if its parts are. -/
theorem newline_not_mem_text {word : RebuiltInstruction} {written : Bool}
    (label : '\n' ∉ word.label.toList) (opcode : '\n' ∉ word.opcode.toList)
    (operand : '\n' ∉ word.operand.text.toList)
    (comment : '\n' ∉ word.comment.toList) :
    '\n' ∉ (word.text written).toList := by
  have labelInLine : '\n' ∉ (labelField word.label written).toList := by
    cases written <;>
      simp [labelField, label, Text.newline_not_mem_spaces]
  have statementInLine :
      '\n' ∉ (statement word.opcode word.operand.text).toList := by
    unfold statement
    split <;> simp [opcode, operand]
  have commentInLine : '\n' ∉
      (commentField word.opcode word.operand.text word.comment).toList := by
    unfold commentField
    split <;> simp [comment, Text.newline_not_mem_spaces]
  simp [text, labelInLine, statementInLine, commentInLine]

end RebuiltInstruction

theorem newline_not_mem_assemblyOpcode {name : String} (named : IsName name) :
    '\n' ∉ (assemblyOpcode name).toList := by
  unfold assemblyOpcode
  split <;> first | decide | exact named.newline_not_mem

namespace IsListing

variable {starts : Char → Prop} {records : List Line}

/-- Each record is written on one line. -/
theorem newline_not_mem_text (listing : IsListing starts records)
    (source : List RebuiltLine) {place : Place}
    (member : place ∈ places records) :
    '\n' ∉ (place.rebuilt.text source).toList := by
  have record := listing.isRecord (record_mem_of_mem member)
  rcases place.rebuilt_cases with ⟨absent, rebuilt⟩ | ⟨opens, rebuilt⟩ | word
  · simpa [rebuilt, RebuiltLine.text] using record.leadingComment.inLine
  · simpa [rebuilt, RebuiltLine.text] using
      (listing.inside member
        (Place.hasInstruction_of_opens opens)).1.newline_not_mem
  · rcases Place.exists_of_isWord word with ⟨stated, instruction, rebuilt⟩
    have named := (listing.inside member
      (Place.hasInstruction_of_isWord word)).1
    rw [rebuilt]
    refine RebuiltInstruction.newline_not_mem_text ?_ ?_ ?_
      record.trailingComment.inLine
    · rcases listing.exists_label_eq member with ⟨digits, number, same, _⟩
      simpa [Place.word, same] using
        (isWord_append number named).newline_not_mem
    · exact newline_not_mem_assemblyOpcode
        (record.instruction stated instruction)
    · have leaves := (renames_renamed place.inside
        place.record.operand).wordlike named record.wordlike
      rw [Place.word, RebuiltOperand.text_ofOperand]
      cases operand : renamed place.inside place.record.operand with
      | none => exact List.not_mem_nil
      | some expr => exact (leaves expr operand).newline_not_mem

/-- The source has one line for each record that is written, in order. -/
theorem lines_sourceText (listing : IsListing starts records) :
    Text.lines '\n' (sourceText (RebuiltLine.ofLines records)).toList =
      (((places records).filter Place.isWritten).map fun place =>
        place.rebuilt.text (RebuiltLine.ofLines records)).map fun text =>
          text.toList ++ ['\n'] := by
  have texts : (RebuiltLine.ofLines records).map
      (RebuiltLine.text (RebuiltLine.ofLines records)) =
      ((places records).filter Place.isWritten).map fun place =>
        place.rebuilt.text (RebuiltLine.ofLines records) := by
    generalize RebuiltLine.text (RebuiltLine.ofLines records) = text
    rw [RebuiltLine.ofLines_eq, List.map_map]
    rfl
  have inLine : ∀ text ∈ ((places records).filter Place.isWritten).map
      fun place => place.rebuilt.text (RebuiltLine.ofLines records),
      '\n' ∉ text.toList := by
    intro text member
    rcases List.mem_map.1 member with ⟨place, kept, rfl⟩
    exact listing.newline_not_mem_text _ (List.mem_filter.1 kept).1
  rw [← Text.lines_join inLine, ← texts, List.map_map]
  rfl

end IsListing

end Tape

end Whirlwind
