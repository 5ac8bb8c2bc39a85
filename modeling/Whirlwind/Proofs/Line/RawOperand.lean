import Whirlwind.Proofs.Line.Listing
import Whirlwind.Proofs.Token.Spacing

/-!
# Operands that are taken as they are

Behind `.exec` and `.print` the rest of a line is the operand, whatever it is.
Reading never fails there: quotes need not be closed, no character is illegal,
and no comment starts (`Line.parse_rawDirective`).  What stands in front of such
a directive is read as on any other line, and nothing of the operand is read
ahead with it.
-/

namespace Whirlwind

open Lexer

/-- The lexemes in front of the instruction of a line. -/
def leadLexemes (address : Option PrefixAddress) (condition : Option Expr)
    (label : Option String) : List Lexeme :=
  addressLexemes address ++ (conditionLexemes condition ++ labelLexemes label)

/-- The text behind a directive is kept, unless all of it is blank. -/
theorem rawOperand_trimReturns (text : String) :
    TokenStream.rawOperand
        (Text.trim (String.ofList (Text.trimReturns text.toList))) =
      if text.toList.all Text.isBlank then none
      else some (.string (Text.trim text)) := by
  have trimmed : Text.trim (String.ofList (Text.trimReturns text.toList)) =
      Text.trim text := by
    rw [Text.trim, String.toList_ofList, Text.trimBlanks_trimReturns,
      Text.trim]
  have silent : Text.trim text = "" ↔ text.toList.all Text.isBlank := by
    rw [List.all_eq_true, ← Text.trimBlanks_eq_nil_iff, Text.trim,
      String.ofList_eq_empty_iff]
  rw [trimmed, TokenStream.rawOperand]
  simp only [silent]

section

variable {address : Option PrefixAddress} {condition : Option Expr}
  {label : Option String} {name : String} {lead rest : List Char}

/-- A lead and a directive behind it are read up to the rest of the line. -/
theorem gives_rawDirective
    (spaced : Spaced .assembly (leadLexemes address condition label) lead)
    (named : IsName name) (closes : Grammar.assembly.Closes rest) :
    Gives .assembly .start (lead ++ '.' :: (name.toList ++ rest))
      (leadLexemes address condition label ++ [.mark '.', .identifier name])
      .start rest := by
  have closesDot : Grammar.assembly.Closes ('.' :: (name.toList ++ rest)) :=
    Grammar.closes_cons.2 rfl
  rcases spaced.exists_gives rfl closesDot (by simp) with ⟨gap, gaps, gives⟩
  have dot : Gives .assembly .start (gap ++ '.' :: (name.toList ++ rest))
      [.mark '.'] .start (name.toList ++ rest) :=
    gives_mark '.' gaps rfl
  have word := gives_identifier rfl (Grammar.skips_nil _) named closes
  exact gives.trans (dot.trans word)

end

/--
A line with `.exec` or `.print` in it is read, whatever stands behind that.  The
text behind it is the operand, without the blanks at its ends, and there is no
operand if it is blank, and never a comment.  In front there may be a prefix
address, a condition and a label.
-/
theorem Line.parse_rawDirective {lead name rest : String}
    {address : Option PrefixAddress} {condition : Option Expr}
    {label : Option String} (lineNumber : Nat)
    (spaced : Spaced .assembly (leadLexemes address condition label)
      lead.toList)
    (leaf : ∀ expr ∈ condition, expr.isLeaf = true)
    (raw : name = "exec" ∨ name = "print")
    (inLine : '\n' ∉ rest.toList)
    (apart : ∀ first ∈ rest.toList.head?, Text.isBlank first = true) :
    let text := lead ++ "." ++ name ++ rest
    Line.parse text lineNumber .assembly =
      .ok (true,
        { rawText := String.ofList (Text.trimLineEnd text.toList)
          lineNumber := lineNumber
          prefixAddress := address
          condition := condition
          label := label
          instruction := some ⟨name, true⟩
          operand :=
            if rest.toList.all Text.isBlank then none
            else some (.string (Text.trim rest))
          trailingComment := ""
          autoComment := "" }) := by
  intro text
  have named : IsName name := by
    rcases raw with rfl | rfl <;> decide
  have takes : Instruction.takesRawOperand ⟨name, true⟩ = true := by
    rcases raw with rfl | rfl <;> rfl
  have closes : Grammar.assembly.Closes rest.toList := fun first member => by
    simp [Grammar.isTerminator, apart first member]
  have faces := faces_ofText text lineNumber .assembly
  have written : text.toList =
      lead.toList ++ '.' :: (name.toList ++ rest.toList) := by
    simp [text]
  rw [written] at faces
  rcases gives_rawDirective spaced named closes _ faces with
    ⟨between, reads, facesRest⟩
  rcases exists_tells_rest takes inLine facesRest with ⟨finish, tells⟩
  rw [rawOperand_trimReturns] at tells
  have offers := TokenStream.offers_ofText reads
  rw [leadLexemes, List.append_assoc, List.append_assoc] at offers
  have unambiguous : ∀ operand, Tells.Conditioned condition label
      (some ⟨⟨name, true⟩, operand⟩) := by
    rintro operand _ ⟨⟩
    simp at raw
  let blank : Line :=
    { rawText := String.ofList (Text.trimLineEnd text.toList)
      lineNumber := lineNumber }
  have tellsComments : Tells _ _ between
      (commentLexemes none none ++ [.finish]) finish := tells
  have yields := offers.yields_assemblyLine blank tellsComments
    (spells_conditionLexemes leaf) (unambiguous _)
  exact yields.answer_eq

/-- All that may stand in front, and a rest that could not be read otherwise. -/
theorem Line.parse_rawDirective_unreadable :
    let lead := "@12 .3:4\t.if \"a\\t;\"b:"
    let rest := " \"(; $ @@ \\ "
    let place : PrefixAddress := ⟨"12", some "3", "4"⟩
    let condition : Expr := .string "a\t;"
    let text := "@12 .3:4\t.if \"a\\t;\"b:.print \"(; $ @@ \\ "
    Spaced .assembly (leadLexemes (some place) (some condition) (some "b"))
        lead.toList ∧
      (∀ expr ∈ some condition, expr.isLeaf = true) ∧
      ("print" = "exec" ∨ "print" = "print") ∧ '\n' ∉ rest.toList ∧
      (∀ first ∈ rest.toList.head?, Text.isBlank first = true) ∧
      Line.parse text 8 .assembly =
        .ok (true,
          { rawText := text
            lineNumber := 8
            prefixAddress := some place
            condition := some condition
            label := some "b"
            instruction := some ⟨"print", true⟩
            operand := some (.string "\"(; $ @@ \\") }) := by
  intro lead rest place condition text
  have spaced : Spaced .assembly
      (leadLexemes (some place) (some condition) (some "b")) lead.toList := by
    have tight := Grammar.skips_nil .assembly
    have tab : Grammar.assembly.Skips ['\t'] := by
      simpa [Grammar.Skips] using (by decide : Grammar.assembly.isGap '\t')
    have split : lead.toList = [] ++ '@' :: ([] ++ ("12".toList ++
        ([' '] ++ '.' :: ([] ++ ("3".toList ++ ([] ++ ':' :: ([] ++
          ("4".toList ++ (['\t'] ++ '.' :: ([] ++
            ("if".toList ++ ([' '] ++ '"' :: (['a', '\\', 't', ';'] ++
              '"' :: ([] ++ ("b".toList ++ ([] ++ ':' :: []))))))))))))))))
        := by
      decide
    rw [split]
    refine .atSign tight rfl (by decide) ?_
    refine .number tight (by decide) (Grammar.closes_cons.2 rfl) ?_
    refine .mark (Grammar.skips_blank _) rfl ?_
    refine .number tight (by decide) (Grammar.closes_cons.2 rfl) ?_
    refine .mark tight rfl ?_
    refine .number tight (by decide) (Grammar.closes_cons.2 rfl) ?_
    refine .mark tab rfl ?_
    refine .name tight (by decide) (Grammar.closes_cons.2 rfl) ?_
    refine .string (Grammar.skips_blank _)
      (.plain (by decide) (.escape (by decide) (.plain (by decide) .done))) ?_
    refine .name tight (by decide) (Grammar.closes_cons.2 rfl) ?_
    exact .mark tight rfl (.gap tight)
  have leaf : ∀ expr ∈ some condition, expr.isLeaf = true := by
    rintro _ ⟨⟩
    rfl
  have inLine : '\n' ∉ rest.toList := by decide
  have apart : ∀ first ∈ rest.toList.head?, Text.isBlank first = true := by
    intro first starts
    obtain rfl : first = ' ' := by simpa [rest] using starts.symm
    decide
  refine ⟨spaced, leaf, .inr rfl, inLine, apart, ?_⟩
  have parsed := Line.parse_rawDirective 8 spaced leaf (Or.inr rfl) inLine
    apart
  have written : lead ++ "." ++ "print" ++ rest = text := by decide
  have kept : Text.trim rest = "\"(; $ @@ \\" := by decide +kernel
  have visible : rest.toList.all Text.isBlank = false := by decide
  have whole : String.ofList (Text.trimLineEnd text.toList) = text := by
    decide +kernel
  simpa [written, kept, visible, whole] using parsed

end Whirlwind
