import Whirlwind.Tape.Naming

/-!
# Rebuilt source

Assembly source made from the lines of a tape listing.  A line that opens a
section becomes a label of its own, an instruction gets the label that its
offset has in the section, and operands that are bare relative names are
renamed to match.  Only labels that an operand refers to are written.
-/

namespace Whirlwind.Tape

/-- The operand of a rebuilt instruction. -/
inductive RebuiltOperand where
  /-- A bare name, which refers to the word with that label. -/
  | reference (label : String)
  /-- Any other operand, or an empty text for none. -/
  | plain (text : String)
  deriving DecidableEq, Repr

/-- A rebuilt instruction. -/
structure RebuiltInstruction where
  label : String
  opcode : String
  operand : RebuiltOperand
  comment : String
  deriving DecidableEq, Repr

/-- A line of rebuilt source. -/
inductive RebuiltLine where
  /-- The start of a section. -/
  | heading (name : String)
  | instruction (word : RebuiltInstruction)
  | comment (text : String)
  deriving DecidableEq, Repr

/-- The text of an operand. -/
def RebuiltOperand.text : RebuiltOperand → String
  | .reference label => label
  | .plain text => text

/-- The operand of an instruction in a section. -/
def RebuiltOperand.ofOperand (inside : String) :
    Option Expr → RebuiltOperand
  | some (.identifier name) => .reference (assemblyLabel inside name)
  | some operand => .plain operand.listing
  | none => .plain ""

/-- The label of a word: its offset, which is zero if none is stated, and the
section that it is in. -/
def wordLabel (inside : String) (offset : Option Int64) : String :=
  Text.decimal (offset.getD 0) ++ inside

namespace RebuiltLine

/-- The name of the lines that open a section. -/
def headingOpcode : String :=
  "section"

/-- Rebuild lines from a place inside a section on. -/
def ofLinesFrom (inside : String) : List Line → List RebuiltLine
  | [] => []
  | line :: rest =>
      match line.instruction with
      | some stated =>
          if stated.name = headingOpcode then
            let name := (line.operand.map Expr.listing).getD ""
            .heading name :: ofLinesFrom name rest
          else
            .instruction
              { label := wordLabel inside line.offset
                opcode := assemblyOpcode stated.name
                operand := .ofOperand inside line.operand
                comment := line.trailingComment } :: ofLinesFrom inside rest
      | none =>
          if line.leadingComment = "" then ofLinesFrom inside rest
          else .comment line.leadingComment :: ofLinesFrom inside rest

/-- Rebuild the lines of a listing, which starts outside all sections. -/
def ofLines (lines : List Line) : List RebuiltLine :=
  ofLinesFrom "" lines

/-- Whether the operand of a line refers to a label. -/
def refersTo (label : String) : RebuiltLine → Bool
  | .instruction { operand := .reference target, .. } => target = label
  | _ => false

end RebuiltLine

/-- Whether some instruction of a source refers to a label. -/
def isReferenced (source : List RebuiltLine) (label : String) : Bool :=
  source.any (RebuiltLine.refersTo label)

namespace RebuiltInstruction

/-- The width of the label field, with the colon and the space behind it. -/
def labelWidth : Nat :=
  10

/-- The width of an opcode and its operand in front of a comment, without the
space between them. -/
def statementWidth : Nat :=
  20

/-- The label field, which is blank if the label is not to be written. -/
def labelField (label : String) (written : Bool) : String :=
  if written then
    label ++ ":" ++ Text.spaces (labelWidth - (label.utf8ByteSize + 2)) ++ " "
  else
    Text.spaces labelWidth

/-- An opcode and its operand. -/
def statement (opcode operand : String) : String :=
  if operand = "" then opcode else opcode ++ " " ++ operand

/-- A comment and the space in front of it. -/
def commentField (opcode operand comment : String) : String :=
  if comment = "" then ""
  else
    Text.spaces
        (statementWidth - (opcode.utf8ByteSize + operand.utf8ByteSize)) ++
      "; " ++ comment

/-- The text of an instruction, with or without its label. -/
def text (instruction : RebuiltInstruction) (labelled : Bool) : String :=
  let operand := instruction.operand.text
  labelField instruction.label labelled ++
    statement instruction.opcode operand ++
    commentField instruction.opcode operand instruction.comment

end RebuiltInstruction

/-- The text of a line of a source, without a newline. -/
def RebuiltLine.text (source : List RebuiltLine) : RebuiltLine → String
  | .heading name => name ++ ":"
  | .comment text => "; " ++ text
  | .instruction word => word.text (isReferenced source word.label)

/-- The text of a source. -/
def sourceText (source : List RebuiltLine) : String :=
  String.join (source.map fun line => line.text source ++ "\n")

end Whirlwind.Tape
