import Whirlwind.Expr.Listing

/-!
# Lines

What one line of source says: an optional place in memory, condition and label,
an optional instruction with its operand, and comments.  A line is listed in
canonical assembly form, or field by field.
-/

namespace Whirlwind

/--
The place and contents of a word that a listing puts in front of a line, as
they are written there.
-/
structure PrefixAddress where
  address : String
  offset : Option String := none
  contents : String
  deriving DecidableEq, Repr

/-- The name of an instruction, or of a directive, which a dot marks. -/
structure Instruction where
  name : String
  isDirective : Bool := false
  deriving DecidableEq, Repr

/-- What one line of source says. -/
structure Line where
  /-- The line as it was read, without its terminator. -/
  rawText : String := ""
  lineNumber : Nat := 0
  /-- On tapes, the place of the word in its section. -/
  offset : Option Int64 := none
  prefixAddress : Option PrefixAddress := none
  /-- The atom of an `if` in front of the rest of the line. -/
  condition : Option Expr := none
  label : Option String := none
  instruction : Option Instruction := none
  operand : Option Expr := none
  /-- On tapes, the free text in front of the first tab. -/
  leadingComment : String := ""
  trailingComment : String := ""
  autoComment : String := ""
  deriving DecidableEq, Repr

/-- The text of a prefix address. -/
def PrefixAddress.listing (address : PrefixAddress) : String :=
  "@" ++ address.address ++
    (match address.offset with
      | some offset => "." ++ offset
      | none => "") ++
    ":" ++ address.contents

namespace Instruction

/-- The directives whose operand is the rest of the line, as it is. -/
def rawDirectives : List String :=
  ["exec", "print"]

/-- Whether the operand is the rest of the line, as it is. -/
def takesRawOperand (instruction : Instruction) : Bool :=
  instruction.isDirective && rawDirectives.contains instruction.name

/-- The name, behind a dot for a directive. -/
def listing (instruction : Instruction) : String :=
  if instruction.isDirective then "." ++ instruction.name
  else instruction.name

end Instruction

namespace Line

/-- Whether a line has an instruction. -/
def hasInstruction (line : Line) : Bool :=
  line.instruction.isSome

/-- The name of the instruction, empty if there is none. -/
def opcode (line : Line) : String :=
  match line.instruction with
  | some instruction => instruction.name
  | none => ""

/-- Whether the instruction is a directive. -/
def isDirective (line : Line) : Bool :=
  match line.instruction with
  | some instruction => instruction.isDirective
  | none => false

/-- An operand as it stands behind an instruction. -/
def operandListing (instruction : Option Instruction) (operand : Expr) :
    String :=
  match instruction, operand with
  | some named, .string raw =>
      if named.takesRawOperand then raw else operand.listing
  | _, _ => operand.listing

/-- The parts of a line in canonical form, in order. -/
def parts (line : Line) : List String :=
  (line.prefixAddress.map PrefixAddress.listing).toList ++
    (line.condition.map (".if " ++ ·.listing)).toList ++
    (line.label.map (· ++ ":")).toList ++
    (line.instruction.map Instruction.listing).toList ++
    (line.operand.map (operandListing line.instruction)).toList ++
    (if line.trailingComment = "" then [] else ["; " ++ line.trailingComment]) ++
    (if line.autoComment = "" then [] else ["@@ " ++ line.autoComment])

/-- A line in canonical assembly form. -/
def listing (line : Line) : String :=
  " ".intercalate line.parts

end Line

/-- An optional value, field by field. -/
def optionOutline {Value : Type} (outline : Value → String) :
    Option Value → String
  | some value => "Some(" ++ outline value ++ ")"
  | none => "None"

/-- A truth value. -/
def truthOutline (value : Bool) : String :=
  if value then "true" else "false"

/-- A prefix address, field by field. -/
def PrefixAddress.outline (address : PrefixAddress) : String :=
  "PrefixAddress \x7b address: " ++ Text.quoted address.address ++
    ", offset: " ++ optionOutline Text.quoted address.offset ++
    ", contents: " ++ Text.quoted address.contents ++ " \x7d"

/-- A line, field by field. -/
def Line.outline (line : Line) : String :=
  "ParsedLine \x7b raw_text: " ++ Text.quoted line.rawText ++
    ", line_number: " ++ toString line.lineNumber ++
    ", prefix_offset: " ++ optionOutline Text.decimal line.offset ++
    ", prefix_address: " ++
      optionOutline PrefixAddress.outline line.prefixAddress ++
    ", condition: " ++ optionOutline Expr.outline line.condition ++
    ", label: " ++ optionOutline Text.quoted line.label ++
    ", opcode: " ++ Text.quoted line.opcode ++
    ", is_directive: " ++ truthOutline line.isDirective ++
    ", operand: " ++ optionOutline Expr.outline line.operand ++
    ", prefix_comment: " ++ Text.quoted line.leadingComment ++
    ", postfix_comment: " ++ Text.quoted line.trailingComment ++
    ", auto_comment: " ++ Text.quoted line.autoComment ++ " \x7d"

end Whirlwind
