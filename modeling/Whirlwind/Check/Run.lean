import Whirlwind.Check.Basic
import Whirlwind.Line.Parser
import Whirlwind.Report.Input

/-!
# Checking a source

Source is checked line by line, each line on its own.  Free-standing
expressions can run across lines, so a source of them is read as a whole.
Names have no values here.
-/

namespace Whirlwind.Check

/-- Write the value of an operand, or fail the line that it is on. -/
def showValue (options : Options) (operand : Expr) (lineText : String) :
    Checking PUnit :=
  match operand.evaluate { symbols := {} } with
  | .ok value =>
      write ("    " ++ operand.listing ++ " => " ++ value.toText ++ "\n")
  | .error error => fail options (reportOnValue error lineText)

/-- Write what a line says, and the value of its operand. -/
def showLine (options : Options) (line : Line) : Checking PUnit := do
  write (reportOnLine line.lineNumber line.outline ++ "\n")
  match line.operand with
  | some operand => showValue options operand line.rawText
  | none => return ⟨⟩

/-- Check one line. -/
def checkLine (options : Options) (number : Nat) (text : String) :
    Checking PUnit := do
  countLine
  match Line.parse text number options.grammar with
  | .error error => fail options (reportOnLine number error.diagnostic)
  | .ok (hasInstruction, line) =>
      if hasInstruction then countInstruction
      if options.verbose then showLine options line
      if options.reformat then write (line.listing ++ "\n")

/-- Check lines, numbered from a given number on. -/
def checkLinesFrom (options : Options) (number : Nat) :
    List String → Checking PUnit
  | [] => return ⟨⟩
  | text :: rest => do
      checkLine options number text
      checkLinesFrom options (number + 1) rest

/-- Check one free-standing expression. -/
def checkStatement (options : Options) (statement : Expr) :
    Checking PUnit := do
  countInstruction
  if options.verbose then
    write (statement.outline ++ "\n")
    showValue options statement statement.listing
  if options.reformat then write (statement.listing ++ ";\n")

/-- Check a text of free-standing expressions. -/
def checkStatements (options : Options) (text : String) : Checking PUnit :=
  match Reading.answer TokenStream.statements
      (TokenStream.ofText text 1 .expression) with
  | .error error => fail options error.report
  | .ok statements => statements.forM (checkStatement options)

/-- The text of a source up to where it cannot be read. -/
def readableText : Source → String
  | .file content => Cursor.readableText content.data.toList
  | .directory => ""

/-- Check what has been opened under a name. -/
def checkOpened (options : Options) (name : FileName)
    (opened : Except IoError Source) : Checking PUnit :=
  match options.grammar, opened with
  | .expression, .error error => throw (.input name error none)
  | .expression, .ok source => checkStatements options (readableText source)
  | _, _ =>
      match inputLines name opened with
      | .error failure => throw failure
      | .ok lines => checkLinesFrom options 1 lines

/--
Check what has been opened under a name.  The answer is what the run has
counted, if no line has failed.
-/
def run (options : Options) (name : FileName)
    (opened : Except IoError Source) : Checking Summary := do
  checkOpened options name opened
  conclude

end Whirlwind.Check
