import Whirlwind.Text.Blank

/-!
# Notations

Four notations share one lexer and one expression grammar.  They differ in the
characters that are operators, in what counts as a comment, and in how a line
is laid out.
-/

namespace Whirlwind

/-- A notation in which source is written. -/
inductive Grammar where
  /-- Assembly source. -/
  | assembly
  /-- Tape listings, whose fields are separated by tabs. -/
  | tape
  /-- Free-standing expressions, separated by semicolons. -/
  | expression
  /-- Debugger commands: a name and a list of arguments. -/
  | debugger
  deriving DecidableEq, Repr

namespace Grammar

/-- The characters that are operators by themselves. -/
def marks : Grammar → List Char
  | .assembly | .tape => ['+', '-', ':', '.', ',', '*', '/', '|', '&', '(', ')']
  | .expression =>
      ['+', '-', '*', '/', '.', ',', ';', '(', ')', '{', '}', '[', ']', '|',
        '&', '^', '<', '>', '=']
  | .debugger => [',', '(', ')']

/-- Whether a character is an operator by itself. -/
def isMark (grammar : Grammar) (character : Char) : Bool :=
  grammar.marks.contains character

/-- Whether a semicolon starts a comment that runs to the end of the line. -/
def hasComments : Grammar → Bool
  | .assembly | .tape => true
  | .expression | .debugger => false

/-- Whether an at sign is an operator, and two of them start a comment. -/
def hasAtSign : Grammar → Bool
  | .assembly | .tape | .expression => true
  | .debugger => false

/-- Whether a tab separates fields, and so is a token of its own. -/
def hasTabs : Grammar → Bool
  | .tape => true
  | .assembly | .expression | .debugger => false

/--
Whether a run of characters other than blanks, quotes and operators is one
token, whatever the characters are.
-/
def hasRuns : Grammar → Bool
  | .debugger => true
  | .assembly | .tape | .expression => false

/-- Whether a character only separates tokens. -/
def isGap (grammar : Grammar) (character : Char) : Bool :=
  Text.isBlank character && !(grammar.hasTabs && character = '\t')

/-- Whether a character ends the number or name before it. -/
def isTerminator (grammar : Grammar) (character : Char) : Bool :=
  Text.isBlank character || grammar.isMark character ||
    (grammar.hasComments && character = ';') ||
    (grammar.hasAtSign && character = '@')

end Grammar

end Whirlwind
