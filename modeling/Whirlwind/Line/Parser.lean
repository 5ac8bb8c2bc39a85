import Whirlwind.Expr.Parser
import Whirlwind.Line.Basic
import Whirlwind.Machine.Integer

/-!
# Parsing lines

Each line is read by a stream of its own, so that an error on one line cannot
disturb the next.  The four notations lay a line out in four ways, out of the
same parts.

An action that reads a whole line is given the line with its raw text and its
number, and answers with the line filled in and with whether it has something
to act on.  A line that has not is no error.
-/

namespace Whirlwind

/-- An instruction and its operand. -/
structure Statement where
  instruction : Instruction
  operand : Option Expr
  deriving DecidableEq, Repr

namespace Line

/-- A line with the instruction and operand of a statement, if there is one. -/
def withStatement (line : Line) (statement : Option Statement) : Line :=
  { line with
    instruction := statement.map Statement.instruction
    operand := statement.bind Statement.operand }

end Line

/-- Whether an operand can start with a lexeme. -/
def Lexeme.startsOperand : Lexeme → Bool
  | .finish | .comment _ | .autoComment _ | .tab => false
  | .operator _ | .identifier _ | .digits _ | .string _ => true

namespace TokenStream

/-- Fail because of a token that cannot stand where it does. -/
def unexpected {Result : Type} (token : Token) : Reading Result :=
  fail token (.unexpectedToken token.lexeme)

/-- An operand, if one starts here. -/
def operand? : Reading (Option Expr) := do
  let token ← peek
  if token.lexeme.startsOperand then
    return some (← expression)
  else
    return none

/-- A directive, from the token behind its dot on. -/
def directive (token : Token) : Reading Statement := do
  match token.lexeme with
  | .identifier name =>
      let instruction := { name := name, isDirective := true }
      if instruction.takesRawOperand && !(← get).hasReturned then
        let raw := Text.trim (← onLexer Lexer.restOfLine)
        return ⟨instruction, if raw = "" then none else some (.string raw)⟩
      else
        return ⟨instruction, ← operand?⟩
  | _ => fail token .expectedOpname

/-- An instruction or a directive, if one starts here. -/
def statement? : Reading (Option Statement) := do
  let token ← next
  match token.lexeme with
  | .identifier name => return some ⟨{ name := name }, ← operand?⟩
  | .operator (.mark '.') => return some (← directive (← next))
  | _ =>
      handBack token
      return none

/-- A label, if there is one, and what stands behind it. -/
def labelled : Reading (Option String × Option Statement) := do
  let token ← next
  match token.lexeme with
  | .identifier name =>
      let after ← next
      if after.isMark ':' then
        return (some name, ← statement?)
      else
        handBack after
        return (none, some ⟨{ name := name }, ← operand?⟩)
  | _ =>
      handBack token
      return (none, ← statement?)

/-- The digits of a part of a prefix address. -/
def prefixDigits : Reading String := do
  let token ← next
  match token.lexeme with
  | .digits text => return text
  | _ => fail token .badPrefixAddress

/-- The part of a prefix address between its address and its contents. -/
def prefixOffset? : Reading (Option String) := do
  let token ← next
  if token.isMark '.' then
    let offset ← prefixDigits
    let colon ← next
    if colon.isMark ':' then return some offset
    else fail colon .badPrefixAddress
  else if token.isMark ':' then
    return none
  else
    fail token .badPrefixAddress

/-- A prefix address, if there is one. -/
def prefixAddress? : Reading (Option PrefixAddress) := do
  let token ← next
  if token.isMark '@' then
    let address ← prefixDigits
    let offset ← prefixOffset?
    let contents ← prefixDigits
    return some ⟨address, offset, contents⟩
  else
    handBack token
    return none

/-- A comment written by a tool, if a token is one, behind another comment. -/
def commentsFrom (trailing : String) (token : Token) :
    Reading (String × String) := do
  match token.lexeme with
  | .autoComment text => return (trailing, Text.trim text)
  | _ =>
      handBack token
      return (trailing, "")

/-- The comments at the end of a line; one that is missing is empty. -/
def comments : Reading (String × String) := do
  let token ← next
  match token.lexeme with
  | .comment text => commentsFrom (Text.trim text) (← next)
  | _ => commentsFrom "" token

/-- What stands behind the prefix address: condition, label, statement. -/
def conditional :
    Reading (Option Expr × Option String × Option Statement) := do
  let token ← next
  if token.isMark '.' then
    let name ← next
    if name.lexeme = .identifier "if" then
      let condition ← atom
      let (label, statement) ← labelled
      return (some condition, label, statement)
    else
      return (none, none, some (← directive name))
  else
    handBack token
    let (label, statement) ← labelled
    return (none, label, statement)

/-- A line of assembly source. -/
def assemblyLine (line : Line) : Reading (Bool × Line) := do
  let prefixAddress ← prefixAddress?
  let (condition, label, statement) ← conditional
  let (trailingComment, autoComment) ← comments
  expectFinish
  return (statement.isSome,
    { line.withStatement statement with
      prefixAddress := prefixAddress
      condition := condition
      label := label
      trailingComment := trailingComment
      autoComment := autoComment })

/-- The offset field of a tape line, and the tab behind it. -/
def sectionOffset? : Reading (Option Int64) := do
  let token ← next
  match token.lexeme with
  | .digits text =>
      match (Integer.numeral? 10 text.toList).bind
          (Integer.ofInt? ∘ Int.ofNat) with
      | none => fail token (.badSectionOffset text)
      | some offset =>
          let separator ← next
          if separator.lexeme = .tab then
            return some offset
          else
            handBack separator
            return some offset
  | .tab => return none
  | _ =>
      handBack token
      return none

/-- The comment field of a tape line and the end of the line. -/
def tapeComment : Reading String := do
  let token ← next
  match token.lexeme with
  | .tab =>
      if (← get).hasReturned then
        unexpected token
      else
        let rest ← onLexer Lexer.restOfLine
        expectFinish
        return Text.trim rest
  | .comment text =>
      expectFinish
      return Text.trim text
  | .finish => return ""
  | _ => unexpected token

/-- A line of a tape listing. -/
def tapeLine (line : Line) : Reading (Bool × Line) := do
  let field ← onLexer Lexer.nextField
  let line := { line with leadingComment := Text.trim field.lexeme.text }
  let token ← next
  match token.lexeme with
  | .finish => return (false, line)
  | .tab =>
      let offset ← sectionOffset?
      let statement ← statement?
      let trailingComment ← tapeComment
      return (statement.isSome,
        { line.withStatement statement with
          offset := offset
          trailingComment := trailingComment })
  | _ => unexpected token

/-- A debugger command. -/
def debuggerLine (line : Line) : Reading (Bool × Line) := do
  let token ← next
  match token.lexeme with
  | .finish => return (false, line)
  | .identifier name =>
      let operand ← operand?
      expectFinish
      return (true, line.withStatement (some ⟨{ name := name }, operand⟩))
  | lexeme => fail token (.expectedCommandName lexeme)

/-- A line that is one expression, with or without a semicolon behind it. -/
def expressionLine (line : Line) : Reading (Bool × Line) := do
  let operand ← operand?
  let token ← next
  if token.isMark ';' then
    expectFinish
  else
    handBack token
    expectFinish
  return (operand.isSome, { line with operand := operand })

/-- A line of a notation. -/
def line (grammar : Grammar) (line : Line) : Reading (Bool × Line) :=
  match grammar with
  | .assembly => assemblyLine line
  | .tape => tapeLine line
  | .debugger => debuggerLine line
  | .expression => expressionLine line

end TokenStream

/--
What a line says, and whether it has something to act on.  Lines are numbered
from a given number on.
-/
def Line.parse (text : String) (lineNumber : Nat) (grammar : Grammar) :
    Except ParseError (Bool × Line) :=
  Reading.answer
    (TokenStream.line grammar
      { rawText := String.ofList (Text.trimLineEnd text.toList)
        lineNumber := lineNumber })
    (TokenStream.ofText text lineNumber grammar)

end Whirlwind
