import Whirlwind.Source.Cursor
import Whirlwind.Source.SyntaxError
import Whirlwind.Token.Scan

/-!
# The lexer

Tokens are read one at a time from a cursor.  Each call skips the gap in front
of a token and scans one lexeme; what the next call has to know is the mode.
Reading goes on after an error, and at the end of the text every call answers
with the finishing token.

`Lexer.weight` bounds the tokens that are still to come: every token but the
finishing one takes off at least one (`weight_next`).
-/

namespace Whirlwind

/-- A lexeme and the place where it starts. -/
structure Token where
  lexeme : Lexeme
  location : Location
  deriving DecidableEq, Repr

/-- Whether a token marks the end of the text. -/
def Token.isFinish (token : Token) : Bool :=
  token.lexeme = .finish

/-- Whether a token is the operator of a single given character. -/
def Token.isMark (token : Token) (character : Char) : Bool :=
  token.lexeme = .operator (.mark character)

/-- A cursor with the notation to read and the mode to read on in. -/
structure Lexer where
  cursor : Cursor
  grammar : Grammar
  mode : Mode := .start
  deriving DecidableEq, Repr

namespace Lexer

/-- A lexer at the start of a text whose first line has a given number. -/
def ofText (text : String) (firstLine : Nat) (grammar : Grammar) : Lexer where
  cursor := Cursor.ofText text firstLine
  grammar := grammar

/-- A bound on the number of tokens still to come. -/
def weight (lexer : Lexer) : Nat :=
  lexer.cursor.remaining.length +
    if lexer.mode = .autoComment then 1 else 0

/--
The mode that is in force in front of a text.  A radix mark that digits do not
follow is over.
-/
def modeAt (lexer : Lexer) (ahead : List Char) : Mode :=
  match lexer.mode with
  | .octalDigits | .hexDigits =>
      match ahead with
      | [] => .start
      | next :: _ =>
          if lexer.grammar.isTerminator next then .start else lexer.mode
  | mode => mode

/-- Act on what a scan has found at the front of a cursor. -/
def accept (lexer : Lexer) (cursor : Cursor) (finding : Finding) :
    EStateM.Result SyntaxError Lexer Token :=
  let after := cursor.skip finding.span
  match finding with
  | .lexeme lexeme _ next =>
      .ok ⟨lexeme, cursor.locationHere⟩
        { lexer with cursor := after, mode := next }
  | .illegal _ found =>
      .error ⟨.illegalCharacter found, after.locationHere, after.lineText⟩
        { lexer with cursor := after, mode := .start }
  | .unterminated _ =>
      .error ⟨.unterminatedString, cursor.locationHere, after.lineText⟩
        { lexer with cursor := after, mode := .start }

/-- Read a token. -/
def next : EStateM SyntaxError Lexer Token := fun lexer =>
  let cursor := lexer.cursor.settle
  match lexer.modeAt cursor.ahead with
  | .start =>
      let cursor := cursor.skipWhile lexer.grammar.isGap
      match cursor.ahead with
      | [] =>
          .ok ⟨.finish, cursor.locationHere⟩
            { lexer with cursor := cursor, mode := .start }
      | first :: rest =>
          lexer.accept cursor (Scan.token lexer.grammar first rest)
  | .octalDigits =>
      lexer.accept cursor (Scan.word lexer.grammar Char.isDigit cursor.ahead)
  | .hexDigits =>
      lexer.accept cursor
        (Scan.word lexer.grammar Scan.isHexDigit cursor.ahead)
  | .autoComment => lexer.accept cursor (Scan.autoComment [] cursor.ahead)

/-- Run an action of the cursor. -/
def onCursor {Result : Type} (action : StateM Cursor Result) :
    StateM Lexer Result := fun lexer =>
  let (result, cursor) := action.run lexer.cursor
  (result, { lexer with cursor := cursor })

/-- The place of the next character. -/
def locate : StateM Lexer Location :=
  onCursor Cursor.locate

/-- Read up to the end of the line, whatever it holds. -/
def restOfLine : StateM Lexer String :=
  onCursor Cursor.restOfLine

/--
Read up to the next tab or the end of the line, whatever the text is, as a
comment.
-/
def nextField : StateM Lexer Token := fun lexer =>
  let (location, cursor) := Cursor.locate.run lexer.cursor
  let (text, cursor) :=
    (Cursor.takeUntil fun character =>
      character = '\t' || character = '\n').run cursor
  (⟨.comment (String.ofList (Text.trimReturns text)), location⟩,
    { lexer with cursor := cursor, mode := .start })

end Lexer

end Whirlwind
