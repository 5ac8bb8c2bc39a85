import Whirlwind.Grammar
import Whirlwind.Text.Lines
import Whirlwind.Token.Basic

/-!
# Scanning one lexeme

What stands at the front of a piece of a line.  A scan answers with the span
of text it recognises, what the span says, and the mode in which reading goes
on.  No lexeme reaches beyond the newline.

Every span is a start of the text that was scanned
(`Scan.token_span_isPrefixOf`), and only a comment behind a split comment can
have an empty one.
-/

namespace Whirlwind

/-- How reading goes on after a lexeme. -/
inductive Mode where
  /-- At the start of a token or of a gap. -/
  | start
  /-- Right behind an octal mark. -/
  | octalDigits
  /-- Right behind a hexadecimal mark. -/
  | hexDigits
  /-- Right behind the at signs that ended a comment. -/
  | autoComment
  deriving DecidableEq, Repr

/-- What stands at the front of a text. -/
inductive Finding where
  /-- A lexeme, the text that is it, and how to go on. -/
  | lexeme (lexeme : Lexeme) (span : List Char) (next : Mode)
  /-- A span that cannot end before the character that follows it. -/
  | illegal (span : List Char) (found : Char)
  /-- A string that its line ends. -/
  | unterminated (span : List Char)
  deriving DecidableEq, Repr

namespace Finding

/-- The text that was recognised. -/
def span : Finding → List Char
  | .lexeme _ span _ | .illegal span _ | .unterminated span => span

end Finding

namespace Scan

/-- Whether a character can be part of a number or a name. -/
def isNameChar (character : Char) : Bool :=
  character.isAlphanum || character = '_'

/-- Whether a character can start a name. -/
def isNameStart (character : Char) : Bool :=
  character.isAlpha || character = '_'

/-- Whether a character is a hexadecimal digit. -/
def isHexDigit (character : Char) : Bool :=
  character.isDigit || ('a' ≤ character && character ≤ 'f') ||
    ('A' ≤ character && character ≤ 'F')

/-- Whether a run of characters is a name. -/
def isName : List Char → Bool
  | [] => false
  | first :: rest => isNameStart first && rest.all isNameChar

/-- The part of a text before the end of its line. -/
def upToNewline (text : List Char) : List Char :=
  text.takeWhile (· != '\n')

/--
A number or a name: the longest run of characters that can be part of one.  It
is a number if all of them are digits.  Whatever follows has to be able to end
it.
-/
def word (grammar : Grammar) (isDigit : Char → Bool) (text : List Char) :
    Finding :=
  let run := text.takeWhile isNameChar
  let lexeme : Lexeme :=
    if run.all isDigit then .digits (String.ofList run)
    else .identifier (String.ofList run)
  match text.dropWhile isNameChar with
  | [] => .lexeme lexeme run .start
  | next :: _ =>
      if grammar.isTerminator next then .lexeme lexeme run .start
      else .illegal run next

/-- The character that a letter stands for behind a backslash. -/
def escape? : Char → Option Char
  | 'n' => some '\n'
  | 't' => some '\t'
  | 'b' => some '\x08'
  | '"' => some '"'
  | '\\' => some '\\'
  | _ => none

/-- A text with its escapes decoded.  An unknown escape stands for itself. -/
def unescape : List Char → List Char
  | '\\' :: letter :: rest =>
      match escape? letter with
      | some character => character :: unescape rest
      | none => '\\' :: letter :: unescape rest
  | character :: rest => character :: unescape rest
  | [] => []

/--
The text of a string up to its closing quote, with its escapes as written.
There is none if the line ends first.
-/
def quotedBody? : List Char → Option (List Char)
  | [] => none
  | '"' :: _ => some []
  | '\n' :: _ => none
  | '\\' :: letter :: rest =>
      if letter = '\n' then none
      else (quotedBody? rest).map ('\\' :: letter :: ·)
  | character :: rest => (quotedBody? rest).map (character :: ·)

/-- A string, from behind its opening quote. -/
def string (rest : List Char) : Finding :=
  match quotedBody? rest with
  | some body =>
      .lexeme (.string (String.ofList (unescape body)))
        ('"' :: (body ++ ['"'])) .start
  | none => .unterminated ('"' :: upToNewline rest)

/-- The part of a comment before the two at signs that end it. -/
def beforeAtSigns? : List Char → Option (List Char)
  | [] => none
  | '@' :: '@' :: _ => some []
  | character :: rest => (beforeAtSigns? rest).map (character :: ·)

/--
A comment, from behind its semicolon.  It runs to the first two at signs that
stand together, behind which another comment starts, or to the end of the
line.
-/
def comment (rest : List Char) : Finding :=
  match beforeAtSigns? (upToNewline rest) with
  | some body =>
      .lexeme (.comment (String.ofList body)) (';' :: (body ++ ['@', '@']))
        .autoComment
  | none =>
      let body := upToNewline rest
      .lexeme (.comment (String.ofList (Text.trimReturns body))) (';' :: body)
        .start

/-- A comment behind two at signs, which runs to the end of the line. -/
def autoComment (opening rest : List Char) : Finding :=
  let body := upToNewline rest
  .lexeme (.autoComment (String.ofList (Text.trimReturns body)))
    (opening ++ body) .start

/-- A run of a notation that has runs. -/
def run (grammar : Grammar) (text : List Char) : Finding :=
  let span := text.takeWhile fun character =>
    !(Text.isBlank character || character = '"' || grammar.isMark character)
  let lexeme : Lexeme :=
    if isName span then .identifier (String.ofList span)
    else .digits (String.ofList span)
  .lexeme lexeme span .start

/-- A token, from its first character on. -/
def token (grammar : Grammar) (first : Char) (rest : List Char) : Finding :=
  if grammar.hasTabs && first = '\t' then .lexeme .tab [first] .start
  else if first = '"' then string rest
  else if grammar.hasComments && first = ';' then comment rest
  else if grammar.hasAtSign && first = '@' then
    match rest with
    | '@' :: later => autoComment ['@', '@'] later
    | _ => .lexeme (.operator (.mark '@')) ['@'] .start
  else if grammar.isMark first then
    .lexeme (.operator (.mark first)) [first] .start
  else if grammar.hasRuns then run grammar (first :: rest)
  else
    match first, rest with
    | '0', 'o' :: _ => .lexeme (.operator .octal) ['0', 'o'] .octalDigits
    | '0', 'x' :: _ => .lexeme (.operator .hexadecimal) ['0', 'x'] .hexDigits
    | _, _ => word grammar Char.isDigit (first :: rest)

end Scan

end Whirlwind
