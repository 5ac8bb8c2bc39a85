import Whirlwind.Text.Quoted

/-!
# Lexemes

What a piece of source text says.  Every lexeme has a text, which for a string
is the text that its escapes stand for and for a comment the text between its
delimiters, and a description that messages use.
-/

namespace Whirlwind

/-- An operator: a single character, or a radix mark in front of digits. -/
inductive Operator where
  | mark (character : Char)
  | octal
  | hexadecimal
  deriving DecidableEq, Repr

/-- The way an operator is written. -/
def Operator.symbol : Operator → String
  | .mark character => String.singleton character
  | .octal => "0o"
  | .hexadecimal => "0x"

/-- What a piece of source text says. -/
inductive Lexeme where
  | operator (operator : Operator)
  | identifier (name : String)
  | digits (text : String)
  | string (text : String)
  | comment (text : String)
  /-- A comment behind two at signs, written by a tool. -/
  | autoComment (text : String)
  /-- A tab that separates two fields. -/
  | tab
  /-- All text has been read. -/
  | finish
  deriving DecidableEq, Repr

namespace Lexeme

/-- The text of a lexeme. -/
def text : Lexeme → String
  | .operator sign => sign.symbol
  | .identifier name => name
  | .digits text | .string text | .comment text | .autoComment text => text
  | .tab => "\t"
  | .finish => ""

/-- How a message names a lexeme. -/
def description : Lexeme → String
  | .operator sign => "'" ++ sign.symbol ++ "'"
  | .identifier name => "identifier " ++ name
  | .digits text => "number " ++ text
  | .string text => "string " ++ Text.quoted text
  | .comment _ => "comment"
  | .autoComment _ => "auto-comment"
  | .tab => "tab"
  | .finish => "end of line"

/-- How many steps reading a lexeme takes towards the end of the text. -/
def cost : Lexeme → Nat
  | .finish => 0
  | _ => 1

end Lexeme

end Whirlwind
