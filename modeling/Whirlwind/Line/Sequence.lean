import Whirlwind.Line.Parser

/-!
# Sequences of lines

Every line of a source is read on its own, numbered from one.  A line that is
not well written is left out and its error kept, so that the other lines are
read whatever it says.
-/

namespace Whirlwind

/-- The lines of a source, and the errors of those that were left out. -/
structure LineSequence where
  lines : List Line := []
  errors : List ParseError := []
  deriving DecidableEq, Repr

namespace LineSequence

/-- Put what was read of a line in front. -/
def add (outcome : Except ParseError (Bool × Line))
    (sequence : LineSequence) : LineSequence :=
  match outcome with
  | .ok (_, line) => { sequence with lines := line :: sequence.lines }
  | .error error => { sequence with errors := error :: sequence.errors }

/-- Read each text as a line, numbered from a given number on. -/
def parseFrom (grammar : Grammar) (number : Nat) : List String → LineSequence
  | [] => {}
  | text :: rest =>
      add (Line.parse text number grammar) (parseFrom grammar (number + 1) rest)

/-- Read each text as a line. -/
def parse (texts : List String) (grammar : Grammar) : LineSequence :=
  parseFrom grammar 1 texts

end LineSequence

end Whirlwind
