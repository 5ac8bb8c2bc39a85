import Whirlwind.Text.Blank

/-!
# Lines

A text is cut after each newline, so that every line but perhaps the last one
ends in a newline, no line is empty, and the lines put together give the text
back.  The same cut serves characters and bytes.
-/

namespace Whirlwind.Text

variable {Element : Type} [DecidableEq Element]

/--
Cut after each newline.  `started` holds what has been read of the current
line, latest first.
-/
def linesFrom (newline : Element) (started : List Element) :
    List Element → List (List Element)
  | [] => if started = [] then [] else [started.reverse]
  | element :: rest =>
      if element = newline then
        (element :: started).reverse :: linesFrom newline [] rest
      else
        linesFrom newline (element :: started) rest

/-- The lines of a text, each with the newline that ends it. -/
def lines (newline : Element) (text : List Element) : List (List Element) :=
  linesFrom newline [] text

theorem flatten_linesFrom (newline : Element) (started text : List Element) :
    (linesFrom newline started text).flatten = started.reverse ++ text := by
  induction text generalizing started with
  | nil => by_cases empty : started = [] <;> simp [linesFrom, empty]
  | cons element rest hypothesis =>
      by_cases ends : element = newline <;>
        simp [linesFrom, ends, hypothesis]

/-- Nothing is lost: the lines put together are the text. -/
@[simp]
theorem flatten_lines (newline : Element) (text : List Element) :
    (lines newline text).flatten = text := by
  simp [lines, flatten_linesFrom]

theorem ne_nil_of_mem_linesFrom {newline : Element} {started text line : List Element}
    (member : line ∈ linesFrom newline started text) : line ≠ [] := by
  induction text generalizing started with
  | nil =>
      by_cases empty : started = []
      · simp [linesFrom, empty] at member
      · simp only [linesFrom, empty, if_false, List.mem_singleton] at member
        simpa [member] using empty
  | cons element rest hypothesis =>
      by_cases ends : element = newline
      · simp only [linesFrom, ends, if_true, List.mem_cons] at member
        rcases member with rfl | later
        · simp
        · exact hypothesis later
      · simp only [linesFrom, ends, if_false] at member
        exact hypothesis member

/-- No line is empty: a line has a newline at least, or is a last line. -/
theorem ne_nil_of_mem_lines {newline : Element} {text line : List Element}
    (member : line ∈ lines newline text) : line ≠ [] :=
  ne_nil_of_mem_linesFrom member

/-- Drop the carriage returns and newlines at the end of a line. -/
def trimLineEnd (line : List Char) : List Char :=
  dropTrailing (fun character => character = '\r' || character = '\n') line

/-- Drop the carriage returns at the end of a text. -/
def trimReturns (text : List Char) : List Char :=
  dropTrailing (· = '\r') text

/--
A line without its terminator, which is a newline or a carriage return and a
newline.  Only one terminator is taken off.
-/
def dropTerminator (line : List Char) : List Char :=
  match line.reverse with
  | '\n' :: '\r' :: rest => rest.reverse
  | '\n' :: rest => rest.reverse
  | _ => line

end Whirlwind.Text
