import Whirlwind.Source.Location
import Whirlwind.Text.Lines
import Whirlwind.Text.Utf8

/-!
# The cursor

A place in a text that is read line by line.  The cursor buffers one line and
takes the next one only when something is asked for that lies beyond it, so
the line in the buffer, which diagnostics show, is the one that was looked at
last.

`Cursor.settle` is the one step that takes a line.  After it the character
under the cursor is the first of `ahead`, or the text is at its end.

Lines are counted without a bound here.  A counter of 32 bits agrees as long as
the last line has a number that fits in it, and what is stated of line numbers
is stated for such texts.
-/

namespace Whirlwind

/-- A place in a text, with one line buffered. -/
structure Cursor where
  /-- What has been read of the buffered line, latest character first. -/
  behind : List Char := []
  /-- What has not been read of it, its terminator included. -/
  ahead : List Char := []
  /-- The lines after the buffered one. -/
  unread : List (List Char)
  /-- How many lines have been buffered. -/
  linesTaken : Nat := 0
  /-- The number asked for the first line. -/
  firstLine : Nat := 1
  unread_ne_nil : ∀ line ∈ unread, line ≠ [] := by decide
  deriving DecidableEq, Repr

namespace Cursor

/-- A cursor at the start of a text whose first line has a given number. -/
def ofText (text : String) (firstLine : Nat) : Cursor where
  unread := Text.lines '\n' text.toList
  firstLine := firstLine
  unread_ne_nil := fun _ member => Text.ne_nil_of_mem_lines member

/-- Decode lines one by one, up to the first one that is not UTF-8. -/
def decodeLines : List (List UInt8) → List String
  | [] => []
  | bytes :: rest =>
      match Text.decode? bytes with
      | some text => text :: decodeLines rest
      | none => []

/-- A line that has bytes has characters. -/
theorem ne_nil_of_mem_decodeLines {lines : List (List UInt8)} {text : String}
    (filled : ∀ line ∈ lines, line ≠ []) (member : text ∈ decodeLines lines) :
    text.toList ≠ [] := by
  induction lines with
  | nil => cases member
  | cons bytes rest ih =>
      rw [decodeLines] at member
      split at member
      · next first decoded =>
        rcases List.mem_cons.1 member with rfl | later
        · intro empty
          rcases String.toList_eq_nil_iff.1 empty with rfl
          exact filled bytes List.mem_cons_self
            (Text.encode_of_decode? decoded).symm
        · exact ih (fun line inside =>
            filled line (List.mem_cons_of_mem _ inside)) later
      · cases member

/-- The text of bytes up to the first line that is not UTF-8. -/
def readableText (bytes : List UInt8) : String :=
  String.join (decodeLines (Text.lines 10 bytes))

/-- A cursor over bytes, for which a line that is not UTF-8 is the end. -/
def ofBytes (bytes : List UInt8) (firstLine : Nat) : Cursor where
  unread := (decodeLines (Text.lines 10 bytes)).map String.toList
  firstLine := firstLine
  unread_ne_nil := by
    intro line member
    rcases List.mem_map.1 member with ⟨text, inside, rfl⟩
    exact ne_nil_of_mem_decodeLines
      (fun _ => Text.ne_nil_of_mem_lines) inside

/-- The text that has not been read. -/
def remaining (cursor : Cursor) : List Char :=
  cursor.ahead ++ cursor.unread.flatten

/-- The buffered line. -/
def line (cursor : Cursor) : List Char :=
  cursor.behind.reverse ++ cursor.ahead

/-- The buffered line without its terminator. -/
def lineText (cursor : Cursor) : String :=
  String.ofList (Text.trimLineEnd cursor.line)

/-- The number of the buffered line.  No line is numbered zero. -/
def lineNumber (cursor : Cursor) : Nat :=
  max cursor.firstLine (cursor.firstLine - 1 + cursor.linesTaken)

/-- Take the next line if the buffered one has been read to its end. -/
def settle (cursor : Cursor) : Cursor :=
  match cursor.ahead, taken : cursor.unread with
  | [], next :: rest =>
      { cursor with
        behind := []
        ahead := next
        unread := rest
        linesTaken := cursor.linesTaken + 1
        unread_ne_nil := fun line member =>
          cursor.unread_ne_nil line (taken ▸ List.mem_cons_of_mem _ member) }
  | _, _ => cursor

/-- Read as many characters of the buffered line as a span has. -/
def skip (cursor : Cursor) (span : List Char) : Cursor :=
  { cursor with
    behind := span.reverse ++ cursor.behind
    ahead := cursor.ahead.drop span.length }

@[simp]
theorem skip_unread (cursor : Cursor) (span : List Char) :
    (cursor.skip span).unread = cursor.unread :=
  rfl

@[simp]
theorem skip_ahead (cursor : Cursor) (span : List Char) :
    (cursor.skip span).ahead = cursor.ahead.drop span.length :=
  rfl

/-- Taking a line reads nothing. -/
@[simp]
theorem settle_remaining (cursor : Cursor) :
    cursor.settle.remaining = cursor.remaining := by
  unfold settle
  split
  · next none_ahead taken => simp [remaining, none_ahead, taken]
  · rfl

/-- Only at the end of the text is there nothing ahead of a settled cursor. -/
theorem unread_eq_nil_of_settle {cursor : Cursor}
    (none_ahead : cursor.settle.ahead = []) : cursor.settle.unread = [] := by
  unfold settle at *
  split at *
  · next next_line rest _ taken =>
      exact absurd none_ahead
        (cursor.unread_ne_nil next_line (taken ▸ List.mem_cons_self))
  · next unsettled =>
      cases lines : cursor.unread with
      | nil => rfl
      | cons next_line rest => exact absurd lines (unsettled _ _ none_ahead)

/--
The place of the character under a settled cursor.  At the end of the text it
is just past the last line's text.
-/
def locationHere (cursor : Cursor) : Location where
  line := cursor.lineNumber
  column :=
    if cursor.ahead = [] then cursor.lineText.length
    else cursor.behind.length

/-- Read on, over line ends, while characters satisfy a test. -/
def skipWhile (test : Char → Bool) (cursor : Cursor) : Cursor :=
  let here := cursor.skip (cursor.ahead.takeWhile test)
  match _ended : here.ahead, _more : here.unread with
  | [], _ :: _ => skipWhile test here.settle
  | _, _ => here
  termination_by cursor.unread.length
  decreasing_by
    simp only [settle]
    split
    · next taken =>
        rw [skip_unread] at taken
        simp [taken]
    · next unsettled =>
        exact absurd _more (unsettled _ _ _ended)

/-- The next character, if there is one. -/
def look : StateM Cursor (Option Char) := do
  modify settle
  return (← get).ahead.head?

/-- Read the next character, if there is one. -/
def advance : StateM Cursor PUnit :=
  modify fun cursor => cursor.settle.skip (cursor.settle.ahead.take 1)

/-- The place of the next character. -/
def locate : StateM Cursor Location := do
  modify settle
  return (← get).locationHere

/-- Read the next line up to a stop and answer with what was read. -/
def takeUntil (stop : Char → Bool) : StateM Cursor (List Char) := do
  modify settle
  let span := (← get).ahead.takeWhile fun character => !stop character
  modify fun cursor => cursor.skip span
  return span

/--
Read up to the end of the line, and answer with that text without the carriage
returns at its end.
-/
def restOfLine : StateM Cursor String := do
  let span ← takeUntil (· = '\n')
  return String.ofList (Text.trimReturns span)

end Cursor

end Whirlwind
