import Whirlwind.Proofs.Source.Standing
import Whirlwind.Source.SyntaxError

/-!
# Numbered lines

The lines of a text are numbered from its first line on, and an empty text has
one line, which is empty.  Wherever a cursor stands in a text, the line that it
has buffered is the line with the number that it counts (`Cursor.IsOn`), and
the location of the next character is a place on that line
(`Cursor.Marks`).
-/

namespace Whirlwind

namespace Text

/-- A text that ends in a newline has as many lines as newlines. -/
theorem length_lines_append_newline (front : List Char) :
    (lines '\n' (front ++ ['\n'])).length = (front ++ ['\n']).count '\n' := by
  induction front with
  | nil => rfl
  | cons first front ih =>
      rw [List.cons_append, lines_cons, List.count_cons, ← ih]
      have filled : front ++ ['\n'] ≠ [] := by simp
      rcases List.exists_cons_of_ne_nil (lines_ne_nil filled) with
        ⟨line, rest, cut⟩
      rw [cut]
      split <;> simp_all

/-- Nothing stands behind the last newline only where there is nothing else. -/
theorem eq_append_newline_of_lastLine {text : List Char}
    (ended : lastLine text = []) :
    text = [] ∨ ∃ front, text = front ++ ['\n'] := by
  rcases List.eq_nil_or_concat text with empty | ⟨front, last, rfl⟩
  · exact Or.inl empty
  · rw [List.concat_eq_append] at ended ⊢
    refine Or.inr ⟨front, ?_⟩
    by_contra other
    have apart : last ≠ '\n' := by
      rintro rfl
      exact other rfl
    simp [lastLine, apart] at ended

/-- Text in front of which all lines have ended is cut by itself. -/
theorem lines_append_of_ended {before : List Char}
    (ended : lastLine before = []) (text : List Char) :
    lines '\n' (before ++ text) = lines '\n' before ++ lines '\n' text := by
  rcases eq_append_newline_of_lastLine ended with rfl | ⟨front, rfl⟩
  · rfl
  · rw [List.append_assoc]
    exact lines_append_newline '\n' front text

theorem length_lines_of_ended {before : List Char}
    (ended : lastLine before = []) :
    (lines '\n' before).length = before.count '\n' := by
  rcases eq_append_newline_of_lastLine ended with rfl | ⟨front, rfl⟩
  · rfl
  · exact length_lines_append_newline front

/-- The lines of a text, of which an empty text has one. -/
def numberedLines (text : List Char) : List (List Char) :=
  if text = [] then [[]] else lines '\n' text

@[simp]
theorem numberedLines_ne_nil (text : List Char) : numberedLines text ≠ [] := by
  rw [numberedLines]
  split
  · exact List.cons_ne_nil _ _
  · next filled => exact lines_ne_nil filled

/-- The lines of a text whose first one has a given number have numbers of 32
bits, as line counters have. -/
def NumbersFit (firstLine : Nat) (text : List Char) : Prop :=
  firstLine + (numberedLines text).length ≤ UInt32.size

instance (firstLine : Nat) (text : List Char) :
    Decidable (NumbersFit firstLine text) :=
  inferInstanceAs (Decidable (_ ≤ _))

/-- In front of a character of a text there are fewer newlines than lines. -/
theorem count_take_lt_length_numberedLines {text : List Char} {index : Nat}
    (inside : index < text.length) :
    (text.take index).count '\n' < (numberedLines text).length := by
  rw [numberedLines, if_neg (List.ne_nil_of_length_pos (by omega))]
  induction text generalizing index with
  | nil => cases inside
  | cons first rest ih =>
      cases index with
      | zero =>
          exact List.length_pos_iff.2 (lines_ne_nil (List.cons_ne_nil _ _))
      | succ index =>
          have later := ih (Nat.lt_of_succ_lt_succ inside)
          rw [List.take_succ_cons, List.count_cons, lines_cons]
          by_cases newline : first = '\n'
          · simpa [newline] using later
          · cases cut : lines '\n' rest with
            | nil => simp [cut] at later
            | cons line others => simpa [cut, newline] using later

/-- The lines of a text go on counting behind lines that have ended. -/
theorem NumbersFit.append_lines {firstLine : Nat} {before text : List Char}
    (fit : NumbersFit (firstLine + before.count '\n') text)
    (ended : lastLine before = []) : NumbersFit firstLine (before ++ text) := by
  have most : (numberedLines (before ++ text)).length ≤
      before.count '\n' + (numberedLines text).length := by
    rw [numberedLines]
    split
    · next empty => simp_all [numberedLines]
    · rw [lines_append_of_ended ended, List.length_append,
        length_lines_of_ended ended, numberedLines]
      split
      · next empty => simp [empty, lines, linesFrom]
      · exact Nat.le_refl _
  rw [NumbersFit] at fit ⊢
  omega

/-- A character that is not cut off where a line is shown. -/
def IsShown (character : Char) : Prop :=
  character ≠ '\r' ∧ character ≠ '\n'

/-- What is cut off at the end of a line lies behind what is shown. -/
theorem trimLineEnd_append {character : Char} (shown : IsShown character)
    (front back : List Char) :
    trimLineEnd (front ++ character :: back) =
      front ++ character :: trimLineEnd back := by
  induction back using List.reverseRecOn with
  | nil =>
      rw [trimLineEnd, dropTrailing_append_singleton]
      simp [shown.1, shown.2, trimLineEnd]
  | append_singleton back last ih =>
      have regroup : front ++ character :: (back ++ [last]) =
          front ++ character :: back ++ [last] := by simp
      rw [regroup, trimLineEnd, trimLineEnd, dropTrailing_append_singleton,
        dropTrailing_append_singleton]
      split
      · exact ih
      · exact regroup.symm

end Text

/-- The end of a text, behind the last of its lines as it is shown. -/
def Location.atEnd (firstLine : Nat) (text : List Char) : Location :=
  ⟨firstLine + ((Text.numberedLines text).length - 1),
    (Text.trimLineEnd ((Text.numberedLines text).getLastD [])).length⟩

namespace Cursor

variable {cursor : Cursor} {text front rest span more : List Char}
  {location : Location}

/-- The buffered line is the line with the number that the cursor counts. -/
def IsOn (cursor : Cursor) (text : List Char) : Prop :=
  ∃ before, Text.numberedLines text = before ++ cursor.line :: cursor.unread ∧
    cursor.lineNumber = cursor.firstLine + before.length

/-- A cursor that has taken the line it is on counts the lines of its text. -/
theorem StandsAt.isOn (stands : cursor.StandsAt front rest)
    (counts : 1 ≤ cursor.firstLine)
    (settled : cursor.ahead = [] → cursor.unread = []) :
    cursor.IsOn (front ++ rest) := by
  have remaining := stands.faces.remaining
  cases stands.hasRead with
  | nothing noFront noLines noLine =>
      have none_ahead : cursor.ahead = [] := (List.append_eq_nil_iff.1 noLine).2
      have none_left := settled none_ahead
      rw [Cursor.remaining, none_ahead, none_left] at remaining
      refine ⟨[], ?_, ?_⟩
      · rw [noFront, ← remaining, noLine, none_left]
        rfl
      · rw [lineNumber, noLines, List.length_nil]
        omega
  | lines before split ended counted cut =>
      have member : cursor.line ∈
          Text.lines '\n' (cursor.line ++ cursor.unread.flatten) :=
        cut ▸ List.mem_cons_self
      have whole : front ++ rest =
          before ++ (cursor.line ++ cursor.unread.flatten) := by
        rw [split, ← remaining]
        simp [Cursor.line, Cursor.remaining]
      have filled : front ++ rest ≠ [] := by
        simp [whole, Text.ne_nil_of_mem_lines member]
      refine ⟨Text.lines '\n' before, ?_, ?_⟩
      · rw [Text.numberedLines, if_neg filled, whole,
          Text.lines_append_of_ended ended, cut]
      · rw [lineNumber, counted, Text.length_lines_of_ended ended]
        omega

theorem IsOn.skip (isOn : cursor.IsOn text)
    (ahead : cursor.ahead = span ++ more) : (cursor.skip span).IsOn text := by
  rw [IsOn, line_skip ahead]
  exact isOn

/-- The line with the number of the buffered line is the buffered line. -/
theorem IsOn.getElem? (isOn : cursor.IsOn text) :
    (Text.numberedLines text)[cursor.lineNumber - cursor.firstLine]? =
      some cursor.line := by
  rcases isOn with ⟨before, cut, number⟩
  simp [cut, number]

/-- The number of a buffered line is that of a line of the text. -/
theorem IsOn.lineNumber_lt (isOn : cursor.IsOn text)
    (fit : Text.NumbersFit cursor.firstLine text) :
    cursor.lineNumber < UInt32.size := by
  rcases isOn with ⟨before, cut, number⟩
  rw [Text.NumbersFit, cut, List.length_append, List.length_cons] at fit
  omega

/-- The line with the number of the last line is the last one. -/
theorem IsOn.line_eq_getLast (isOn : cursor.IsOn text)
    (last : cursor.lineNumber = (Location.atEnd cursor.firstLine text).line) :
    cursor.line = (Text.numberedLines text).getLastD [] := by
  have found := isOn.getElem?
  rw [last, Location.atEnd, Nat.add_sub_cancel_left,
    ← List.getLast?_eq_getElem?] at found
  rw [List.getLastD_eq_getLast?, found]
  rfl

/-- Behind the last line a cursor is at the end of the text. -/
theorem IsOn.locationHere_eq_atEnd (isOn : cursor.IsOn text)
    (none_ahead : cursor.ahead = []) (none_left : cursor.unread = []) :
    cursor.locationHere = .atEnd cursor.firstLine text := by
  rcases isOn with ⟨before, cut, number⟩
  simp [locationHere, none_ahead, Location.atEnd, cut, none_left, number,
    lineText]

/--
A location is a place on the buffered line, which is a line of the text: that
of a character, the end of the text, or a place right behind an at sign.
-/
structure Marks (cursor : Cursor) (text : List Char) (location : Location) :
    Prop where
  isOn : cursor.IsOn text
  line : location.line = cursor.lineNumber
  column : location.column ≤ cursor.lineText.length
  place : location.column < cursor.lineText.length ∨
    location = .atEnd cursor.firstLine text ∨
    ['@'] <:+ cursor.lineText.toList.take location.column

theorem Marks.skip (marks : cursor.Marks text location)
    (ahead : cursor.ahead = span ++ more) :
    (cursor.skip span).Marks text location := by
  refine ⟨marks.isOn.skip ahead, marks.line, ?_, ?_⟩
  · rw [lineText_skip ahead]
    exact marks.column
  · rw [lineText_skip ahead]
    exact marks.place

/-- A character ahead that is shown stands in the column of the cursor. -/
theorem getElem?_lineText {character : Char}
    (ahead : cursor.ahead = character :: more)
    (shown : Text.IsShown character) :
    cursor.lineText.toList[cursor.locationHere.column]? = some character := by
  rw [lineText, line, ahead, Text.trimLineEnd_append shown, locationHere]
  simp [ahead]

theorem IsOn.marks_of_shown {character : Char} (isOn : cursor.IsOn text)
    (ahead : cursor.ahead = character :: more)
    (shown : Text.IsShown character) :
    cursor.Marks text cursor.locationHere := by
  have found := getElem?_lineText ahead shown
  have inside : cursor.locationHere.column < cursor.lineText.length :=
    (List.getElem?_eq_some_iff.1 found).1
  exact ⟨isOn, rfl, Nat.le_of_lt inside, Or.inl inside⟩

theorem IsOn.marks_of_ended (isOn : cursor.IsOn text)
    (none_ahead : cursor.ahead = []) (none_left : cursor.unread = []) :
    cursor.Marks text cursor.locationHere := by
  refine ⟨isOn, rfl, ?_,
    Or.inr (Or.inl (isOn.locationHere_eq_atEnd none_ahead none_left))⟩
  simp [locationHere, none_ahead]

/-- What was read last on a line is what a cursor has right behind it. -/
theorem StandsAt.exists_behind {last : Char}
    (stands : cursor.StandsAt (front ++ [last]) rest) (inLine : last ≠ '\n') :
    ∃ earlier, cursor.behind = last :: earlier := by
  cases stands.hasRead with
  | nothing noFront => simp at noFront
  | lines before split ended _ _ =>
      cases behind : cursor.behind with
      | nil =>
          rw [behind, List.reverse_nil, List.append_nil] at split
          rw [← split] at ended
          simp [Text.lastLine, inLine] at ended
      | cons latest earlier =>
          rw [behind, List.reverse_cons, ← List.append_assoc] at split
          have same := (List.append_inj' split rfl).2
          exact ⟨earlier, by rw [(List.cons.inj same).1]⟩

theorem IsOn.marks_of_sign {earlier : List Char} (isOn : cursor.IsOn text)
    (behind : cursor.behind = '@' :: earlier) :
    cursor.Marks text cursor.locationHere := by
  have written : cursor.lineText.toList =
      earlier.reverse ++ '@' :: Text.trimLineEnd cursor.ahead := by
    rw [lineText, line, behind, List.reverse_cons, List.append_assoc,
      List.singleton_append, Text.trimLineEnd_append ⟨by decide, by decide⟩,
      String.toList_ofList]
  have column : cursor.locationHere.column = earlier.length + 1 := by
    have lengths := congrArg List.length written
    rw [locationHere]
    split
    · next none_ahead =>
      rw [← String.length_toList, lengths, none_ahead]
      simp [Text.trimLineEnd]
    · simp [behind]
  refine ⟨isOn, rfl, ?_, Or.inr (Or.inr ?_)⟩
  · rw [column, ← String.length_toList, written]
    simp
  · rw [column, written]
    refine ⟨earlier.reverse, ?_⟩
    rw [List.take_append, List.take_of_length_le (by simp)]
    simp

end Cursor

namespace SyntaxError

/-- The lexeme that a cause names. -/
def Cause.found? : Cause → Option Lexeme
  | .expectedOperand found | .expectedCommandName found
  | .unexpectedToken found => some found
  | .illegalCharacter _ | .unterminatedString | .emptyParentheses
  | .unbalancedParentheses | .badPrefixAddress | .badSectionOffset _
  | .expectedOpname => none

/--
An error points into a text: its line is the line with its number, as it is
shown, and its column is a column of that line.  A character that is illegal
and the quote of a string that does not end stand there, and a lexeme that is
the end of the text is located at the end.  An error at the end shows the last
line.
-/
structure PointsInto (error : SyntaxError) (firstLine : Nat)
    (text : List Char) : Prop where
  numbered : firstLine ≤ error.location.line
  line : (Text.numberedLines text)[error.location.line - firstLine]?.map
      (fun line => String.ofList (Text.trimLineEnd line)) =
    some error.lineText
  column : error.location.column ≤ error.lineText.length
  place : error.location.column < error.lineText.length ∨
    error.location = .atEnd firstLine text ∨
    ['@'] <:+ error.lineText.toList.take error.location.column
  finish : error.cause.found? = some .finish →
    error.location = .atEnd firstLine text
  ended : error.location = .atEnd firstLine text →
    error.lineText = String.ofList
      (Text.trimLineEnd ((Text.numberedLines text).getLastD []))
  illegal : ∀ found, error.cause = .illegalCharacter found →
    error.lineText.toList[error.location.column]? = some found
  unterminated : error.cause = .unterminatedString →
    error.lineText.toList[error.location.column]? = some '"'

theorem PointsInto.line_lt {error : SyntaxError} {firstLine : Nat}
    {text : List Char} (points : error.PointsInto firstLine text)
    (fit : Text.NumbersFit firstLine text) :
    error.location.line < UInt32.size := by
  rcases Option.map_eq_some_iff.1 points.line with ⟨line, found, _⟩
  have inside := (List.getElem?_eq_some_iff.1 found).1
  have numbered := points.numbered
  rw [Text.NumbersFit] at fit
  omega

end SyntaxError

namespace Cursor

variable {cursor : Cursor} {text : List Char} {location : Location}

/-- An error at a place that a cursor marks, shown with its line, points there. -/
theorem Marks.pointsInto {cause : SyntaxError.Cause}
    (marks : cursor.Marks text location)
    (finish : cause.found? = some .finish →
      location = .atEnd cursor.firstLine text)
    (illegal : ∀ found, cause = .illegalCharacter found →
      cursor.lineText.toList[location.column]? = some found)
    (unterminated : cause = .unterminatedString →
      cursor.lineText.toList[location.column]? = some '"') :
    (⟨cause, location, cursor.lineText⟩ : SyntaxError).PointsInto
      cursor.firstLine text where
  numbered := by
    rw [marks.line]
    exact Nat.le_max_left _ _
  line := by
    rw [marks.line, marks.isOn.getElem?]
    rfl
  column := marks.column
  place := marks.place
  finish := finish
  ended atEnd := by
    have last := marks.line.symm.trans (congrArg Location.line atEnd)
    rw [lineText, marks.isOn.line_eq_getLast last]
  illegal := illegal
  unterminated := unterminated

end Cursor

end Whirlwind
