import Whirlwind.Token.Lexer.Weight

/-!
# What a cursor has in front of it

A cursor faces a text if what it has buffered and what it has not read are
the lines of that text.  Skipping what the text starts with leaves the cursor
in front of the rest, whether or not that lies on another line.
-/

namespace Whirlwind

namespace Text

variable {Element : Type} [DecidableEq Element]

/-- The lines of a text, with a started line put in front of the first one. -/
theorem linesFrom_eq (newline : Element) (started text : List Element) :
    linesFrom newline started text =
      match lines newline text with
      | [] => if started = [] then [] else [started.reverse]
      | line :: rest => (started.reverse ++ line) :: rest := by
  induction text generalizing started with
  | nil => simp [lines, linesFrom]
  | cons element text ih =>
      by_cases ends : element = newline
      · simp [lines, linesFrom, ends]
      · have single := ih [element]
        rw [lines, linesFrom, linesFrom, if_neg ends, if_neg ends, single,
          ih (element :: started)]
        cases lines newline text <;> simp

/-- Cutting off the first element of a text. -/
theorem lines_cons (newline element : Element) (text : List Element) :
    lines newline (element :: text) =
      if element = newline then [newline] :: lines newline text
      else
        match lines newline text with
        | [] => [[element]]
        | line :: rest => (element :: line) :: rest := by
  rw [lines, linesFrom]
  split
  · next ends => simp [ends, lines]
  · rw [linesFrom_eq]
    cases lines newline text <;> simp

/-- A span without newlines stays on the line that it stands on. -/
theorem lines_append {newline : Element} {span : List Element}
    (inLine : newline ∉ span) (text : List Element) :
    lines newline (span ++ text) =
      match lines newline text with
      | [] => if span = [] then [] else [span]
      | line :: rest => (span ++ line) :: rest := by
  induction span with
  | nil => cases later : lines newline text <;> simp [later]
  | cons element span ih =>
      simp only [List.mem_cons, not_or] at inLine
      rw [List.cons_append, lines_cons, if_neg (Ne.symm inLine.1),
        ih inLine.2]
      cases lines newline text with
      | nil => by_cases empty : span = [] <;> simp [empty]
      | cons line rest => simp

/-- A newline is the end of a first line, or there is none. -/
theorem lines_eq_cons {newline : Element} {text line : List Element}
    {rest : List (List Element)} (cut : lines newline text = line :: rest) :
    (∃ body, newline ∉ body ∧ line = body ++ [newline] ∧
      ∃ later, text = line ++ later ∧ lines newline later = rest) ∨
    (newline ∉ line ∧ text = line ∧ rest = []) := by
  induction text generalizing line with
  | nil => cases cut
  | cons element text ih =>
      rw [lines_cons] at cut
      split at cut
      · next ends =>
        rcases List.cons.inj cut with ⟨rfl, rfl⟩
        exact Or.inl ⟨[], by simp, rfl, text, by simp [ends], rfl⟩
      · next goesOn =>
        cases later : lines newline text with
        | nil =>
            rw [later] at cut
            rcases List.cons.inj cut with ⟨rfl, rfl⟩
            have empty : text = [] := by
              rw [← flatten_lines newline text, later, List.flatten_nil]
            exact Or.inr ⟨by simpa [eq_comm] using goesOn, by simp [empty],
              rfl⟩
        | cons first others =>
            rw [later] at cut
            rcases List.cons.inj cut with ⟨rfl, rfl⟩
            rcases ih later with
              ⟨body, absent, rfl, behind, rfl, split⟩ | ⟨absent, rfl, rfl⟩
            · refine Or.inl ⟨element :: body, ?_, rfl, behind, rfl, split⟩
              simpa [eq_comm, absent] using goesOn
            · refine Or.inr ⟨?_, rfl, rfl⟩
              simpa [eq_comm, absent] using goesOn

theorem lines_ne_nil {newline : Element} {text : List Element}
    (filled : text ≠ []) : lines newline text ≠ [] := by
  intro none_left
  have whole := flatten_lines newline text
  rw [none_left] at whole
  exact filled whole.symm

/-- A text is cut behind each newline. -/
theorem lines_append_newline (newline : Element) (front text : List Element) :
    lines newline (front ++ newline :: text) =
      lines newline (front ++ [newline]) ++ lines newline text := by
  induction front with
  | nil =>
      rw [List.nil_append, List.nil_append, lines_cons, lines_cons,
        if_pos rfl, if_pos rfl]
      rfl
  | cons first front ih =>
      rw [List.cons_append, List.cons_append, lines_cons, lines_cons, ih]
      have filled : front ++ [newline] ≠ [] := by simp
      rcases List.exists_cons_of_ne_nil (lines_ne_nil filled) with
        ⟨line, rest, cut⟩
      rw [cut]
      split <;> rfl

end Text

namespace Cursor

/-- The buffered line as far as it is unread, and the lines after it. -/
def linesAhead (cursor : Cursor) : List (List Char) :=
  if cursor.ahead = [] then cursor.unread else cursor.ahead :: cursor.unread

/-- What a cursor has not read are the lines of a text. -/
def Faces (cursor : Cursor) (text : List Char) : Prop :=
  cursor.linesAhead = Text.lines '\n' text

theorem faces_ofText (text : String) (firstLine : Nat) :
    (ofText text firstLine).Faces text.toList :=
  rfl

/-- A cursor that faces a text has just that text to read. -/
theorem Faces.remaining {cursor : Cursor} {text : List Char}
    (faces : cursor.Faces text) : cursor.remaining = text := by
  rw [← Text.flatten_lines '\n' text, ← faces, linesAhead, Cursor.remaining]
  split
  · next empty => simp [empty]
  · simp

theorem Faces.settle {cursor : Cursor} {text : List Char}
    (faces : cursor.Faces text) : cursor.settle.Faces text := by
  unfold Faces at *
  rw [← faces]
  unfold Cursor.settle
  split
  · next next_line rest empty taken =>
    have filled : next_line ≠ [] :=
      cursor.unread_ne_nil _ (taken ▸ List.mem_cons_self)
    simp [linesAhead, empty, taken, filled]
  · rfl

/-- A settled cursor at the end of the text. -/
theorem Faces.settle_nil {cursor : Cursor} (faces : cursor.Faces []) :
    cursor.settle.ahead = [] ∧ cursor.settle.unread = [] := by
  have none_left := faces.settle.remaining
  simp only [Cursor.remaining, List.append_eq_nil_iff] at none_left
  exact ⟨none_left.1, unread_eq_nil_of_settle none_left.1⟩

/-- A settled cursor in front of a text has its first line buffered. -/
theorem Faces.settle_cons {cursor : Cursor} {text : List Char}
    (faces : cursor.Faces text) (left : text ≠ []) :
    cursor.settle.ahead :: cursor.settle.unread = Text.lines '\n' text := by
  have settled := faces.settle
  unfold Faces linesAhead at settled
  split at settled
  · next empty =>
    have none_left := settled
    rw [unread_eq_nil_of_settle empty] at none_left
    refine absurd ?_ left
    rw [← Text.flatten_lines '\n' text, ← none_left, List.flatten_nil]
  · exact settled

/-- A settled cursor has the first character of the text ahead. -/
theorem Faces.head?_settle {cursor : Cursor} {text : List Char}
    (faces : cursor.Faces text) :
    cursor.settle.ahead.head? = text.head? := by
  cases text with
  | nil => rw [faces.settle_nil.1]
  | cons first rest =>
      have cut := faces.settle_cons (by simp)
      have filled : cursor.settle.ahead ≠ [] :=
        Text.ne_nil_of_mem_lines (cut ▸ List.mem_cons_self)
      rcases List.exists_cons_of_ne_nil filled with ⟨next, line, ahead⟩
      rw [← faces.settle.remaining, Cursor.remaining, ahead]
      rfl

/--
In front of a span that lies on one line, a settled cursor has the span ahead,
and behind it the part of the rest that is on the same line.
-/
theorem Faces.settle_ahead {cursor : Cursor} {span rest : List Char}
    (faces : cursor.Faces (span ++ rest)) (inLine : '\n' ∉ span)
    (visible : span ≠ []) :
    ∃ line, cursor.settle.ahead = span ++ line ∧ line <+: rest ∧
      (line = [] → rest = []) ∧
      (cursor.settle.skip span).Faces rest := by
  have cut := faces.settle_cons (by simp [visible])
  rw [Text.lines_append inLine] at cut
  cases later : Text.lines '\n' rest with
  | nil =>
      rw [later] at cut
      simp only [visible, if_false, List.cons.injEq] at cut
      have empty : rest = [] := by
        rw [← Text.flatten_lines '\n' rest, later, List.flatten_nil]
      refine ⟨[], by simpa using cut.1, List.nil_prefix, fun _ => empty, ?_⟩
      simp [Faces, linesAhead, cut, later]
  | cons line others =>
      rw [later] at cut
      rcases List.cons.inj cut with ⟨ahead, unread⟩
      have filled : line ≠ [] :=
        Text.ne_nil_of_mem_lines (later ▸ List.mem_cons_self)
      refine ⟨line, ahead, ?_, fun empty => absurd empty filled, ?_⟩
      · rw [← Text.flatten_lines '\n' rest, later]
        exact ⟨others.flatten, rfl⟩
      · simp [Faces, linesAhead, ahead, unread, filled, later]

/-- Skipping a start of what is ahead skips a start of the text. -/
theorem Faces.skip {cursor : Cursor} {text span line : List Char}
    (faces : cursor.Faces text) (ahead : cursor.ahead = span ++ line) :
    ∃ rest, text = span ++ rest ∧ line <+: rest ∧
      (cursor.skip span).Faces rest := by
  have behind : (cursor.skip span).linesAhead =
      if line = [] then cursor.unread else line :: cursor.unread := by
    simp [linesAhead, ahead]
  unfold Faces linesAhead at faces
  split at faces
  · next empty =>
    rcases List.append_eq_nil_iff.1 (ahead.symm.trans empty) with ⟨rfl, rfl⟩
    exact ⟨text, rfl, List.nil_prefix, by simpa [Faces, behind] using faces⟩
  · rw [ahead] at faces
    have carries : ∀ rest, text = span ++ rest → line ≠ [] →
        '\n' ∉ span → Text.lines '\n' rest = line :: cursor.unread := by
      intro rest same filled inLine
      rw [same, Text.lines_append inLine] at faces
      split at faces
      · next later =>
        have empty : rest = [] := by
          rw [← Text.flatten_lines '\n' rest, later, List.flatten_nil]
        split at faces
        · cases faces
        · have whole := (List.cons.inj faces).1
          exact absurd (by simpa using whole) filled
      · next later =>
        rcases List.cons.inj faces with ⟨sameLine, rfl⟩
        rw [later, List.append_cancel_left sameLine]
    rcases Text.lines_eq_cons faces.symm with
      ⟨body, absent, ends, later, rfl, split⟩ | ⟨absent, rfl, none_left⟩
    · refine ⟨line ++ later, by simp, List.prefix_append line later, ?_⟩
      by_cases empty : line = []
      · simp [Faces, behind, empty, split]
      · have inLine : '\n' ∉ span := by
          intro member
          rcases List.eq_nil_or_concat line |>.resolve_left empty with
            ⟨front, last, rfl⟩
          rw [List.concat_eq_append, ← List.append_assoc] at ends
          have same := (List.append_inj' ends rfl).1
          exact absent (same ▸ List.mem_append_left _ member)
        simp only [Faces, behind, empty, if_false]
        exact (carries _ (by simp) empty inLine).symm
    · refine ⟨line, rfl, List.prefix_refl line, ?_⟩
      by_cases empty : line = []
      · simp [Faces, behind, empty, none_left, Text.lines, Text.linesFrom]
      · simp only [Faces, behind, empty, if_false]
        refine (carries _ rfl empty ?_).symm
        exact fun member => absent (List.mem_append_left _ member)

/-- Skipping while a test holds skips what the text starts with. -/
theorem Faces.skipWhile {cursor : Cursor} {text : List Char}
    (faces : cursor.Faces text) (test : Char → Bool) :
    (cursor.skipWhile test).Faces (text.dropWhile test) := by
  fun_induction Cursor.skipWhile test cursor generalizing text with
  | case1 cursor here next rest ended more =>
      rename_i ih
      rcases faces.skip (List.takeWhile_append_dropWhile (p := test)).symm with
        ⟨behind, rfl, _, facesHere⟩
      rw [List.dropWhile_append_of_pos (List.all_eq_true.1 List.all_takeWhile)]
      exact ih facesHere.settle
  | case2 cursor here =>
      rename_i stops
      rcases faces.skip (List.takeWhile_append_dropWhile (p := test)).symm with
        ⟨behind, rfl, start, facesHere⟩
      rw [List.dropWhile_append_of_pos (List.all_eq_true.1 List.all_takeWhile)]
      have settled : behind.dropWhile test = behind := by
        cases left : cursor.ahead.dropWhile test with
        | nil =>
            have ended : cursor.ahead.drop
                (cursor.ahead.takeWhile test).length = [] := by
              rw [← dropWhile_eq_drop, left]
            have none_left : cursor.unread = [] := by
              cases lines : cursor.unread with
              | nil => rfl
              | cons line rest => exact absurd lines (stops _ _ ended)
            have empty : behind = [] := by
              rw [← facesHere.remaining, Cursor.remaining, skip_ahead, ended,
                skip_unread, none_left]
              rfl
            rw [empty, List.dropWhile_nil]
        | cons first rest =>
            have fails := List.head?_dropWhile_not test cursor.ahead
            rw [left] at start fails
            rcases start with ⟨more, rfl⟩
            simp only [List.head?_cons] at fails
            simp [fails]
      rw [settled]
      exact facesHere

/-- After skipping there is a character ahead, or the text is at its end. -/
@[simp]
theorem settle_skipWhile (test : Char → Bool) (cursor : Cursor) :
    (cursor.skipWhile test).settle = cursor.skipWhile test := by
  fun_induction Cursor.skipWhile test cursor with
  | case1 _ _ _ _ _ _ ih => exact ih
  | case2 cursor here stops =>
      unfold Cursor.settle
      split
      · next empty taken => exact absurd taken (stops _ _ empty)
      · rfl

/-- The buffered line has all that stands before the next newline. -/
theorem Faces.takeWhile_settle {cursor : Cursor} {text : List Char}
    (faces : cursor.Faces text) :
    cursor.settle.ahead.takeWhile (· != '\n') =
      text.takeWhile (· != '\n') := by
  cases text with
  | nil => rw [faces.settle_nil.1]
  | cons first rest =>
      have cut := faces.settle_cons (by simp)
      rcases Text.lines_eq_cons cut.symm with
        ⟨body, absent, ends, later, same, _⟩ | ⟨_, same, _⟩
      · have inLine : ∀ character ∈ body, (character != '\n') = true := by
          intro character member
          have apart : character ≠ '\n' := by
            rintro rfl
            exact absent member
          simpa using apart
        rw [same, ends, List.append_assoc,
          List.takeWhile_append_of_pos inLine,
          List.takeWhile_append_of_pos inLine]
        simp
      · rw [same]

/-- Reading the rest of the line skips it on the settled cursor. -/
theorem run_restOfLine (cursor : Cursor) :
    Cursor.restOfLine.run cursor =
      (String.ofList
        (Text.trimReturns (cursor.settle.ahead.takeWhile (· != '\n'))),
        cursor.settle.skip (cursor.settle.ahead.takeWhile (· != '\n'))) := by
  have test : (fun character : Char => !decide (character = '\n')) =
      (· != '\n') := by
    funext character
    by_cases same : character = '\n' <;> simp [same]
  rw [← test]
  rfl

/-- The rest of the line is what stands before the next newline. -/
theorem Faces.restOfLine {cursor : Cursor} {text : List Char}
    (faces : cursor.Faces text) :
    ∃ after, Cursor.restOfLine.run cursor =
        (String.ofList (Text.trimReturns (text.takeWhile (· != '\n'))),
          after) ∧
      after.Faces (text.dropWhile (· != '\n')) := by
  have span := faces.takeWhile_settle
  refine ⟨cursor.settle.skip (text.takeWhile (· != '\n')), ?_, ?_⟩
  · rw [run_restOfLine, span]
  · rcases faces.settle.skip (List.takeWhile_append_dropWhile (p := (· !=
      '\n'))).symm with ⟨rest, same, _, facesAfter⟩
    rw [span] at same facesAfter
    have left : rest = text.dropWhile (· != '\n') := by
      have joined : text.takeWhile (· != '\n') ++ rest =
          text.takeWhile (· != '\n') ++ text.dropWhile (· != '\n') := by
        rw [← same, List.takeWhile_append_dropWhile]
      exact List.append_cancel_left joined
    exact left ▸ facesAfter

end Cursor

end Whirlwind
