import Mathlib.Data.List.Induction
import Whirlwind.Proofs.Source.Facing
import Whirlwind.Proofs.Text.Trim
import Whirlwind.Proofs.Token.Shape

/-!
# Where a cursor stands

The text in front of a place tells its location: the newlines in it are the
lines that have ended, and what stands behind the last of them is what the line
has so far (`Location.behind`).  A cursor, which counts lines as it takes them
and keeps one of them only, stands between two texts (`Cursor.StandsAt`).
Moving it moves the border between them, and while there is a character ahead
its location and its line are those of the border.
-/

namespace Whirlwind

namespace Text

/-- The part of a text behind its last newline. -/
def lastLine (text : List Char) : List Char :=
  (text.reverse.takeWhile (· != '\n')).reverse

theorem lastLine_append_of_mem {front back : List Char}
    (member : '\n' ∈ back) : lastLine (front ++ back) = lastLine back := by
  have stops : ¬(back.reverse.takeWhile (· != '\n')).length =
      back.reverse.length := by
    intro whole
    have all := (List.takeWhile_sublist (l := back.reverse)
      (· != '\n')).eq_of_length whole
    have other := List.mem_takeWhile_imp
      (all ▸ List.mem_reverse.2 member : '\n' ∈ back.reverse.takeWhile _)
    exact absurd other (by decide)
  rw [lastLine, List.reverse_append, List.takeWhile_append, if_neg stops,
    lastLine]

theorem lastLine_append_of_not_mem {front back : List Char}
    (absent : '\n' ∉ back) :
    lastLine (front ++ back) = lastLine front ++ back := by
  have inLine : ∀ character ∈ back.reverse, (character != '\n') = true := by
    intro character member
    have apart : character ≠ '\n' := by
      rintro rfl
      exact absent (List.mem_reverse.1 member)
    simpa using apart
  rw [lastLine, List.reverse_append, List.takeWhile_append_of_pos inLine,
    List.reverse_append, List.reverse_reverse, lastLine]

/-- A text whose last character is a newline leaves its last line empty. -/
theorem lastLine_append_newline (front : List Char) :
    lastLine (front ++ ['\n']) = [] := by
  simp [lastLine]

theorem trimLineEnd_eq_trimReturns {text : List Char} (inLine : '\n' ∉ text) :
    trimLineEnd text = trimReturns text := by
  induction text using List.reverseRecOn with
  | nil => rfl
  | append_singleton text last ih =>
      rw [List.mem_append, not_or, List.mem_singleton] at inLine
      rw [trimLineEnd, trimReturns, dropTrailing_append_singleton,
        dropTrailing_append_singleton]
      by_cases carriage : last = '\r'
      · simp only [carriage, decide_true, Bool.true_or, if_true]
        exact ih inLine.1
      · simp [carriage, Ne.symm inLine.2]

/-- The line of the place between two texts, as diagnostics show it. -/
def lineAt (front rest : List Char) : String :=
  String.ofList (trimReturns (lastLine front ++ Scan.upToNewline rest))

end Text

/-- The place behind a text whose first line has a given number. -/
def Location.behind (firstLine : Nat) (front : List Char) : Location :=
  ⟨firstLine + front.count '\n', (Text.lastLine front).length⟩

namespace Cursor

/-- What a cursor has read, on the buffered line and on the lines before it. -/
inductive HasRead (cursor : Cursor) (front : List Char) : Prop where
  | nothing (noFront : front = []) (noLines : cursor.linesTaken = 0)
      (noLine : cursor.line = [])
  | lines (before : List Char) (split : front = before ++ cursor.behind.reverse)
      (ended : Text.lastLine before = [])
      (counted : cursor.linesTaken = before.count '\n' + 1)
      (cut : Text.lines '\n' (cursor.line ++ cursor.unread.flatten) =
        cursor.line :: cursor.unread)

/-- A cursor stands between what it has read and what it has still to read. -/
structure StandsAt (cursor : Cursor) (front rest : List Char) : Prop where
  faces : cursor.Faces rest
  hasRead : cursor.HasRead front

variable {cursor : Cursor} {front rest span more : List Char}

theorem standsAt_ofText (text : String) (firstLine : Nat) :
    (ofText text firstLine).StandsAt [] text.toList :=
  ⟨faces_ofText text firstLine, .nothing rfl rfl rfl⟩

/-- What is ahead of a settled cursor is the rest of a line. -/
theorem Faces.exists_settle_append (faces : cursor.Faces rest) :
    ∃ more, rest = cursor.settle.ahead ++ more ∧
      (more = [] ∨ '\n' ∈ cursor.settle.ahead) := by
  cases rest with
  | nil => exact ⟨[], by rw [faces.settle_nil.1]; rfl, Or.inl rfl⟩
  | cons first rest =>
      have cut := faces.settle_cons (by simp)
      rcases Text.lines_eq_cons cut.symm with
        ⟨body, _, ends, later, split, _⟩ | ⟨_, whole, _⟩
      · exact ⟨later, split, Or.inr (by simp [ends])⟩
      · exact ⟨[], by rw [← whole, List.append_nil], Or.inl rfl⟩

@[simp]
theorem firstLine_settle (cursor : Cursor) :
    cursor.settle.firstLine = cursor.firstLine := by
  unfold Cursor.settle
  split <;> rfl

@[simp]
theorem firstLine_skip (cursor : Cursor) (span : List Char) :
    (cursor.skip span).firstLine = cursor.firstLine :=
  rfl

@[simp]
theorem firstLine_skipWhile (test : Char → Bool) (cursor : Cursor) :
    (cursor.skipWhile test).firstLine = cursor.firstLine := by
  fun_induction Cursor.skipWhile test cursor with
  | case1 cursor here next others ended more =>
      rename_i ih
      rw [ih, firstLine_settle]
      rfl
  | case2 => rfl

/-- Taking a line does not move a cursor. -/
theorem StandsAt.settle (stands : cursor.StandsAt front rest) :
    cursor.settle.StandsAt front rest := by
  refine ⟨stands.faces.settle, ?_⟩
  have hasRead := stands.hasRead
  unfold Cursor.settle
  split
  · next next_line others none_ahead taken =>
    have faces : next_line :: others = Text.lines '\n' rest := by
      rw [← stands.faces, linesAhead, if_pos none_ahead, taken]
    have cut : Text.lines '\n' (next_line ++ others.flatten) =
        next_line :: others := by
      rw [← List.flatten_cons, faces, Text.flatten_lines]
    cases hasRead with
    | nothing noFront noLines _ =>
        exact .lines [] (by simp [noFront]) rfl (by simp [noLines]) cut
    | lines before split ended counted whole =>
        have line : cursor.line = cursor.behind.reverse := by
          rw [Cursor.line, none_ahead, List.append_nil]
        rw [line, taken] at whole
        rcases Text.lines_eq_cons whole with
          ⟨body, absent, ends, _⟩ | ⟨_, _, none_left⟩
        · have last : Text.lastLine front = [] := by
            rw [split, ends, ← List.append_assoc, Text.lastLine_append_newline]
          have count : front.count '\n' = before.count '\n' + 1 := by
            rw [split, List.count_append, ends, List.count_append,
              List.count_eq_zero_of_not_mem absent]
            rfl
          exact .lines front (by simp) last (by rw [count, counted]) cut
        · cases none_left
  · exact hasRead

/-- Skipping part of the line keeps the line. -/
theorem line_skip (ahead : cursor.ahead = span ++ more) :
    (cursor.skip span).line = cursor.line := by
  simp [Cursor.line, Cursor.skip, ahead]

theorem lineText_skip (ahead : cursor.ahead = span ++ more) :
    (cursor.skip span).lineText = cursor.lineText := by
  rw [lineText, line_skip ahead, lineText]

/-- Skipping what is ahead moves a cursor behind it. -/
theorem StandsAt.skip (stands : cursor.StandsAt front rest)
    (ahead : cursor.ahead = span ++ more) :
    ∃ later, rest = span ++ later ∧ more <+: later ∧
      (cursor.skip span).StandsAt (front ++ span) later := by
  rcases stands.faces.skip ahead with ⟨later, split, start, faces⟩
  refine ⟨later, split, start, faces, ?_⟩
  have line := line_skip ahead
  cases stands.hasRead with
  | nothing noFront noLines noLine =>
      have empty : span = [] := by
        rw [Cursor.line, ahead] at noLine
        exact (List.append_eq_nil_iff.1 (List.append_eq_nil_iff.1 noLine).2).1
      exact .nothing (by rw [noFront, empty]; rfl) noLines (line.trans noLine)
  | lines before split ended counted cut =>
      refine .lines before ?_ ended counted (by rw [line]; exact cut)
      simp [Cursor.skip, split]

theorem StandsAt.exists_skipWhile (stands : cursor.StandsAt front rest)
    (test : Char → Bool) :
    ∃ skipped later, rest = skipped ++ later ∧
      (cursor.skipWhile test).StandsAt (front ++ skipped) later := by
  fun_induction Cursor.skipWhile test cursor generalizing front rest with
  | case1 cursor here next others ended more =>
      rename_i ih
      rcases stands.skip (List.takeWhile_append_dropWhile (p := test)).symm with
        ⟨behind, rfl, _, standsHere⟩
      rcases ih standsHere.settle with ⟨skipped, later, rfl, standsLater⟩
      exact ⟨_ ++ skipped, later, (List.append_assoc _ _ _).symm,
        by rwa [← List.append_assoc]⟩
  | case2 cursor here =>
      rcases stands.skip (List.takeWhile_append_dropWhile (p := test)).symm with
        ⟨behind, split, _, standsHere⟩
      exact ⟨_, behind, split, standsHere⟩

/-- Skipping while a test holds moves a cursor behind what satisfies it. -/
theorem StandsAt.skipWhile (stands : cursor.StandsAt front rest)
    (test : Char → Bool) :
    (cursor.skipWhile test).StandsAt (front ++ rest.takeWhile test)
      (rest.dropWhile test) := by
  rcases stands.exists_skipWhile test with ⟨skipped, later, split, standsLater⟩
  have left : later = rest.dropWhile test := by
    rw [← standsLater.faces.remaining, (stands.faces.skipWhile test).remaining]
  subst left
  have same : skipped = rest.takeWhile test :=
    List.append_cancel_right
      (split.symm.trans List.takeWhile_append_dropWhile.symm)
  exact same ▸ standsLater

/-- While there is a character ahead, no newline is behind on the line. -/
theorem newline_not_mem_behind
    (cut : Text.lines '\n' (cursor.line ++ cursor.unread.flatten) =
      cursor.line :: cursor.unread)
    (left : cursor.ahead ≠ []) : '\n' ∉ cursor.behind := by
  intro member
  rcases Text.lines_eq_cons cut with ⟨body, absent, ends, _⟩ | ⟨absent, _, _⟩
  · rcases List.eq_nil_or_concat cursor.ahead |>.resolve_left left with
      ⟨start, last, ahead⟩
    rw [Cursor.line, ahead, List.concat_eq_append, ← List.append_assoc] at ends
    have same := (List.append_inj' ends rfl).1
    exact absent (same ▸ List.mem_append_left _ (List.mem_reverse.2 member))
  · exact absent (List.mem_append_left _ (List.mem_reverse.2 member))

theorem location_eq_behind {before : List Char}
    (ended : Text.lastLine before = [])
    (counted : cursor.linesTaken = before.count '\n' + 1)
    (inLine : '\n' ∉ cursor.behind) :
    (⟨cursor.lineNumber, cursor.behind.length⟩ : Location) =
      Location.behind (max 1 cursor.firstLine)
        (before ++ cursor.behind.reverse) := by
  have absent : '\n' ∉ cursor.behind.reverse := by simpa using inLine
  rw [Location.behind, Text.lastLine_append_of_not_mem absent, ended,
    List.nil_append, List.length_reverse, List.count_append,
    List.count_eq_zero_of_not_mem absent, lineNumber, counted]
  congr 1
  omega

/-- The location of a character ahead is the place behind what was read. -/
theorem StandsAt.locationHere (stands : cursor.StandsAt front rest)
    (left : cursor.ahead ≠ []) :
    cursor.locationHere = Location.behind (max 1 cursor.firstLine) front := by
  cases stands.hasRead with
  | nothing _ _ noLine => exact absurd (List.append_eq_nil_iff.1 noLine).2 left
  | lines before split ended counted cut =>
      rw [Cursor.locationHere, if_neg left, split]
      exact location_eq_behind ended counted (newline_not_mem_behind cut left)

/-- At the end of a text that ends in no terminator the location is its end. -/
theorem StandsAt.locationHere_of_ended {last : Char}
    (stands : cursor.StandsAt (front ++ [last]) rest)
    (none_left : cursor.ahead = []) (visible : last ≠ '\r' ∧ last ≠ '\n') :
    cursor.locationHere =
      Location.behind (max 1 cursor.firstLine) (front ++ [last]) := by
  have line : cursor.line = cursor.behind.reverse := by
    rw [Cursor.line, none_left, List.append_nil]
  cases stands.hasRead with
  | nothing noFront => simp at noFront
  | lines before read ended counted cut =>
      have filled : cursor.behind ≠ [] := by
        have member : cursor.line ∈
            Text.lines '\n' (cursor.line ++ cursor.unread.flatten) :=
          cut ▸ List.mem_cons_self
        simpa [line] using Text.ne_nil_of_mem_lines member
      rcases List.exists_cons_of_ne_nil filled with ⟨latest, earlier, behind⟩
      have same : last = latest := by
        rw [behind, List.reverse_cons, ← List.append_assoc] at read
        simpa using (List.append_inj' read rfl).2
      rw [read]
      subst same
      have inLine : '\n' ∉ cursor.behind := by
        rcases Text.lines_eq_cons cut with ⟨body, _, ends, _⟩ | ⟨absent, _, _⟩
        · rw [line, behind, List.reverse_cons] at ends
          have final := (List.append_inj' ends rfl).2
          exact absurd (by simpa using final) visible.2
        · simpa [line] using absent
      have whole : Text.trimLineEnd cursor.line = cursor.line := by
        rw [line, behind, List.reverse_cons, Text.trimLineEnd,
          Text.dropTrailing_append_singleton]
        simp [visible.1, visible.2]
      rw [Cursor.locationHere, if_pos none_left, Cursor.lineText, whole, line,
        String.length_ofList, List.length_reverse]
      exact location_eq_behind ended counted inLine

/-- The line in the buffer is the line around the place of the cursor. -/
theorem StandsAt.lineText (stands : cursor.StandsAt front rest)
    (left : cursor.ahead ≠ []) :
    cursor.lineText = Text.lineAt front rest := by
  have remaining := stands.faces.remaining
  cases stands.hasRead with
  | nothing _ _ noLine => exact absurd (List.append_eq_nil_iff.1 noLine).2 left
  | lines before read ended counted cut =>
      have absent : '\n' ∉ cursor.behind.reverse := by
        simpa using newline_not_mem_behind cut left
      rw [Cursor.lineText, Text.lineAt, read,
        Text.lastLine_append_of_not_mem absent,
        ended, List.nil_append, ← remaining, Cursor.remaining]
      congr 1
      rcases Text.lines_eq_cons cut with
        ⟨body, inBody, ends, _⟩ | ⟨inLine, _, unread⟩
      · rcases List.eq_nil_or_concat cursor.ahead |>.resolve_left left with
          ⟨start, final, ahead⟩
        rw [List.concat_eq_append] at ahead
        rw [Cursor.line, ahead, ← List.append_assoc] at ends
        rcases List.append_inj' ends rfl with ⟨rfl, newline⟩
        have inStart : '\n' ∉ start :=
          fun member => inBody (List.mem_append_right _ member)
        have cutOff : Text.trimLineEnd cursor.line =
            Text.trimReturns (cursor.behind.reverse ++ start) := by
          rw [← Text.trimLineEnd_eq_trimReturns inBody, Cursor.line, ahead,
            newline, ← List.append_assoc, Text.trimLineEnd,
            Text.dropTrailing_append_singleton]
          rfl
        rw [cutOff, ahead, newline, List.append_assoc,
          Scan.upToNewline_append inStart]
        simp [Scan.upToNewline]
      · have inAhead : '\n' ∉ cursor.ahead :=
          fun member => inLine (List.mem_append_right _ member)
        rw [unread, List.flatten_nil, List.append_nil,
          Text.trimLineEnd_eq_trimReturns inLine,
          Scan.upToNewline_eq_self inAhead, Cursor.line]

end Cursor

end Whirlwind
