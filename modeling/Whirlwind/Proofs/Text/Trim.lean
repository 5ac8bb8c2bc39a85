import Mathlib.Data.List.TakeWhile
import Whirlwind.Text.Lines

/-!
# Trimming

Blanks at the ends of a text do not matter to the trimmed text, which is a part
of the text and has none itself.
-/

namespace Whirlwind.Text

variable {test : Char → Bool} {characters : List Char}

/-- What is dropped at the end of a text satisfies the test. -/
theorem dropTrailing_append_dropped (test : Char → Bool)
    (characters : List Char) :
    ∃ dropped, characters = dropTrailing test characters ++ dropped ∧
      ∀ character ∈ dropped, test character = true := by
  refine ⟨(characters.reverse.takeWhile test).reverse, ?_, ?_⟩
  · rw [dropTrailing, ← List.reverse_append,
      List.takeWhile_append_dropWhile, List.reverse_reverse]
  · intro character member
    exact List.mem_takeWhile_imp (List.mem_reverse.1 member)

theorem dropTrailing_append {dropped : List Char}
    (satisfied : ∀ character ∈ dropped, test character = true) :
    dropTrailing test (characters ++ dropped) =
      dropTrailing test characters := by
  rw [dropTrailing, List.reverse_append, List.dropWhile_append_of_pos
    (by simpa using satisfied), dropTrailing]

/-- Blanks in front of a text do not matter. -/
theorem trimBlanks_append_left {blanks : List Char}
    (blank : ∀ character ∈ blanks, isBlank character = true) :
    trimBlanks (blanks ++ characters) = trimBlanks characters := by
  rw [trimBlanks, List.dropWhile_append_of_pos blank, trimBlanks]

/-- Blanks behind a text do not matter. -/
theorem trimBlanks_append_right {blanks : List Char}
    (blank : ∀ character ∈ blanks, isBlank character = true) :
    trimBlanks (characters ++ blanks) = trimBlanks characters := by
  rw [trimBlanks, trimBlanks, List.dropWhile_append]
  split
  · next empty =>
    rw [List.isEmpty_iff.1 empty, List.dropWhile_eq_nil_iff.2 blank]
  · exact dropTrailing_append blank

/-- Nothing is left of a text if and only if all of it is blank. -/
@[simp]
theorem trimBlanks_eq_nil_iff :
    trimBlanks characters = [] ↔
      ∀ character ∈ characters, isBlank character = true := by
  constructor
  · intro nothing
    rw [trimBlanks, dropTrailing, List.reverse_eq_nil_iff,
      List.dropWhile_eq_nil_iff] at nothing
    rw [← List.takeWhile_append_dropWhile (p := isBlank) (l := characters)]
    exact List.forall_mem_append.2
      ⟨fun _ member => List.mem_takeWhile_imp member,
        fun _ member => nothing _ (List.mem_reverse.2 member)⟩
  · intro blank
    have nothing : characters.dropWhile isBlank = [] :=
      List.dropWhile_eq_nil_iff.2 blank
    rw [trimBlanks, nothing, dropTrailing_nil]

/-- A trimmed text is a part of the text. -/
theorem trimBlanks_infix (characters : List Char) :
    trimBlanks characters <:+: characters := by
  rcases dropTrailing_append_dropped isBlank (characters.dropWhile isBlank) with
    ⟨dropped, same, _⟩
  refine ⟨characters.takeWhile isBlank, dropped, ?_⟩
  rw [trimBlanks, List.append_assoc, ← same,
    List.takeWhile_append_dropWhile]

/-- A trimmed text has no blanks at its ends. -/
theorem trimBlanks_idempotent (characters : List Char) :
    trimBlanks (trimBlanks characters) = trimBlanks characters := by
  rcases dropTrailing_append_dropped isBlank (characters.dropWhile isBlank) with
    ⟨dropped, same, blank⟩
  have split : characters = characters.takeWhile isBlank ++
      trimBlanks characters ++ dropped := by
    rw [trimBlanks, List.append_assoc, ← same,
      List.takeWhile_append_dropWhile]
  have trimmed := congrArg trimBlanks split
  rw [trimBlanks_append_right blank, trimBlanks_append_left
    fun character member => List.mem_takeWhile_imp member] at trimmed
  exact trimmed.symm

/-- Carriage returns are blanks. -/
theorem trimBlanks_trimReturns (characters : List Char) :
    trimBlanks (trimReturns characters) = trimBlanks characters := by
  rcases dropTrailing_append_dropped (· = '\r') characters with
    ⟨dropped, same, returns⟩
  have blank : ∀ character ∈ dropped, isBlank character = true := by
    intro character member
    have carriageReturn : character = '\r' := by
      simpa using returns character member
    exact carriageReturn ▸ rfl
  have trimmed := congrArg trimBlanks same
  rw [trimBlanks_append_right blank] at trimmed
  exact trimmed.symm

end Whirlwind.Text
