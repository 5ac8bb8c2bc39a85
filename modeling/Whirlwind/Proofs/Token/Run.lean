import Whirlwind.Proofs.Token.Finding
import Whirlwind.Proofs.Token.Lexing

/-!
# Runs

In a debugger command whatever stands between blanks, quotes, commas and
parentheses is one run.  It is found as a name if it has the shape of one, and
as a number otherwise; nothing in it is an operator, a radix mark or the start
of a comment.  So a run is found again wherever something that ends it follows
(`Lexer.gives_run`), and every lexeme of a command is a run, a string or one of
the three operators (`Lexer.Reads.runShaped`).
-/

namespace Whirlwind

namespace Scan

/-- Whether a character can be part of a run. -/
def isRunChar (character : Char) : Bool :=
  !(Text.isBlank character || character = '"' ||
    Grammar.debugger.isMark character)

/-- The lexeme that a run is. -/
def runLexeme (text : List Char) : Lexeme :=
  if isName text then .identifier (String.ofList text)
  else .digits (String.ofList text)

theorem run_debugger (text : List Char) :
    run .debugger text =
      .lexeme (runLexeme (text.takeWhile isRunChar))
        (text.takeWhile isRunChar) .start :=
  rfl

/-- What ends a number or a name in a command is no part of a run. -/
theorem isRunChar_of_isTerminator {character : Char}
    (ends : Grammar.debugger.isTerminator character = true) :
    isRunChar character = false := by
  simp only [Grammar.isTerminator, Grammar.hasComments, Grammar.hasAtSign,
    Bool.false_and, Bool.or_false, Bool.or_eq_true] at ends
  rcases ends with blank | marked
  · simp [isRunChar, blank]
  · simp [isRunChar, marked]

theorem run_append {text rest : List Char}
    (inside : ∀ character ∈ text, isRunChar character = true)
    (closes : Grammar.debugger.Closes rest) :
    run .debugger (text ++ rest) = .lexeme (runLexeme text) text .start := by
  have stops : rest.takeWhile isRunChar = [] := by
    cases rest with
    | nil => rfl
    | cons next rest =>
        have ends := isRunChar_of_isTerminator (Grammar.closes_cons.1 closes)
        simp [ends]
  rw [run_debugger, List.takeWhile_append_of_pos inside, stops,
    List.append_nil]

end Scan

/-- A text that is read as one run. -/
def IsRun (text : String) : Prop :=
  text ≠ "" ∧ ∀ character ∈ text.toList, Scan.isRunChar character = true

/-- The shape of a lexeme of a debugger command. -/
def Lexeme.RunShaped : Lexeme → Prop
  | .operator (.mark character) => Grammar.debugger.isMark character = true
  | .identifier name => IsRun name ∧ Scan.isName name.toList = true
  | .digits text => IsRun text ∧ Scan.isName text.toList = false
  | .string _ | .finish => True
  | .operator _ | .comment _ | .autoComment _ | .tab => False

namespace Scan

theorem runShaped_runLexeme {text : List Char} (visible : text ≠ [])
    (inside : ∀ character ∈ text, isRunChar character = true) :
    (runLexeme text).RunShaped := by
  have isRun : IsRun (String.ofList text) :=
    ⟨by simpa using visible, by simpa using inside⟩
  unfold runLexeme
  split
  · next named => exact ⟨isRun, by simpa using named⟩
  · next other => exact ⟨isRun, by simpa using other⟩

theorem runShaped_token {first : Char} {rest span : List Char}
    {lexeme : Lexeme} {onward : Mode}
    (apart : Grammar.debugger.isGap first = false)
    (found : token .debugger first rest = .lexeme lexeme span onward) :
    lexeme.RunShaped ∧ onward = .start := by
  simp only [token, Grammar.hasTabs, Grammar.hasComments, Grammar.hasAtSign,
    Grammar.hasRuns, Bool.false_and, Bool.false_eq_true, if_false, if_true]
    at found
  split at found
  · unfold string at found
    split at found
    · rcases Finding.lexeme.inj found with ⟨rfl, _, rfl⟩
      exact ⟨trivial, rfl⟩
    · cases found
  next noQuote =>
  split at found
  · next marked =>
    rcases Finding.lexeme.inj found with ⟨rfl, _, rfl⟩
    exact ⟨marked, rfl⟩
  next noMark =>
  rw [run_debugger] at found
  rcases Finding.lexeme.inj found with ⟨rfl, _, rfl⟩
  have visible : Text.isBlank first = false := by
    simpa [Grammar.isGap, Grammar.hasTabs] using apart
  have starts : isRunChar first = true := by
    simp [isRunChar, visible, noQuote, noMark]
  refine ⟨runShaped_runLexeme (by simp [starts]) ?_, rfl⟩
  exact fun character member => List.mem_takeWhile_imp member

end Scan

namespace Lexer

theorem runShaped_next {lexer after : Lexer} {token : Token}
    (runs : lexer.grammar = .debugger) (mode : lexer.mode = .start)
    (read : lexer.next = .ok token after) :
    token.lexeme.RunShaped ∧ after.mode = .start := by
  have inForce : lexer.modeAt lexer.cursor.settle.ahead = .start := by
    simp [modeAt, mode]
  simp only [next, inForce, runs] at read
  split at read
  · rcases EStateM.Result.ok.inj read with ⟨rfl, rfl⟩
    exact ⟨trivial, rfl⟩
  · next ahead =>
    exact Scan.runShaped_token (Cursor.test_head_skipWhile ahead)
      (accept_eq_ok read).1

/-- The lexemes of a command are runs, strings and its operators. -/
theorem Reads.runShaped {lexer after : Lexer} {lexemes : List Lexeme}
    (reads : lexer.Reads lexemes after) (runs : lexer.grammar = .debugger)
    (mode : lexer.mode = .start) :
    ∀ lexeme ∈ lexemes, lexeme.RunShaped := by
  induction reads with
  | done => exact fun _ member => nomatch member
  | read first _ ih =>
      rcases runShaped_next runs mode first with ⟨shaped, modeAfter⟩
      exact List.forall_mem_cons.2
        ⟨shaped, ih ((grammar_next first).trans runs) modeAfter⟩

/-- A run is found again behind a gap, if something ends it. -/
theorem gives_run {gap rest : List Char} {text : String} (isRun : IsRun text)
    (gaps : Grammar.debugger.Skips gap)
    (closes : Grammar.debugger.Closes rest) :
    Gives .debugger .start (gap ++ (text.toList ++ rest))
      [Scan.runLexeme text.toList] .start rest := by
  rcases isRun with ⟨visible, inside⟩
  rcases List.exists_cons_of_ne_nil (show text.toList ≠ [] by simpa using
    visible) with ⟨first, tail, written⟩
  rw [written] at inside ⊢
  have starts := inside first List.mem_cons_self
  simp only [Scan.isRunChar, Bool.not_eq_true', Bool.or_eq_false_iff,
    decide_eq_false_iff_not] at starts
  rcases starts with ⟨⟨unblank, noQuote⟩, noMark⟩
  have inLine : '\n' ∉ first :: tail :=
    fun member => absurd (inside _ member) (by decide)
  refine gives_token first tail gaps (by simp [Grammar.isGap, unblank]) inLine
    fun line start _ => ?_
  have scanned := Scan.run_append inside (closes.of_prefix start)
  rw [List.cons_append] at scanned
  simp [Scan.token, Grammar.hasTabs, Grammar.hasComments, Grammar.hasAtSign,
    Grammar.hasRuns, noQuote, noMark, scanned]

end Lexer

end Whirlwind
