import Mathlib.Data.List.SplitBy
import Whirlwind.Proofs.Token.Ending
import Whirlwind.Proofs.Token.Run

/-!
# Cutting a command into runs

A debugger command can be cut without a lexer.  Its longest runs of characters
that are neither white space nor a comma or a parenthesis are its names and
numbers, each comma and each parenthesis is an operator, and white space is
nothing (`Command.lexemes`).  A command without quotes is read as just that, up
to its end, and quotes that are not closed are the only thing in a command that
cannot be read (`Lexer.tokens_command`).
-/

namespace Whirlwind

namespace Command

/-- The characters of a command that are operators. -/
def operators : List Char :=
  [',', '(', ')']

/-- Whether a character stands between the runs of a command. -/
def separates (character : Char) : Bool :=
  Text.isBlank character || decide (character ∈ operators)

/-- The longest runs of a text, and each character between them by itself. -/
def pieces (text : List Char) : List (List Char) :=
  text.splitBy fun one next => !separates one && !separates next

/-- A letter without any accent, or an underscore. -/
def IsLetter (character : Char) : Prop :=
  'a' ≤ character ∧ character ≤ 'z' ∨ 'A' ≤ character ∧ character ≤ 'Z' ∨
    character = '_'

instance (character : Char) : Decidable (IsLetter character) :=
  inferInstanceAs (Decidable (_ ∨ _ ∨ _))

/-- A letter and, behind it, letters and decimal digits. -/
def IsIdentifier : List Char → Prop
  | [] => False
  | first :: rest =>
      IsLetter first ∧ ∀ character ∈ rest,
        IsLetter character ∨ '0' ≤ character ∧ character ≤ '9'

-- By name, as characters could also be checked one by one, all that there are.
instance : DecidablePred IsIdentifier
  | [] => inferInstanceAs (Decidable False)
  | _ :: rest => @instDecidableAnd _ _ inferInstance (List.decidableBAll _ rest)

/-- The lexeme that a piece of a command is, unless it is white space. -/
def lexeme? : List Char → Option Lexeme
  | [] => none
  | first :: rest =>
      if Text.isBlank first then none
      else if first ∈ operators then some (.mark first)
      else if IsIdentifier (first :: rest) then
        some (.identifier (String.ofList (first :: rest)))
      else some (.digits (String.ofList (first :: rest)))

/-- The lexemes of a command without quotes. -/
def lexemes (text : List Char) : List Lexeme :=
  (pieces text).filterMap lexeme?

/-! ## Pieces from the front of a text -/

section

variable {first : Char} {gap : List Char}

theorem pieces_cons (apart : separates first = true) (rest : List Char) :
    pieces (first :: rest) = [first] :: pieces rest := by
  have cut := List.splitBy_append (l := [first]) (m := rest)
    (r := fun one next => !separates one && !separates next) (by simp [apart])
  simpa [pieces, List.splitBy_of_isChain] using cut

/-- The run that a text starts with ends where something stands between runs. -/
theorem pieces_run (inside : separates first = false) (rest : List Char) :
    pieces (first :: rest) =
      (first :: rest).takeWhile (!separates ·) ::
        pieces ((first :: rest).dropWhile (!separates ·)) := by
  let run := (first :: rest).takeWhile (!separates ·)
  let later := (first :: rest).dropWhile (!separates ·)
  have visible : run ≠ [] := by simp [run, inside]
  have together : run.IsChain fun one next =>
      (!separates one && !separates next) = true := by
    refine (List.pairwise_of_forall_mem_list ?_).isChain
    intro one member next memberNext
    have isIn := List.mem_takeWhile_imp member
    have isInNext := List.mem_takeWhile_imp memberNext
    simpa using And.intro isIn isInNext
  have ends : ∀ last ∈ run.getLast?, ∀ next ∈ later.head?,
      (!separates last && !separates next) = false := by
    intro last _ next isNext
    have stops := List.head?_dropWhile_not (!separates ·) (first :: rest)
    rw [show ((first :: rest).dropWhile _).head? = some next from isNext]
      at stops
    exact (congrArg (!separates last && ·) stops).trans (Bool.and_false _)
  have cut := List.splitBy_append ends
  rwa [List.takeWhile_append_dropWhile,
    List.splitBy_of_isChain visible together] at cut

/-- White space in front of a text has no lexemes. -/
theorem lexemes_append (gaps : Grammar.debugger.Skips gap)
    (text : List Char) : lexemes (gap ++ text) = lexemes text := by
  induction gap with
  | nil => rfl
  | cons first gap ih =>
      rcases List.forall_mem_cons.1 gaps with ⟨isGap, later⟩
      have blank : Text.isBlank first = true := by
        simpa [Grammar.isGap, Grammar.hasTabs] using isGap
      rw [← ih later, lexemes, List.cons_append,
        pieces_cons (by simp [separates, blank]), List.filterMap_cons]
      simp only [lexeme?, blank, if_true]
      rfl

end

end Command

/-! ## What the scans find is a piece -/

/-- A finding that leaves no mode behind, or a string that is not closed. -/
def Finding.IsCommand : Finding → Prop
  | .lexeme _ _ next => next = .start
  | .illegal _ _ => False
  | .unterminated _ => True

namespace Scan

open Command

theorem isNameStart_iff {character : Char} :
    isNameStart character = true ↔ IsLetter character := by
  show ((decide (character.val ≥ 65 ∧ character.val ≤ 90) ||
      (decide (character.val ≥ 97) && decide (character.val ≤ 122))) ||
    decide (character = '_')) = true ↔ _
  simp only [Bool.or_eq_true, Bool.and_eq_true, decide_eq_true_eq, ge_iff_le,
    IsLetter, Char.le_def]
  exact or_assoc.symm.trans (or_congr_left or_comm) |>.symm

theorem isName_iff {text : List Char} :
    isName text = true ↔ IsIdentifier text := by
  cases text with
  | nil => simp [isName, IsIdentifier]
  | cons first rest =>
      have digit : ∀ character : Char, character.isDigit = true ↔
          '0' ≤ character ∧ character ≤ '9' := by
        intro character
        show (decide (character.val ≥ 48) && decide (character.val ≤ 57)) =
          true ↔ _
        simp only [Bool.and_eq_true, decide_eq_true_eq, ge_iff_le, Char.le_def]
        exact Iff.rfl
      have inside : ∀ character : Char, isNameChar character = true ↔
          IsLetter character ∨ '0' ≤ character ∧ character ≤ '9' := by
        intro character
        rw [isNameChar_eq, Bool.or_eq_true, isNameStart_iff, digit]
      simp only [isName, IsIdentifier, Bool.and_eq_true, isNameStart_iff,
        List.all_eq_true, inside]

theorem isMark_debugger (character : Char) :
    Grammar.debugger.isMark character = decide (character ∈ operators) :=
  List.contains_eq_mem character operators

theorem isRunChar_eq {character : Char} (unquoted : character ≠ '"') :
    isRunChar character = !separates character := by
  simp [isRunChar, separates, unquoted, isMark_debugger]

theorem token_debugger (first : Char) (rest : List Char) :
    token .debugger first rest =
      if first = '"' then string rest
      else if first ∈ operators then .lexeme (.mark first) [first] .start
      else run .debugger (first :: rest) := by
  simp [token, Grammar.hasTabs, Grammar.hasComments, Grammar.hasAtSign,
    Grammar.hasRuns, isMark_debugger]

/-- What a token of a command without quotes is, is what its piece is. -/
theorem exists_token_command {first : Char} {rest : List Char}
    (apart : Grammar.debugger.isGap first = false)
    (unquoted : '"' ∉ first :: rest) :
    ∃ lexeme span later,
      token .debugger first rest = .lexeme lexeme span .start ∧
      first :: rest = span ++ later ∧
      pieces (first :: rest) = span :: pieces later ∧
      lexeme? span = some lexeme := by
  have visible : Text.isBlank first = false := by
    simpa [Grammar.isGap, Grammar.hasTabs] using apart
  have noQuote : first ≠ '"' := fun same => unquoted (same ▸ by simp)
  rw [token_debugger, if_neg noQuote]
  by_cases isOperator : first ∈ operators
  · refine ⟨_, [first], rest, if_pos isOperator, rfl, ?_, ?_⟩
    · exact pieces_cons (by simp [separates, isOperator]) rest
    · simp [lexeme?, visible, isOperator]
  · have starts : separates first = false := by
      simp [separates, visible, isOperator]
    have span : (first :: rest).takeWhile isRunChar =
        (first :: rest).takeWhile (!separates ·) :=
      Cursor.takeWhile_congr fun character member =>
        isRunChar_eq fun same => unquoted (same ▸ member)
    refine ⟨runLexeme ((first :: rest).takeWhile (!separates ·)),
      (first :: rest).takeWhile (!separates ·),
      (first :: rest).dropWhile (!separates ·), ?_, ?_,
      pieces_run starts rest, ?_⟩
    · rw [if_neg isOperator, run_debugger, span]
    · exact List.takeWhile_append_dropWhile.symm
    · rw [List.takeWhile_cons_of_pos (by simp [starts])]
      simp only [lexeme?, visible, isOperator, if_false, runLexeme,
        isName_iff, Bool.false_eq_true]
      split <;> rfl

/-- No scan of a command finds a character that is illegal, or sets a mode. -/
theorem isCommand_token (first : Char) (rest : List Char) :
    (token .debugger first rest).IsCommand := by
  rw [token_debugger]
  unfold string
  split <;> split
  · rfl
  · trivial
  · rfl
  · rfl

end Scan

/-! ## The tokens of a command -/

open Command

variable {firstLine : Nat} {front gap text : List Char}

/-- At the start of a token, a command without quotes has a piece. -/
theorem Finds.exists_piece {finding : Finding}
    (finds : Finds .debugger .start gap text finding)
    (unquoted : '"' ∉ text) :
    ∃ lexeme span later, finding = .lexeme lexeme span .start ∧
      text = span ++ later ∧ pieces text = span :: pieces later ∧
      lexeme? span = some lexeme := by
  cases finds with
  | token _ _ apart => exact Scan.exists_token_command apart unquoted

/-- A command without quotes has the lexemes of its pieces and no error. -/
theorem Lexes.lexemes_command {tokens : List Token}
    {error : Option SyntaxError}
    (lexes : Lexes .debugger firstLine .start front text tokens error)
    (unquoted : '"' ∉ text) :
    error = none ∧ tokens.map Token.lexeme = lexemes text := by
  -- Behind every token of a command the mode is that of its start again.
  generalize starts : Mode.start = mode at lexes
  induction lexes with
  | finish _ gaps =>
      have nothing := lexemes_append gaps []
      rw [List.append_nil] at nothing
      exact ⟨rfl, nothing.symm⟩
  | token finds _ ih =>
      subst starts
      rw [List.mem_append, not_or] at unquoted
      rcases finds.exists_piece unquoted.2 with
        ⟨found, piece, later, same, split, cut, isLexeme⟩
      rcases Finding.lexeme.inj same with ⟨rfl, rfl, rfl⟩
      obtain rfl := List.append_cancel_left split
      rw [List.mem_append, not_or] at unquoted
      rcases ih unquoted.2.2 rfl with ⟨noError, readOn⟩
      refine ⟨noError, ?_⟩
      rw [lexemes_append finds.skips, lexemes, cut,
        List.filterMap_cons_some isLexeme, List.map_cons, readOn]
      rfl
  | error finds fails =>
      subst starts
      rw [List.mem_append, not_or] at unquoted
      rcases finds.exists_piece unquoted.2 with ⟨_, _, _, rfl, _⟩
      cases fails

namespace Lexer

variable {lexer : Lexer}

/-- A lexer between two tokens of a command. -/
structure ReadsCommand (lexer : Lexer) : Prop where
  grammar : lexer.grammar = .debugger
  mode : lexer.mode = .start

theorem ReadsCommand.next_eq (commands : lexer.ReadsCommand) :
    lexer.next =
      let cursor := lexer.cursor.settle.skipWhile Grammar.debugger.isGap
      match cursor.ahead with
      | [] => .ok ⟨.finish, cursor.locationHere⟩ { lexer with cursor := cursor }
      | first :: rest =>
          lexer.accept cursor (Scan.token .debugger first rest) := by
  rcases lexer with ⟨cursor, grammar, mode⟩
  rcases commands with ⟨rfl, rfl⟩
  rfl

/-- Whatever is found, reading goes on, and nothing but a string fails. -/
theorem ReadsCommand.accept (commands : lexer.ReadsCommand) (cursor : Cursor)
    {finding : Finding} (found : finding.IsCommand) :
    Leaves ReadsCommand (lexer.accept cursor finding) ∧
      ∀ error after, lexer.accept cursor finding = .error error after →
        error.cause = .unterminatedString := by
  cases finding with
  | lexeme =>
      refine ⟨⟨commands.grammar, found⟩, ?_⟩
      rintro _ _ ⟨⟩
  | illegal => exact found.elim
  | unterminated =>
      refine ⟨⟨commands.grammar, rfl⟩, ?_⟩
      rintro _ _ ⟨⟩
      rfl

theorem ReadsCommand.next (commands : lexer.ReadsCommand) :
    Leaves ReadsCommand lexer.next ∧
      ∀ error after, lexer.next = .error error after →
        error.cause = .unterminatedString := by
  rw [commands.next_eq]
  dsimp only
  split
  · refine ⟨⟨commands.grammar, commands.mode⟩, ?_⟩
    rintro _ _ ⟨⟩
  · exact commands.accept _ (Scan.isCommand_token _ _)

theorem ReadsCommand.cause_of_answers (commands : lexer.ReadsCommand)
    (count : Nat) :
    ∀ error, .error error ∈ lexer.answers count →
      error.cause = .unterminatedString := by
  induction count generalizing lexer with
  | zero => exact fun _ member => nomatch member
  | succ count ih =>
      rcases commands.next with ⟨onward, causes⟩
      intro error member
      cases read : lexer.next with
      | ok token after =>
          rw [answers_of_ok read, List.mem_cons] at member
          rw [read] at onward
          rcases member with same | later
          · cases same
          · exact ih onward error later
      | error failure after =>
          rw [answers_of_error read, List.mem_cons] at member
          rw [read] at onward
          rcases member with same | later
          · cases same
            exact causes _ _ read
          · exact ih onward error later

/--
A command without quotes is read up to its end, as its longest runs and its
operators.  Whatever a command is, nothing but a string that its line ends is
ever answered with an error.
-/
theorem tokens_command (text : String) (firstLine : Nat) :
    ('"' ∉ text.toList → ∃ tokens,
      (ofText text firstLine .debugger).tokens = (tokens, none) ∧
      tokens.map Token.lexeme = Command.lexemes text.toList) ∧
    ∀ count error,
      .error error ∈ (ofText text firstLine .debugger).answers count →
      error.cause = .unterminatedString := by
  constructor
  · intro unquoted
    cases read : (ofText text firstLine .debugger).tokens with
    | mk tokens error =>
        have lexes := tokens_ofText_iff.1 read
        rcases lexes.lexemes_command unquoted with ⟨rfl, lexemes⟩
        exact ⟨tokens, rfl, lexemes⟩
  · intro count
    exact ReadsCommand.cause_of_answers ⟨rfl, rfl⟩ count

/-- Runs that other notations would cut, and a string that is not closed. -/
theorem tokens_command_opaque :
    let text := "p x+1,0o17;@ (é)\t_r2"
    let error : SyntaxError :=
      ⟨.unterminatedString, ⟨7, 2⟩, "p \"x"⟩
    ('"' ∉ text.toList ∧ ∃ tokens,
      (ofText text 7 .debugger).tokens = (tokens, none) ∧
      tokens.map Token.lexeme =
        [.identifier "p", .digits "x+1", .operator (.mark ','),
          .digits "0o17;@", .operator (.mark '('), .digits "é",
          .operator (.mark ')'), .identifier "_r2"]) ∧
    .error error ∈ (ofText "p \"x" 7 .debugger).answers 2 ∧
      error.cause = .unterminatedString := by
  intro text error
  have unquoted : '"' ∉ text.toList := by decide
  have cut : Command.lexemes text.toList =
      [.identifier "p", .digits "x+1", .operator (.mark ','),
        .digits "0o17;@", .operator (.mark '('), .digits "é",
        .operator (.mark ')'), .identifier "_r2"] := by
    decide +kernel
  have fails : .error error ∈ (ofText "p \"x" 7 .debugger).answers 2 := by
    have answered : (ofText "p \"x" 7 .debugger).answers 2 =
        [.ok ⟨.identifier "p", ⟨7, 0⟩⟩, .error error] := by
      decide +kernel
    simp [answered]
  rcases (tokens_command text 7).1 unquoted with ⟨tokens, read, lexemes⟩
  exact ⟨⟨unquoted, tokens, read, lexemes.trans cut⟩, fails,
    (tokens_command "p \"x" 7).2 2 error fails⟩

end Lexer

end Whirlwind
