import Whirlwind.Proofs.Check.Counting
import Whirlwind.Proofs.Expr.Statements

/-!
# Statements that are written in canonical form

A run that checks statements and writes them in canonical form writes a text
that the same statements are read from, since it puts a semicolon and a newline
behind each (`Check.statements_read_back`).
-/

namespace Whirlwind

open TokenStream

namespace Check

open ListedStatement (Separated texts)

variable {options : Options}

/-- Statements as they are written in canonical form. -/
def canonical (statements : List Expr) : List ListedStatement :=
  statements.map fun statement => ⟨statement, ";\n"⟩

@[simp]
theorem map_statement_canonical (statements : List Expr) :
    (canonical statements).map ListedStatement.statement = statements := by
  simp [canonical, Function.comp_def]

theorem separated_canonical {statements : List Expr}
    (shapes : ∀ statement ∈ statements, statement.WellFormed) :
    Separated (canonical statements) where
  wellFormed := by
    intro listed member
    rcases List.mem_map.1 member with ⟨statement, inside, rfl⟩
    exact shapes statement inside
  separates := by
    intro listed member
    rcases List.mem_map.1 member with ⟨statement, _, rfl⟩
    exact (by decide : DividesStatements ";\n")
  divides := by
    intro listed member
    rcases List.mem_map.1 (List.dropLast_subset _ member) with
      ⟨statement, _, rfl⟩
    exact (by decide : ';' ∈ ";\n".toList)

/-- Count instructions. -/
def instructed (count : Nat) (summary : Summary) : Summary :=
  { summary with instructions := summary.instructions + count }

theorem instructed_comp_instructed (first rest : Nat) :
    instructed rest ∘ instructed first = instructed (rest + first) := by
  funext summary
  simp only [Function.comp_apply, instructed, Nat.add_assoc,
    Nat.add_comm rest first]

theorem says_checkStatement (silent : options.verbose = false)
    (formats : options.reformat = true) (statement : Expr) :
    Says (checkStatement options statement) (instructed 1)
      (statement.listing ++ ";\n") := by
  unfold checkStatement
  rw [silent, formats]
  exact (says_count _).bind (says_write _)

theorem says_statements (silent : options.verbose = false)
    (formats : options.reformat = true) (statements : List Expr) :
    Says (statements.forM (checkStatement options))
      (instructed statements.length) (texts (canonical statements)) := by
  induction statements with
  | nil => exact says_pure
  | cons statement rest ih =>
      have written : texts (canonical (statement :: rest)) =
          statement.listing ++ ";\n" ++ texts (canonical rest) :=
        String.join_cons
      rw [written, List.length_cons, ← instructed_comp_instructed]
      exact (says_checkStatement silent formats statement).bind ih

/-- A run that writes statements in canonical form writes their listings. -/
theorem comesTo_run_statements {statements : List Expr} {source : Source}
    (whole : options.grammar = .expression) (silent : options.verbose = false)
    (formats : options.reformat = true)
    (read : Reading.answer TokenStream.statements
      (ofText (readableText source) 1 .expression) = .ok statements)
    (name : FileName) :
    ComesTo progressOf (run options name (.ok source)) {}
      (.ok { instructions := statements.length })
      { instructions := statements.length }
      (texts (canonical statements)).toUTF8 := by
  have checked : checkOpened options name (.ok source) =
      statements.forM (checkStatement options) := by
    unfold checkOpened checkStatements
    rw [whole]
    simp only [read]
  have counted : instructed statements.length {} =
      { instructions := statements.length } := by
    simp [instructed]
  have speaks := says_statements silent formats statements {}
  have comes := speaks.andThen (comesTo_conclude _)
  rw [ByteArray.append_empty, ← checked, counted] at comes
  exact comes

/--
Statements are read back from their listings with semicolons and blanks between
them.  So they are from what a run that does not show their values writes of
them in canonical form, where there is room for it.
-/
theorem statements_read_back :
    (∀ (front : String) (all : List ListedStatement) (firstLine : Nat),
      DividesStatements front → Separated all →
      Reading.answer TokenStream.statements
          (ofText (front ++ texts all) firstLine .expression) =
        .ok (all.map ListedStatement.statement)) ∧
    ∀ (options : Options) (name : FileName) (source : Source)
      (statements : List Expr),
      options.grammar = .expression → options.verbose = false →
      options.reformat = true →
      Reading.answer TokenStream.statements
          (ofText (readableText source) 1 .expression) = .ok statements →
      (∀ statement ∈ statements, statement.WellFormed) →
      ∃ text : String,
        ComesTo progressOf (run options name (.ok source)) {}
          (.ok { instructions := statements.length })
          { instructions := statements.length } text.toUTF8 ∧
        ∀ firstLine, Reading.answer TokenStream.statements
          (ofText text firstLine .expression) = .ok statements := by
  constructor
  · intro front all firstLine leads separated
    exact Expr.statements_listing leads separated firstLine
  · intro options name source statements whole silent formats read shapes
    refine ⟨texts (canonical statements),
      comesTo_run_statements whole silent formats read name,
      fun firstLine => ?_⟩
    have nothing : DividesStatements "" := nofun
    have again := Expr.statements_listing nothing
      (separated_canonical shapes) firstLine
    rwa [String.empty_append, map_statement_canonical] at again

/-- A hexadecimal number, an assignment over two lines and an empty statement,
and two statements without a semicolon at the end. -/
theorem statements_read_back_spread :
    Reading.answer TokenStream.statements
        (ofText "\n;0x1f\n;; x = y + 2\n" 1 .expression) =
      .ok [.unary .hexadecimal (.digits "1f"),
        .binary .assign (.identifier "x")
          (.binary .plus (.identifier "y") (.digits "2"))] ∧
      ∃ text : String,
        (run { grammar := .expression, reformat := true } []
            (.ok (.file "f(a,\n b);;(c)".toUTF8))).run {} =
          .ok { instructions := 2 }
            (progressOf { instructions := 2 }
              (Sink.push {} text.toUTF8)) ∧
        Reading.answer TokenStream.statements (ofText text 1 .expression) =
          .ok [.apply (.identifier "f")
              (.binary .comma (.identifier "a") (.identifier "b")),
            .identifier "c"] := by
  constructor
  · have leads : DividesStatements "\n;" := by decide
    exact statements_read_back.1 "\n;"
      [⟨.unary .hexadecimal (.digits "1f"), "\n;; "⟩,
        ⟨.binary .assign (.identifier "x")
          (.binary .plus (.identifier "y") (.digits "2")), "\n"⟩] 1 leads
      ⟨by decide +kernel, by decide +kernel, by decide +kernel⟩
  · let source : Source := .file "f(a,\n b);;(c)".toUTF8
    have read : Reading.answer TokenStream.statements
        (ofText (readableText source) 1 .expression) =
          .ok [.apply (.identifier "f")
              (.binary .comma (.identifier "a") (.identifier "b")),
            .identifier "c"] :=
      Except.eq_ok_of_toOption (by decide +kernel)
    rcases statements_read_back.2 { grammar := .expression, reformat := true }
      [] source _ rfl rfl rfl read (by decide +kernel) with
      ⟨text, comes, again⟩
    exact ⟨text, comes {} (Sink.hasRoom_of_unlimited rfl _), again 1⟩

end Check

end Whirlwind
