import Whirlwind.Proofs.Expr.Listing

/-!
# Statements are read back from their listings

Statements are listed one behind another with semicolons between them, and
blanks and more semicolons around those.  The lexer finds the lexemes of each
listing and one lexeme for each semicolon.  The parser drops the semicolons
that nothing stands in front of, so what it answers with is the statements in
order (`Expr.statements_listing`).
-/

namespace Whirlwind

open Lexer TokenStream Reading

/-- A text of semicolons and blanks. -/
def DividesStatements (text : String) : Prop :=
  ∀ character ∈ text.toList,
    character = ';' ∨ Text.isBlank character = true

instance (text : String) : Decidable (DividesStatements text) :=
  decidable_of_iff
    (text.toList.all fun character =>
      character == ';' || Text.isBlank character)
    (by simp [DividesStatements])

/-- A statement that is listed, and the text behind it. -/
structure ListedStatement where
  statement : Expr
  separator : String
  deriving DecidableEq, Repr

namespace ListedStatement

/-- The listing of a statement and the text behind it. -/
def text (listed : ListedStatement) : String :=
  listed.statement.listing ++ listed.separator

/-- The lexemes of a text of semicolons and blanks. -/
def marks (separator : String) : List Lexeme :=
  List.replicate (separator.toList.count ';') (.mark ';')

/-- The lexemes of a listing and of the text behind it. -/
def lexemes (listed : ListedStatement) : List Lexeme :=
  listed.statement.lexemes ++ marks listed.separator

/-- What stands behind each statement separates it from the next one. -/
structure Separated (all : List ListedStatement) : Prop where
  wellFormed : ∀ listed ∈ all, listed.statement.WellFormed
  separates : ∀ listed ∈ all, DividesStatements listed.separator
  /-- There need not be a semicolon behind the last statement. -/
  divides : ∀ listed ∈ all.dropLast, ';' ∈ listed.separator.toList

/-- Listings and the texts behind them, one behind another. -/
def texts (all : List ListedStatement) : String :=
  String.join (all.map text)

variable {listed : ListedStatement} {rest : List ListedStatement}

theorem Separated.tail (separated : Separated (listed :: rest)) :
    Separated rest where
  wellFormed := fun other member =>
    separated.wellFormed other (List.mem_cons_of_mem _ member)
  separates := fun other member =>
    separated.separates other (List.mem_cons_of_mem _ member)
  divides := by
    intro other member
    cases rest with
    | nil => cases member
    | cons next rest =>
        exact separated.divides other (List.mem_cons_of_mem _ member)

/-- Behind a statement there is a semicolon or the end of the text. -/
theorem Separated.divided (separated : Separated (listed :: rest)) :
    ';' ∈ listed.separator.toList ∨ rest = [] := by
  cases rest with
  | nil => exact Or.inr rfl
  | cons next rest =>
      exact Or.inl (separated.divides listed List.mem_cons_self)

end ListedStatement

/-! ## Lexemes -/

namespace Lexer

open ListedStatement (Separated marks texts)

/-- A text that gives lexemes gives them behind semicolons and blanks too, and
the semicolons before them. -/
theorem gives_separator {separator text rest : List Char}
    {lexemes : List Lexeme}
    (separates : ∀ character ∈ separator,
      character = ';' ∨ Text.isBlank character = true)
    (gives : ∀ gap, Grammar.expression.Skips gap →
      Gives .expression .start (gap ++ text) lexemes .start rest)
    {gap : List Char} (gaps : Grammar.expression.Skips gap) :
    Gives .expression .start (gap ++ (separator ++ text))
      (List.replicate (separator.count ';') (.mark ';') ++ lexemes) .start
      rest := by
  induction separator generalizing gap with
  | nil => exact gives gap gaps
  | cons character separator ih =>
      rw [List.forall_mem_cons] at separates
      rcases separates with ⟨first, later⟩
      by_cases mark : character = ';'
      · subst mark
        have behind := ih later Grammar.expression.skips_nil
        have whole := (gives_mark ';' gaps rfl).trans behind
        simpa [List.replicate_succ] using whole
      · have blank : Grammar.expression.isGap character = true := by
          simpa [Grammar.isGap, Grammar.hasTabs] using first.resolve_left mark
        have wider := Grammar.skips_append gaps
          (List.forall_mem_singleton.2 blank)
        have whole := ih later wider
        simpa [List.count_cons, mark] using whole

/-- The end of a listing is seen. -/
theorem closes_separated {listed : ListedStatement}
    {rest : List ListedStatement} (separated : Separated (listed :: rest)) :
    Grammar.expression.Closes
      (listed.separator.toList ++ (texts rest).toList) := by
  have separates := separated.separates listed List.mem_cons_self
  cases written : listed.separator.toList with
  | nil =>
      rcases separated.divided with divides | rfl
      · rw [written] at divides
        cases divides
      · exact Grammar.closes_nil _
  | cons first later =>
      rw [DividesStatements, written] at separates
      refine Grammar.closes_cons.2 ?_
      rcases separates first List.mem_cons_self with rfl | blank
      · rfl
      · simp [Grammar.isTerminator, blank]

/-- The lexer finds the lexemes of statements in their listings. -/
theorem gives_statements {all : List ListedStatement}
    (separated : Separated all) {gap : List Char}
    (gaps : Grammar.expression.Skips gap) :
    Gives .expression .start (gap ++ (texts all).toList)
      (all.flatMap ListedStatement.lexemes ++ [.finish]) .start [] := by
  induction all generalizing gap with
  | nil => simpa [texts] using gives_finish gaps
  | cons listed rest ih =>
      have lists : Grammar.expression.Lists listed.statement :=
        ⟨rfl, Or.inl rfl⟩
      have writes := writes_listing lists
        (separated.wellFormed listed List.mem_cons_self) gap _ gaps
        (closes_separated separated)
      have behind := gives_separator
        (separated.separates listed List.mem_cons_self)
        (fun gap gaps => ih separated.tail gaps) Grammar.expression.skips_nil
      have whole := writes.trans behind
      simpa [texts, ListedStatement.text, ListedStatement.lexemes, marks,
        String.join_cons] using whole

end Lexer

/-! ## Parsing -/

/-- No operand starts with a semicolon or at the end of the text. -/
theorem Derives.Opens.apart {first : Lexeme} (opens : Derives.Opens first) :
    first ≠ .finish ∧ first ≠ .mark ';' := by
  have closed : ¬Derives.Opens .finish ∧ ¬Derives.Opens (.mark ';') := by
    constructor <;>
      · rintro (same | ⟨op, signs⟩)
        · cases same
        · cases signs
  constructor
  · rintro rfl
    exact closed.1 opens
  · rintro rfl
    exact closed.2 opens

namespace TokenStream

open ListedStatement (Separated marks)

variable {start : TokenStream} {last : Lexer} {follow : List Lexeme}
  {statements : List Expr}

theorem parseStatements_finish (offers : start.Offers [.finish] last) :
    (parseStatements start).Delivers [] [] last := by
  rw [parseStatements]
  refine offers.readThen fun token rest spent lexeme offersRest _ => ?_
  have finish : token.isFinish = true := by
    simp [Token.isFinish, lexeme]
  rw [if_pos finish]
  exact ⟨rfl, offersRest⟩

/-- A semicolon in front of statements makes no difference. -/
theorem parseStatements_mark
    (offers : start.Offers (.mark ';' :: follow) last)
    (later : ∀ rest : TokenStream, rest.Offers follow last →
      (parseStatements rest).Delivers statements [] last) :
    (parseStatements start).Delivers statements [] last := by
  rw [parseStatements]
  refine offers.readThen fun token rest spent lexeme offersRest _ => ?_
  have apart : ¬token.isFinish = true := by simp [Token.isFinish, lexeme]
  rw [if_neg apart, dif_pos (isMark_of_lexeme lexeme)]
  exact (later rest offersRest).widen _

theorem parseStatements_marks (count : Nat)
    (offers : start.Offers (List.replicate count (.mark ';') ++ follow) last)
    (later : ∀ rest : TokenStream, rest.Offers follow last →
      (parseStatements rest).Delivers statements [] last) :
    (parseStatements start).Delivers statements [] last := by
  induction count generalizing start with
  | zero => exact later start offers
  | succ count ih =>
      exact parseStatements_mark offers fun rest offersRest => ih offersRest

/-- A statement is read up to a semicolon or the end of the text. -/
theorem parseStatements_statement {statement : Expr} {lexemes : List Lexeme}
    (derived : Derives .list lexemes follow statement)
    (offers : start.Offers (lexemes ++ follow) last)
    (ending : follow = [.finish] ∧ statements = [] ∨
      ∃ behind, follow = .mark ';' :: behind ∧
        ∀ rest : TokenStream, rest.Offers behind last →
          (parseStatements rest).Delivers statements [] last) :
    (parseStatements start).Delivers (statement :: statements) [] last := by
  rcases derived.exists_cons with ⟨first, inner, rfl, opens⟩
  have ends : Phrase.list.Ends follow := by
    rcases ending with ⟨rfl, _⟩ | ⟨behind, rfl, _⟩
    · exact Phrase.ends_finish _ _
    · exact ⟨_, behind, rfl, by simp [Phrase.extenders]⟩
  rw [parseStatements]
  refine offers.readThen fun token after spent lexeme offersAfter vacant => ?_
  have apart : ¬token.isFinish = true ∧ ¬token.isMark ';' = true := by
    rw [Token.isFinish, Token.isMark, lexeme]
    simpa using opens.apart
  rw [if_neg apart.1, dif_neg apart.2]
  refine offersAfter.handBackThen vacant fun whole fits offersWhole => ?_
  rw [lexeme] at offersWhole
  have read := derived.completes.1 ends whole last offersWhole
  refine Outcome.Delivers.widen ?_ _
  refine read.andThen fun after fits offersFollow => ?_
  refine Outcome.Delivers.widen ?_ _
  rcases ending with ⟨rfl, rfl⟩ | ⟨behind, rfl, later⟩
  · refine offersFollow.readThen fun token rest spent lexeme offersRest _ => ?_
    have finish : token.isFinish = true := by simp [Token.isFinish, lexeme]
    rw [if_pos finish]
    exact ⟨rfl, offersRest⟩
  · refine offersFollow.readThen fun token rest spent lexeme offersRest _ => ?_
    have apart : ¬token.isFinish = true := by simp [Token.isFinish, lexeme]
    rw [if_neg apart, dif_pos (isMark_of_lexeme lexeme)]
    exact (later rest offersRest).map.widen _

/-- The parser reads the statements of their lexemes, one after the other. -/
theorem parseStatements_listed {all : List ListedStatement}
    (separated : Separated all)
    (offers : start.Offers
      (all.flatMap ListedStatement.lexemes ++ [.finish]) last) :
    (parseStatements start).Delivers (all.map ListedStatement.statement) []
      last := by
  induction all generalizing start with
  | nil => exact parseStatements_finish offers
  | cons listed rest ih =>
      rw [List.flatMap_cons, ListedStatement.lexemes, List.append_assoc,
        List.append_assoc] at offers
      refine parseStatements_statement (listed.statement.derives_list _)
        offers ?_
      rw [marks]
      cases counted : listed.separator.toList.count ';' with
      | zero =>
          rcases separated.divided with divides | rfl
          · exact absurd divides (List.count_eq_zero.1 counted)
          · exact Or.inl ⟨rfl, rfl⟩
      | succ count =>
          refine Or.inr ⟨_, rfl, fun between offersBetween => ?_⟩
          exact parseStatements_marks count offersBetween
            fun rest offersRest => ih separated.tail offersRest

end TokenStream

namespace Expr

open ListedStatement (Separated texts)

/--
Statements are read from their listings, if there are blanks and semicolons
between them, and at least one semicolon behind each but the last.
-/
theorem statements_listing {front : String} {all : List ListedStatement}
    (leads : DividesStatements front) (separated : Separated all)
    (firstLine : Nat) :
    Reading.answer TokenStream.statements
        (ofText (front ++ texts all) firstLine .expression) =
      .ok (all.map ListedStatement.statement) := by
  have gives := gives_separator leads
    (fun gap gaps => gives_statements separated gaps)
    Grammar.expression.skips_nil
  rw [List.nil_append, ← String.toList_append] at gives
  rcases gives _ (faces_ofText (front ++ texts all) firstLine .expression) with
    ⟨last, reads, _⟩
  have delivers := parseStatements_marks _ (offers_ofText reads)
    fun rest offersRest => parseStatements_listed separated offersRest
  exact answer_of_eq_ok (Outcome.toResult_eq_ok.2 ⟨delivers.1, rfl⟩)

end Expr

end Whirlwind
