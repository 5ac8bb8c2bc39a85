import Whirlwind.Proofs.Expr.Completeness
import Whirlwind.Proofs.Token.Action

/-!
# The parser accepts exactly the grammar

A text whose lexemes are without error is read as a tree if and only if those
lexemes are a phrase that says the tree; and no sequence of lexemes says two.
-/

namespace Whirlwind

open TokenStream Reading

theorem Outcome.toResult_eq_ok {Result : Type} {limit : Nat}
    {outcome : Outcome Result limit} {result : Result} {rest : TokenStream} :
    outcome.toResult = .ok result rest ↔
      outcome.answer = .ok result ∧ outcome.rest = rest := by
  unfold Outcome.toResult
  cases outcome.answer <;> simp

namespace TokenStream

theorem accounts_expression {start rest : TokenStream} {expr : Expr}
    (run : expression start = .ok expr rest) :
    start.Accounts .list [] expr rest := by
  rcases Outcome.toResult_eq_ok.1 run with ⟨answers, rfl⟩
  exact (accountsBelow _).level .comma start (Nat.lt_succ_self _) expr answers

theorem accounts_atom {start rest : TokenStream} {expr : Expr}
    (run : atom start = .ok expr rest) :
    start.Accounts .atom [] expr rest := by
  rcases Outcome.toResult_eq_ok.1 run with ⟨answers, rfl⟩
  exact (accountsBelow _).atom start (Nat.lt_succ_self _) expr answers

theorem Offers.yields_expression {start : TokenStream} {last : Lexer}
    {lexemes follow : List Lexeme} {expr : Expr}
    (offers : start.Offers (lexemes ++ follow) last)
    (derived : Derives .list lexemes follow expr)
    (ends : Phrase.list.Ends follow) :
    expression.Yields start expr follow last := by
  have delivers := derived.completes.1 ends start last offers
  exact ⟨_, Outcome.toResult_eq_ok.2 ⟨delivers.1, rfl⟩, delivers.2⟩

theorem Offers.yields_atom {start : TokenStream} {last : Lexer}
    {lexemes follow : List Lexeme} {expr : Expr}
    (offers : start.Offers (lexemes ++ follow) last)
    (derived : Derives .atom lexemes follow expr) :
    atom.Yields start expr follow last := by
  have delivers := derived.parseAtom offers
  exact ⟨_, Outcome.toResult_eq_ok.2 ⟨delivers.1, rfl⟩, delivers.2⟩

end TokenStream

/-- The end of the text ends every phrase. -/
theorem Phrase.ends_finish (phrase : Phrase) (rest : List Lexeme) :
    phrase.Ends (.finish :: rest) :=
  ⟨.finish, rest, rfl, fun _ _ => Lexeme.noConfusion⟩

/-- A text whose lexemes are a phrase is read as the tree that they say. -/
theorem Expr.parse_of_derives {text : String} {grammar : Grammar}
    {lexemes : List Lexeme} {last : Lexer} {expr : Expr}
    (reads : (Lexer.ofText text 1 grammar).Reads (lexemes ++ [.finish]) last)
    (derived : Derives .list lexemes [] expr) :
    Expr.parse text grammar = .ok expr := by
  have yields := (offers_ofText reads).yields_expression
    (derived.follow_congr (by simp)) (Phrase.ends_finish _ _)
  have whole : completeExpression.Yields (ofText text 1 grammar) expr []
      last := yields.bind fun _ offersEnd =>
    offersEnd.yields_expectFinish.bind fun _ offersNothing =>
      offersNothing.yields_pure
  exact whole.answer_eq

/-- The lexemes of a text that is read as a tree are a phrase that says it. -/
theorem Expr.derives_of_parse {text : String} {grammar : Grammar}
    {expr : Expr} (parsed : Expr.parse text grammar = .ok expr) :
    ∃ lexemes last, Derives .list lexemes [] expr ∧
      (Lexer.ofText text 1 grammar).Reads (lexemes ++ [.finish]) last := by
  rcases answer_eq_ok parsed with ⟨last, run⟩
  rcases bind_eq_ok run with ⟨result, between, read, later⟩
  rcases bind_eq_ok later with ⟨_, after, finished, answered⟩
  rcases pure_eq_ok answered with ⟨rfl, rfl⟩
  rcases accounts_expression read with ⟨lexemes, passed, derived⟩
  have passedFinish := passes_expectFinish finished
  rcases passed.trans passedFinish with ⟨fresh, reads, same⟩
  have lexed : fresh = (lexemes ++ [.finish]) ++ last.pending := by
    simpa [pending, ofText] using same
  rcases (lexed ▸ reads).split with ⟨middle, readsFinish, _⟩
  refine ⟨lexemes, middle, (derived []).follow_congr ?_, readsFinish⟩
  rcases passedFinish with ⟨_, _, pendingFinish⟩
  cases ahead : between.pending with
  | nil => simp
  | cons first rest =>
      rw [ahead] at pendingFinish
      obtain rfl : first = .finish := (List.cons.inj pendingFinish).1
      simp

/--
Exactly the trees that the lexemes of a text say are read from it, and a
sequence of lexemes says at most one tree.
-/
theorem Expr.parse_eq_ok_iff_derives :
    (∀ (grammar : Grammar) (text : String) (tokens : List Token),
      (Lexer.ofText text 1 grammar).tokens = (tokens, none) →
      ∀ expr : Expr, Expr.parse text grammar = .ok expr ↔
        Derives .list (tokens.map Token.lexeme) [] expr) ∧
    ∀ (lexemes : List Lexeme) (one other : Expr),
      Derives .list lexemes [] one → Derives .list lexemes [] other →
      one = other := by
  constructor
  · intro grammar text tokens tokenized expr
    rcases Lexer.reads_of_tokens tokenized with ⟨endless, last, reads⟩
    constructor
    · intro parsed
      rcases Expr.derives_of_parse parsed with
        ⟨lexemes, after, derived, readsParsed⟩
      have absent : .finish ∉ lexemes :=
        fun member => derived.builds _ member
      rwa [reads.unique_of_finish readsParsed endless absent]
    · exact Expr.parse_of_derives reads
  · intro lexemes one other derivedOne derivedOther
    exact (derivedOne.follow_congr (by simp)).unique
      (derivedOther.follow_congr (by simp)) (Phrase.ends_finish .list [])

/-- Differences lean to the left, and a minus sign in parentheses is zero. -/
theorem Expr.difference_chain_derives :
    ∃ tokens : List Token,
      (Lexer.ofText "a-b-(-)" 1 .assembly).tokens = (tokens, none) ∧
      Derives .list (tokens.map Token.lexeme) []
        (.binary .minus (.binary .minus (.identifier "a") (.identifier "b"))
          (.digits "0")) ∧
      ∀ other, Derives .list (tokens.map Token.lexeme) [] other →
        other = .binary .minus
          (.binary .minus (.identifier "a") (.identifier "b"))
          (.digits "0") := by
  have tokenized : (Lexer.ofText "a-b-(-)" 1 .assembly).tokens =
      ((Lexer.ofText "a-b-(-)" 1 .assembly).tokens.1, none) := by
    decide +kernel
  have parsed : (Expr.parse "a-b-(-)" .assembly).toOption =
      some (.binary .minus
        (.binary .minus (.identifier "a") (.identifier "b"))
        (.digits "0")) := by
    decide +kernel
  have derived := (Expr.parse_eq_ok_iff_derives.1 _ _ _ tokenized _).1
    (Except.eq_ok_of_toOption parsed)
  exact ⟨_, tokenized, derived, fun other derivedOther =>
    Expr.parse_eq_ok_iff_derives.2 _ _ _ derivedOther derived⟩

end Whirlwind
