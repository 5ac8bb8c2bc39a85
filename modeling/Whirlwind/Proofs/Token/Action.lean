import Whirlwind.Proofs.Token.Passage

/-!
# Actions on token streams

An action is opened in two ways: from its answer back to the answers of its
parts, and from the lexemes on offer forward to its answer.  `Reading.Yields`
is what the second way is about, with one rule for each step of an action.
-/

namespace Whirlwind

theorem Except.eq_ok_of_toOption {Error Result : Type}
    {answer : Except Error Result} {result : Result}
    (answers : answer.toOption = some result) : answer = .ok result := by
  cases answer with
  | ok found => exact congrArg Except.ok (Option.some.inj answers)
  | error => cases answers

namespace Reading

variable {Before After : Type} {action : Reading Before}
  {proceed : Before → Reading After} {start between last : TokenStream}

theorem bind_eq_ok {answer : After}
    (run : (action >>= proceed) start = .ok answer last) :
    ∃ result between, action start = .ok result between ∧
      proceed result between = .ok answer last := by
  cases first : action start with
  | ok result between =>
      refine ⟨result, between, rfl, ?_⟩
      simpa [bind, EStateM.bind, first] using run
  | error error between => simp [bind, EStateM.bind, first] at run

theorem bind_of_eq_ok {result : Before}
    (run : action start = .ok result between) :
    (action >>= proceed) start = proceed result between := by
  simp [bind, EStateM.bind, run]

theorem pure_eq_ok {answer result : After}
    (run : (pure result : Reading After) start = .ok answer last) :
    answer = result ∧ last = start := by
  rcases EStateM.Result.ok.inj run with ⟨rfl, rfl⟩
  exact ⟨rfl, rfl⟩

theorem answer_eq_ok {answer : After} {action : Reading After}
    (answers : action.answer start = .ok answer) :
    ∃ last, action start = .ok answer last := by
  unfold Reading.answer EStateM.run at answers
  split at answers
  · next run =>
    rcases Except.ok.inj answers with rfl
    exact ⟨_, run⟩
  · cases answers

theorem answer_of_eq_ok {answer : After} {action : Reading After}
    (run : action start = .ok answer last) :
    action.answer start = .ok answer := by
  simp [Reading.answer, EStateM.run, run]

/-- An action has a given answer and leaves a given stream. -/
def Answers (action : Reading Before) (start : TokenStream) (answer : Before)
    (last : TokenStream) : Prop :=
  action start = .ok answer last

theorem Answers.bind {answer : After}
    (run : (action >>= proceed).Answers start answer last) :
    ∃ result between, action.Answers start result between ∧
      (proceed result).Answers between answer last :=
  bind_eq_ok run

theorem Answers.pure {answer result : After}
    (run : (pure result : Reading After).Answers start answer last) :
    answer = result ∧ last = start :=
  pure_eq_ok run

/-- An action has a given answer, and the stream it leaves offers lexemes. -/
def Yields (action : Reading Before) (start : TokenStream) (answer : Before)
    (rest : List Lexeme) (last : Lexer) : Prop :=
  ∃ after, action start = .ok answer after ∧ after.Offers rest last

theorem Yields.answer_eq {rest : List Lexeme} {answer : Before} {finish : Lexer}
    (yields : action.Yields start answer rest finish) :
    action.answer start = .ok answer := by
  rcases yields with ⟨_, run, _⟩
  exact answer_of_eq_ok run

theorem yields_of_eq_ok {result : Before} {answer : After}
    {between : TokenStream} {rest : List Lexeme} {finish : Lexer}
    (run : action start = .ok result between)
    (later : (proceed result).Yields between answer rest finish) :
    (action >>= proceed).Yields start answer rest finish := by
  rcases later with ⟨after, runLater, offers⟩
  exact ⟨after, (bind_of_eq_ok run).trans runLater, offers⟩

theorem Yields.bind {result : Before} {answer : After}
    {middle rest : List Lexeme} {halfway finish : Lexer}
    (yields : action.Yields start result middle halfway)
    (later : ∀ between : TokenStream, between.Offers middle halfway →
      (proceed result).Yields between answer rest finish) :
    (action >>= proceed).Yields start answer rest finish := by
  rcases yields with ⟨between, run, offers⟩
  exact yields_of_eq_ok run (later between offers)

end Reading

namespace TokenStream

open Reading

variable {Answer : Type} {start : TokenStream} {lexeme : Lexeme}
  {lexemes rest : List Lexeme} {last finish : Lexer} {answer : Answer}

theorem Offers.yields_pure (offers : start.Offers lexemes last) :
    (pure answer : Reading Answer).Yields start answer lexemes last :=
  ⟨start, rfl, offers⟩

theorem yields_get {proceed : TokenStream → Reading Answer}
    (later : (proceed start).Yields start answer rest finish) :
    (get >>= proceed).Yields start answer rest finish :=
  later

theorem Offers.yields_next {proceed : Token → Reading Answer}
    (offers : start.Offers (lexeme :: lexemes) last)
    (later : ∀ (token : Token) (after : TokenStream), token.lexeme = lexeme →
      after.Offers lexemes last → after.returned.length < after.capacity →
      (proceed token).Yields after answer rest finish) :
    (TokenStream.next >>= proceed).Yields start answer rest finish := by
  rcases offers.next with ⟨token, after, read, same, offersAfter, vacant⟩
  rcases later token after same offersAfter vacant with
    ⟨final, run, offersFinal⟩
  exact ⟨final, (bind_of_eq_ok read).trans run, offersFinal⟩

theorem Offers.yields_handBack {token : Token}
    {proceed : PUnit → Reading Answer} (offers : start.Offers lexemes last)
    (vacant : start.returned.length < start.capacity)
    (later : ∀ whole : TokenStream,
      whole.Offers (token.lexeme :: lexemes) last →
      (proceed ⟨⟩).Yields whole answer rest finish) :
    (TokenStream.handBack token >>= proceed).Yields start answer rest
      finish := by
  rcases offers.handBack token vacant with ⟨returned, offersWhole⟩
  rcases later _ offersWhole with ⟨final, run, offersFinal⟩
  exact ⟨final, (bind_of_eq_ok returned).trans run, offersFinal⟩

theorem Offers.yields_peek {proceed : Token → Reading Answer}
    (offers : start.Offers (lexeme :: lexemes) last)
    (later : ∀ (token : Token) (same : TokenStream), token.lexeme = lexeme →
      same.Offers (lexeme :: lexemes) last →
      (proceed token).Yields same answer rest finish) :
    (peek >>= proceed).Yields start answer rest finish := by
  unfold peek
  rcases offers.next with ⟨token, after, read, same, offersAfter, vacant⟩
  rcases offersAfter.handBack token vacant with ⟨returned, offersWhole⟩
  rcases later token _ same (same ▸ offersWhole) with ⟨final, run, offersFinal⟩
  refine ⟨final, ?_, offersFinal⟩
  rw [← run]
  refine bind_of_eq_ok ?_
  rw [bind_of_eq_ok read, bind_of_eq_ok returned]
  rfl

theorem Offers.yields_expectFinish
    (offers : start.Offers (.finish :: lexemes) last) :
    expectFinish.Yields start ⟨⟩ lexemes last := by
  refine offers.yields_next fun token after same offersAfter _ => ?_
  have finishes : token.isFinish = true := by simp [Token.isFinish, same]
  rw [if_pos finishes]
  exact offersAfter.yields_pure

theorem passes_peek {start last : TokenStream} {token : Token}
    (run : peek start = .ok token last) :
    start.Passes [] last ∧ ∃ behind, last.pending = token.lexeme :: behind := by
  rcases bind_eq_ok run with ⟨read, between, first, later⟩
  rcases bind_eq_ok later with ⟨_, whole, returned, answered⟩
  rcases pure_eq_ok answered with ⟨rfl, rfl⟩
  exact ⟨passes_handBack [] (passes_next first) returned,
    _, pending_handBack returned⟩

theorem passes_expectFinish {start last : TokenStream}
    (run : expectFinish start = .ok ⟨⟩ last) :
    start.Passes [.finish] last := by
  rcases bind_eq_ok run with ⟨token, between, read, later⟩
  split at later
  · next finishes =>
    rcases EStateM.Result.ok.inj later with ⟨_, rfl⟩
    have lexeme : token.lexeme = .finish := by
      simpa [Token.isFinish] using finishes
    exact lexeme ▸ passes_next read
  · cases later

end TokenStream

end Whirlwind
