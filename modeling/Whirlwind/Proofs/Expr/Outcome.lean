import Whirlwind.Expr.Parser
import Whirlwind.Proofs.Token.Passage

/-!
# Steps of the expression parser

Two judgements about an outcome, with one rule for each step that the parser
takes.  `Outcome.Ensures` says what holds if there is an answer; its rules turn
answers back into the tokens that were read.  `Outcome.Delivers` says that there
is a certain answer; its rules run on the lexemes that a stream offers.
-/

namespace Whirlwind

namespace Outcome

variable {Result Next : Type} {limit wider : Nat}

/-- Whatever the answer is, it and the stream that is left are related. -/
def Ensures (outcome : Outcome Result limit)
    (post : Result → TokenStream → Prop) : Prop :=
  ∀ result, outcome.answer = .ok result → post result outcome.rest

/-- The answer is a given one, and the stream that is left offers lexemes. -/
def Delivers (outcome : Outcome Result limit) (result : Result)
    (lexemes : List Lexeme) (last : Lexer) : Prop :=
  outcome.answer = .ok result ∧ outcome.rest.Offers lexemes last

theorem Ensures.mono {outcome : Outcome Result limit}
    {post weaker : Result → TokenStream → Prop}
    (ensures : outcome.Ensures post)
    (weakens : ∀ result rest, post result rest → weaker result rest) :
    outcome.Ensures weaker :=
  fun result answers => weakens _ _ (ensures result answers)

theorem Ensures.widen {outcome : Outcome Result limit}
    {post : Result → TokenStream → Prop} (ensures : outcome.Ensures post)
    (wide : limit ≤ wider) : (outcome.widen wide).Ensures post :=
  ensures

theorem Delivers.widen {outcome : Outcome Result limit} {result : Result}
    {lexemes : List Lexeme} {last : Lexer}
    (delivers : outcome.Delivers result lexemes last)
    (wide : limit ≤ wider) :
    (outcome.widen wide).Delivers result lexemes last :=
  delivers

theorem ensures_ok {result : Result} {rest : TokenStream}
    {fits : rest.weight ≤ limit} {post : Result → TokenStream → Prop}
    (holds : post result rest) :
    (⟨.ok result, rest, fits⟩ : Outcome Result limit).Ensures post := by
  intro _ answers
  rcases Except.ok.inj answers with rfl
  exact holds

theorem Ensures.map {outcome : Outcome Result limit}
    {change : Result → Next} {post : Next → TokenStream → Prop}
    (ensures : outcome.Ensures fun result rest => post (change result) rest) :
    (outcome.map change).Ensures post := by
  intro next answers
  cases found : outcome.answer with
  | ok result =>
      simp only [Outcome.map, found, Except.map, Except.ok.injEq] at answers
      exact answers ▸ ensures result found
  | error error => simp [Outcome.map, found, Except.map] at answers

theorem Delivers.map {outcome : Outcome Result limit} {change : Result → Next}
    {result : Result} {lexemes : List Lexeme} {last : Lexer}
    (delivers : outcome.Delivers result lexemes last) :
    (outcome.map change).Delivers (change result) lexemes last :=
  ⟨by simp [Outcome.map, delivers.1, Except.map], delivers.2⟩

theorem Ensures.andThen {outcome : Outcome Result limit}
    {proceed : Result → (rest : TokenStream) → rest.weight ≤ limit →
      Outcome Next limit}
    {middle : Result → TokenStream → Prop}
    {post : Next → TokenStream → Prop}
    (ensures : outcome.Ensures middle)
    (later : ∀ result rest fits, middle result rest →
      (proceed result rest fits).Ensures post) :
    (outcome.andThen proceed).Ensures post := by
  cases found : outcome.answer with
  | ok result =>
      simpa only [Outcome.andThen, found] using
        later result _ outcome.rest_le (ensures result found)
  | error error =>
      intro next answers
      simp [Outcome.andThen, found] at answers

theorem Delivers.andThen {outcome : Outcome Result limit}
    {proceed : Result → (rest : TokenStream) → rest.weight ≤ limit →
      Outcome Next limit}
    {result : Result} {next : Next} {lexemes rest : List Lexeme}
    {middle last : Lexer}
    (delivers : outcome.Delivers result lexemes middle)
    (later : ∀ stream fits, stream.Offers lexemes middle →
      (proceed result stream fits).Delivers next rest last) :
    (outcome.andThen proceed).Delivers next rest last := by
  simpa only [Outcome.andThen, delivers.1] using
    later _ outcome.rest_le delivers.2

end Outcome

namespace TokenStream

variable {Result : Type} {start rest : TokenStream} {token : Token}
  {limit : Nat}

theorem ensures_failThen {cause : SyntaxError.Cause}
    {fits : rest.weight ≤ limit} {post : Result → TokenStream → Prop} :
    (rest.failThen token cause fits : Outcome Result limit).Ensures post :=
  fun _ answers => nomatch answers

theorem ensures_readThen
    {proceed : (token : Token) → (rest : TokenStream) →
      rest.weight + token.lexeme.cost ≤ start.weight →
      Outcome Result start.weight}
    {post : Result → TokenStream → Prop}
    (later : ∀ token rest spent, start.Passes [token.lexeme] rest →
      (proceed token rest spent).Ensures post) :
    (start.readThen proceed).Ensures post := by
  unfold readThen
  split
  · next token rest read =>
      exact later token rest (weight_next read) (passes_next read)
  · exact fun _ answers => nomatch answers

theorem ensures_handBackThen (consumed : List Lexeme)
    {spent : rest.weight + token.lexeme.cost ≤ limit}
    {proceed : (whole : TokenStream) → whole.weight ≤ limit →
      Outcome Result limit}
    {post : Result → TokenStream → Prop}
    (passed : start.Passes (consumed ++ [token.lexeme]) rest)
    (later : ∀ whole fits, start.Passes consumed whole →
      whole.pending = token.lexeme :: rest.pending →
      (proceed whole fits).Ensures post) :
    (rest.handBackThen token spent proceed).Ensures post := by
  unfold handBackThen
  split
  · next whole returned =>
      exact later whole _ (passes_handBack consumed passed returned)
        (pending_handBack returned)
  · exact fun _ answers => nomatch answers

theorem ensures_peekThen
    {proceed : Token → (same : TokenStream) → same.weight ≤ start.weight →
      Outcome Result start.weight}
    {post : Result → TokenStream → Prop}
    (later : ∀ token same fits, start.Passes [] same →
      (∃ behind, same.pending = token.lexeme :: behind) →
      (proceed token same fits).Ensures post) :
    (start.peekThen proceed).Ensures post :=
  ensures_readThen fun token _ _ passed =>
    ensures_handBackThen [] passed
      fun whole fits passedWhole pending =>
        later token whole fits passedWhole ⟨_, pending⟩

theorem Offers.readThen {lexeme : Lexeme} {lexemes behind : List Lexeme}
    {last after : Lexer} {result : Result}
    {proceed : (token : Token) → (rest : TokenStream) →
      rest.weight + token.lexeme.cost ≤ start.weight →
      Outcome Result start.weight}
    (offers : start.Offers (lexeme :: lexemes) last)
    (later : ∀ token rest spent, token.lexeme = lexeme →
      rest.Offers lexemes last → rest.returned.length < rest.capacity →
      (proceed token rest spent).Delivers result behind after) :
    (start.readThen proceed).Delivers result behind after := by
  rcases offers.next with ⟨token, rest, read, same, offersRest, vacant⟩
  unfold TokenStream.readThen
  split
  · next again =>
      rcases EStateM.Result.ok.inj (read.symm.trans again) with ⟨rfl, rfl⟩
      exact later token rest _ same offersRest vacant
  · next again => cases read.symm.trans again

theorem Offers.handBackThen {lexemes behind : List Lexeme}
    {last after : Lexer} {result : Result}
    {spent : rest.weight + token.lexeme.cost ≤ limit}
    {proceed : (whole : TokenStream) → whole.weight ≤ limit →
      Outcome Result limit}
    (offers : rest.Offers lexemes last)
    (vacant : rest.returned.length < rest.capacity)
    (later : ∀ whole fits, whole.Offers (token.lexeme :: lexemes) last →
      (proceed whole fits).Delivers result behind after) :
    (rest.handBackThen token spent proceed).Delivers result behind after := by
  rcases offers.handBack token vacant with ⟨returned, offersWhole⟩
  unfold TokenStream.handBackThen
  split
  · next again =>
      rcases EStateM.Result.ok.inj (returned.symm.trans again) with ⟨_, rfl⟩
      exact later _ _ offersWhole
  · next again => cases returned.symm.trans again

theorem Offers.peekThen {lexeme : Lexeme} {lexemes behind : List Lexeme}
    {last after : Lexer} {result : Result}
    {proceed : Token → (same : TokenStream) → same.weight ≤ start.weight →
      Outcome Result start.weight}
    (offers : start.Offers (lexeme :: lexemes) last)
    (later : ∀ token same fits, token.lexeme = lexeme →
      same.Offers (lexeme :: lexemes) last →
      (proceed token same fits).Delivers result behind after) :
    (start.peekThen proceed).Delivers result behind after :=
  offers.readThen fun token _ _ same offersRest vacant =>
    offersRest.handBackThen vacant fun whole fits offersWhole =>
      later token whole fits same (same ▸ offersWhole)

end TokenStream

end Whirlwind
