import Whirlwind.Token.Stream

/-!
# Passing over lexemes

What a reader of tokens sees is a sequence of lexemes: first those that were
handed back, then those that the lexer still finds.  Two relations describe it.

`TokenStream.Passes` looks back: between two states of a stream a sequence has
been consumed.  `TokenStream.Offers` looks ahead: a sequence is still to come,
and behind it the lexer stands at a known place.  Reading a token and handing
it back move the border between the two, whatever the buffer holds.
-/

namespace Whirlwind

namespace Lexer

/-- Reading lexemes one after another leads from one lexer to another. -/
inductive Reads : Lexer → List Lexeme → Lexer → Prop where
  | done {lexer : Lexer} : Reads lexer [] lexer
  | read {lexer between after : Lexer} {token : Token}
      {lexemes : List Lexeme}
      (first : lexer.next = .ok token between)
      (later : Reads between lexemes after) :
      Reads lexer (token.lexeme :: lexemes) after

theorem Reads.append {lexer between after : Lexer}
    {front back : List Lexeme}
    (first : Reads lexer front between)
    (second : Reads between back after) :
    Reads lexer (front ++ back) after := by
  induction first with
  | done => exact second
  | read step _ ih => exact .read step (ih second)

/-- The lexer in between, if a sequence is read in two parts. -/
theorem Reads.split {lexer after : Lexer} {front back : List Lexeme}
    (reads : Reads lexer (front ++ back) after) :
    ∃ between, Reads lexer front between ∧ Reads between back after := by
  induction front generalizing lexer with
  | nil => exact ⟨lexer, .done, reads⟩
  | cons lexeme front ih =>
      cases reads with
      | read step later =>
          rcases ih later with ⟨between, first, second⟩
          exact ⟨between, .read step first, second⟩

theorem Reads.single {lexer after : Lexer} {token : Token}
    (step : lexer.next = .ok token after) :
    Reads lexer [token.lexeme] after :=
  .read step .done

/-- A lexer leaves no choice: of two sequences one continues the other. -/
theorem Reads.comparable {lexer first second : Lexer}
    {short long : List Lexeme}
    (readsShort : Reads lexer short first)
    (readsLong : Reads lexer long second)
    (shorter : short.length ≤ long.length) : short <+: long := by
  induction readsShort generalizing long with
  | done => exact List.nil_prefix
  | read step _ ih =>
      cases readsLong with
      | done => simp at shorter
      | read other later =>
          rcases EStateM.Result.ok.inj (step.symm.trans other) with
            ⟨sameToken, sameLexer⟩
          subst sameToken sameLexer
          exact List.cons_prefix_cons.2
            ⟨rfl, ih later (by simpa using shorter)⟩

/-- A lexer leaves no choice where it stands behind what has been read. -/
theorem Reads.deterministic {lexer first second : Lexer}
    {lexemes : List Lexeme} (reads : Reads lexer lexemes first)
    (again : Reads lexer lexemes second) : first = second := by
  induction reads with
  | done =>
      cases again
      rfl
  | read step _ ih =>
      generalize written : _ :: _ = lexemes at again
      cases again with
      | done => cases written
      | read other later =>
          rcases EStateM.Result.ok.inj (step.symm.trans other) with
            ⟨rfl, rfl⟩
          cases written
          exact ih later

/-- The lexemes up to the first finishing one are determined by the lexer. -/
theorem Reads.unique_of_finish {lexer first second : Lexer}
    {one other : List Lexeme}
    (readsOne : Reads lexer (one ++ [.finish]) first)
    (readsOther : Reads lexer (other ++ [.finish]) second)
    (endless : .finish ∉ one) (otherEndless : .finish ∉ other) :
    one = other := by
  have decided : ∀ {short long : List Lexeme}, .finish ∉ long →
      short ++ [.finish] <+: long ++ [.finish] → short = long := by
    intro short long absent front
    rcases List.prefix_concat_iff.1 front with same | inside
    · exact List.append_cancel_right same
    · exact absurd (inside.subset (by simp)) absent
  rcases Nat.le_total one.length other.length with shorter | longer
  · exact decided otherEndless
      (readsOne.comparable readsOther (by simpa using shorter))
  · exact (decided endless
      (readsOther.comparable readsOne (by simpa using longer))).symm

/--
The tokens that a lexer finds before the finishing one, and the error that
ends them early, if there is one.
-/
def tokens (lexer : Lexer) : List Token × Option SyntaxError :=
  match _read : lexer.next with
  | .ok token after =>
      if _finishes : token.isFinish then ([], none)
      else (token :: after.tokens.1, after.tokens.2)
  | .error error _ => ([], some error)
  termination_by lexer.weight
  decreasing_by
    all_goals
      have spent := weight_next _read
      have costs : token.lexeme.cost = 1 := by
        cases found : token.lexeme with
        | finish => simp [Token.isFinish, found] at _finishes
        | _ => rfl
      omega

theorem tokens_of_finish {lexer after : Lexer} {token : Token}
    (read : lexer.next = .ok token after) (finishes : token.lexeme = .finish) :
    lexer.tokens = ([], none) := by
  rw [tokens]
  split
  · next again =>
    rcases EStateM.Result.ok.inj (read.symm.trans again) with ⟨rfl, rfl⟩
    simp [Token.isFinish, finishes]
  · next again => cases read.symm.trans again

theorem tokens_of_ok {lexer after : Lexer} {token : Token}
    (read : lexer.next = .ok token after) (goesOn : token.lexeme ≠ .finish) :
    lexer.tokens = (token :: after.tokens.1, after.tokens.2) := by
  rw [tokens]
  split
  · next again =>
    rcases EStateM.Result.ok.inj (read.symm.trans again) with ⟨rfl, rfl⟩
    simp [Token.isFinish, goesOn]
  · next again => cases read.symm.trans again

theorem tokens_of_error {lexer after : Lexer} {error : SyntaxError}
    (read : lexer.next = .error error after) :
    lexer.tokens = ([], some error) := by
  rw [tokens]
  split
  · next again => cases read.symm.trans again
  · next again =>
    rcases EStateM.Result.error.inj (read.symm.trans again) with ⟨rfl, _⟩
    rfl

/-- What a lexer without errors finds is read up to the finishing token. -/
theorem reads_of_tokens {lexer : Lexer} {found : List Token}
    (tokenized : lexer.tokens = (found, none)) :
    .finish ∉ found.map Token.lexeme ∧
      ∃ after, lexer.Reads (found.map Token.lexeme ++ [.finish]) after := by
  fun_induction tokens lexer generalizing found with
  | case1 lexer token after step finishes =>
      rcases Prod.mk.inj tokenized with ⟨rfl, -⟩
      have lexeme : token.lexeme = .finish := by
        simpa [Token.isFinish] using finishes
      exact ⟨by simp, after, lexeme ▸ Reads.single step⟩
  | case2 lexer token after step finishes ih =>
      rcases Prod.mk.inj tokenized with ⟨rfl, noError⟩
      rcases ih (Prod.ext rfl noError) with ⟨absent, last, reads⟩
      refine ⟨?_, last, .read step reads⟩
      simpa [Token.isFinish, eq_comm, absent] using finishes
  | case3 => cases tokenized

/-- What is read up to the end are the tokens of a text without errors. -/
theorem exists_tokens_of_reads {lexer after : Lexer} {lexemes : List Lexeme}
    (reads : lexer.Reads (lexemes ++ [.finish]) after)
    (endless : .finish ∉ lexemes) :
    ∃ tokens, lexer.tokens = (tokens, none) ∧
      tokens.map Token.lexeme = lexemes := by
  generalize written : lexemes ++ [.finish] = all at reads
  induction reads generalizing lexemes with
  | done => simp at written
  | @read _ _ _ token _ first _ ih =>
      cases lexemes with
      | nil =>
          have finishes := (List.cons.inj written).1.symm
          exact ⟨[], tokens_of_finish first finishes, rfl⟩
      | cons lexeme lexemes =>
          rcases List.cons.inj written with ⟨rfl, rest⟩
          rw [List.mem_cons, not_or] at endless
          rcases ih endless.2 rest with ⟨tokens, read, rfl⟩
          refine ⟨token :: tokens, ?_, rfl⟩
          rw [tokens_of_ok first (Ne.symm endless.1), read]

end Lexer

namespace TokenStream

/-- The lexemes that were handed back, the next one first. -/
def pending (stream : TokenStream) : List Lexeme :=
  stream.returned.map Token.lexeme

/-- Between two states of a stream a sequence of lexemes has been consumed. -/
def Passes (start : TokenStream) (consumed : List Lexeme)
    (after : TokenStream) : Prop :=
  ∃ fresh, start.lexer.Reads fresh after.lexer ∧
    start.pending ++ fresh = consumed ++ after.pending

theorem Passes.refl (stream : TokenStream) : stream.Passes [] stream :=
  ⟨[], .done, by simp⟩

theorem Passes.trans {start between after : TokenStream}
    {front back : List Lexeme}
    (first : start.Passes front between)
    (second : between.Passes back after) :
    start.Passes (front ++ back) after := by
  rcases first with ⟨freshFirst, readsFirst, sameFirst⟩
  rcases second with ⟨freshSecond, readsSecond, sameSecond⟩
  refine ⟨freshFirst ++ freshSecond, readsFirst.append readsSecond, ?_⟩
  calc
    start.pending ++ (freshFirst ++ freshSecond) =
        front ++ (between.pending ++ freshSecond) := by
      rw [← List.append_assoc, sameFirst, List.append_assoc]
    _ = front ++ back ++ after.pending := by
      rw [sameSecond, List.append_assoc]

theorem passes_next {stream after : TokenStream} {token : Token}
    (read : stream.next = .ok token after) :
    stream.Passes [token.lexeme] after := by
  simp only [next] at read
  split at read
  · next rest returned =>
      rcases EStateM.Result.ok.inj read with ⟨rfl, rfl⟩
      exact ⟨[], .done, by simp [pending, returned]⟩
  · next returned =>
      split at read
      · next lexed =>
          rcases EStateM.Result.ok.inj read with ⟨rfl, rfl⟩
          exact ⟨_, .single lexed, by simp [pending, returned]⟩
      · cases read

/-- Handing back the token that was read undoes the reading. -/
theorem passes_handBack {start stream after : TokenStream} {token : Token}
    {done : PUnit} (consumed : List Lexeme)
    (passed : start.Passes (consumed ++ [token.lexeme]) stream)
    (returned : stream.handBack token = .ok done after) :
    start.Passes consumed after := by
  simp only [handBack] at returned
  split at returned
  · rcases EStateM.Result.ok.inj returned with ⟨_, rfl⟩
    rcases passed with ⟨fresh, reads, same⟩
    exact ⟨fresh, reads, by simpa [pending] using same⟩
  · cases returned

theorem pending_handBack {stream after : TokenStream} {token : Token}
    {done : PUnit} (returned : stream.handBack token = .ok done after) :
    after.pending = token.lexeme :: stream.pending := by
  simp only [handBack] at returned
  split at returned
  · rcases EStateM.Result.ok.inj returned with ⟨_, rfl⟩
    rfl
  · cases returned

/-- Nothing that was handed back is left to read. -/
structure Idle (stream : TokenStream) : Prop where
  room : 0 < stream.capacity
  returned : stream.returned = []

/-- At most one token was handed back, as where one token is looked ahead. -/
structure Ready (stream : TokenStream) : Prop where
  room : 0 < stream.capacity
  returned : stream.returned.length ≤ 1

theorem idle_ofText (text : String) (firstLine : Nat) (grammar : Grammar) :
    (ofText text firstLine grammar).Idle :=
  ⟨Nat.succ_pos 3, rfl⟩

theorem Idle.ready {stream : TokenStream} (idle : stream.Idle) :
    stream.Ready :=
  ⟨idle.room, by simp [idle.returned]⟩

theorem Ready.next {stream after : TokenStream} {token : Token}
    (ready : stream.Ready) (read : stream.next = .ok token after) :
    after.Idle := by
  have few := ready.returned
  simp only [TokenStream.next] at read
  split at read
  · next rest returned =>
    rcases EStateM.Result.ok.inj read with ⟨rfl, rfl⟩
    exact ⟨ready.room, by simpa [returned] using few⟩
  · next returned =>
    split at read
    · rcases EStateM.Result.ok.inj read with ⟨rfl, rfl⟩
      exact ⟨ready.room, returned⟩
    · cases read

theorem Idle.handBack {stream after : TokenStream} {token : Token}
    {done : PUnit} (idle : stream.Idle)
    (returned : stream.handBack token = .ok done after) : after.Ready := by
  simp only [TokenStream.handBack] at returned
  split at returned
  · rcases EStateM.Result.ok.inj returned with ⟨_, rfl⟩
    exact ⟨idle.room, by simp [idle.returned]⟩
  · cases returned

/-- Between two states with nothing handed back the lexer reads all. -/
theorem Idle.reads {start after : TokenStream} {consumed : List Lexeme}
    (idle : start.Idle) (idleAfter : after.Idle)
    (passed : start.Passes consumed after) :
    start.lexer.Reads consumed after.lexer := by
  rcases passed with ⟨fresh, reads, same⟩
  simp only [pending, idle.returned, idleAfter.returned, List.map_nil,
    List.nil_append, List.append_nil] at same
  exact same ▸ reads

/-- What has been consumed is read first where nothing was handed back. -/
theorem Idle.exists_reads {start after : TokenStream}
    {consumed : List Lexeme} (idle : start.Idle)
    (passed : start.Passes consumed after) :
    ∃ between, start.lexer.Reads consumed between := by
  rcases passed with ⟨fresh, reads, same⟩
  simp only [pending, idle.returned, List.map_nil, List.nil_append] at same
  rcases (same ▸ reads).split with ⟨between, front, _⟩
  exact ⟨between, front⟩

/--
A sequence of lexemes is still to come, and behind it the lexer stands at a
given place.
-/
structure Offers (stream : TokenStream) (lexemes : List Lexeme)
    (last : Lexer) : Prop where
  room : 0 < stream.capacity
  fits : stream.returned.length ≤ stream.capacity
  reads : ∃ fresh, stream.lexer.Reads fresh last ∧
    stream.pending ++ fresh = lexemes

theorem Idle.offers {stream : TokenStream} {lexemes : List Lexeme}
    {last : Lexer} (idle : stream.Idle)
    (reads : stream.lexer.Reads lexemes last) : stream.Offers lexemes last :=
  ⟨idle.room, by simp [idle.returned], lexemes, reads,
    by simp [pending, idle.returned]⟩

theorem offers_ofText {text : String} {firstLine : Nat} {grammar : Grammar}
    {lexemes : List Lexeme} {last : Lexer}
    (reads : (Lexer.ofText text firstLine grammar).Reads lexemes last) :
    (ofText text firstLine grammar).Offers lexemes last :=
  (idle_ofText text firstLine grammar).offers reads

/-- The next token of an offer is read, and leaves room to hand it back. -/
theorem Offers.next {stream : TokenStream} {lexeme : Lexeme}
    {lexemes : List Lexeme} {last : Lexer}
    (offers : stream.Offers (lexeme :: lexemes) last) :
    ∃ token after, stream.next = .ok token after ∧ token.lexeme = lexeme ∧
      after.Offers lexemes last ∧ after.returned.length < after.capacity := by
  rcases offers with ⟨room, fits, fresh, reads, same⟩
  simp only [TokenStream.next]
  cases returned : stream.returned with
  | cons token rest =>
      simp only [pending, returned, List.map_cons, List.cons_append,
        List.cons.injEq] at same
      simp only [returned, List.length_cons] at fits
      exact ⟨token, _, rfl, same.1,
        ⟨room, Nat.le_of_succ_le fits, fresh, reads, same.2⟩, fits⟩
  | nil =>
      simp only [pending, returned, List.map_nil, List.nil_append] at same
      subst same
      cases reads with
      | read step later =>
          simp only [step]
          exact ⟨_, _, rfl, rfl,
            ⟨room, Nat.zero_le _, lexemes, later, by simp [pending]⟩,
            by simpa [returned] using room⟩

/-- Handing a token back puts its lexeme in front of an offer. -/
theorem Offers.handBack {stream : TokenStream} {lexemes : List Lexeme}
    {last : Lexer} (token : Token) (offers : stream.Offers lexemes last)
    (vacant : stream.returned.length < stream.capacity) :
    stream.handBack token =
        .ok ⟨⟩ { stream with returned := token :: stream.returned } ∧
      ({ stream with returned := token :: stream.returned } :
        TokenStream).Offers (token.lexeme :: lexemes) last := by
  rcases offers with ⟨room, _, fresh, reads, same⟩
  refine ⟨if_pos vacant, room, vacant, fresh, reads, ?_⟩
  simp [← same, pending]

end TokenStream

end Whirlwind
