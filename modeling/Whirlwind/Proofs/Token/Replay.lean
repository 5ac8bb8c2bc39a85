import Whirlwind.Proofs.Token.Finding
import Whirlwind.Proofs.Token.Simulation

/-!
# Tokens by index

Reading a token, looking at it and handing it back move along the tokens of a
text as an index moves along an array: the tokens that are handed back are those
between the index and the place where the lexer stands (`TokenStream.IsAt`).  At
the end of the text the lexer finds the same token again and again
(`Lexer.next_of_finish`), so the index can move on behind the end.
-/

namespace Whirlwind

namespace Cursor

variable {cursor : Cursor}

theorem settle_of_ended (none_left : cursor.unread = []) :
    cursor.settle = cursor := by
  unfold settle
  split
  · next more => simp [none_left] at more
  · rfl

/-- At the end of a text there is nothing to skip. -/
theorem skipWhile_of_ended (test : Char → Bool) (none_ahead : cursor.ahead = [])
    (none_left : cursor.unread = []) : cursor.skipWhile test = cursor := by
  have nothing : cursor.skip [] = cursor := rfl
  rw [skipWhile, none_ahead, List.takeWhile_nil, nothing]
  split
  · next more => simp [none_left] at more
  · rfl

end Cursor

namespace Lexer

variable {lexer after : Lexer} {token finish : Token} {ahead : List Token}

/-- The finishing token is found again, and the lexer does not move on. -/
theorem next_of_finish (read : lexer.next = .ok finish after)
    (ends : finish.lexeme = .finish) : after.next = .ok finish after := by
  rcases eq_finish read ends with ⟨rfl, mode, none_ahead, none_left⟩
  have same : ({ after with mode := .start } : Lexer) = after := by
    rw [← mode]
  simp only [next, modeAt, mode, Cursor.settle_of_ended none_left,
    Cursor.skipWhile_of_ended _ none_ahead none_left, none_ahead, same]

/-- A lexer reads tokens one behind the other, and then the finishing one. -/
inductive Lists (finish : Token) : Lexer → List Token → Prop
  | finish {lexer after : Lexer} (read : lexer.next = .ok finish after)
      (ends : finish.lexeme = .finish) : Lists finish lexer []
  | token {lexer after : Lexer} {token : Token} {ahead : List Token}
      (read : lexer.next = .ok token after)
      (later : Lists finish after ahead) : Lists finish lexer (token :: ahead)

theorem Lists.next (lists : lexer.Lists finish ahead) :
    ∃ after, lexer.next = .ok (ahead.head?.getD finish) after ∧
      after.Lists finish ahead.tail := by
  cases lists with
  | finish read ends => exact ⟨_, read, .finish (next_of_finish read ends) ends⟩
  | token read later => exact ⟨_, read, later⟩

theorem exists_lists {tokens : List Token}
    (tokenized : lexer.tokens = (tokens, none)) :
    ∃ finish : Token, finish.lexeme = .finish ∧ lexer.Lists finish tokens := by
  fun_induction Lexer.tokens lexer generalizing tokens with
  | case1 lexer token after read finishes =>
      rcases Prod.mk.inj tokenized with ⟨rfl, -⟩
      have ends : token.lexeme = .finish := by
        simpa [Token.isFinish] using finishes
      exact ⟨token, ends, .finish read ends⟩
  | case2 lexer token after read _ ih =>
      rcases Prod.mk.inj tokenized with ⟨rfl, sound⟩
      rcases ih (Prod.ext rfl sound) with ⟨finish, ends, lists⟩
      exact ⟨finish, ends, .token read lists⟩
  | case3 => cases tokenized

end Lexer

namespace TokenStream

/-- What a reader of a stream can ask of it. -/
inductive Call where
  | next
  | peek
  /-- Hand back the last token that was read and not handed back since. -/
  | handBack
  deriving DecidableEq, Repr

/--
Call a stream again and again, and answer with what is read and looked at.  The
tokens that can be handed back are kept, the latest first.
-/
def replay (consumed : List Token) : List Call → Reading (List Token)
  | [] => return []
  | .next :: calls => do
      let token ← next
      return token :: (← replay (token :: consumed) calls)
  | .peek :: calls => do
      let token ← peek
      return token :: (← replay consumed calls)
  | .handBack :: calls =>
      match consumed with
      | [] => replay [] calls
      | token :: earlier => do
          handBack token
          replay earlier calls

namespace Call

/-- What calls answer if tokens are looked up at an index that moves along. -/
def indexed (tokenAt : Nat → Token) (index : Nat) : List Call → List Token
  | [] => []
  | .next :: calls => tokenAt index :: indexed tokenAt (index + 1) calls
  | .peek :: calls => tokenAt index :: indexed tokenAt index calls
  | .handBack :: calls => indexed tokenAt (index - 1) calls

/-- No more tokens are handed back than have been read. -/
def Balanced : Nat → List Call → Prop
  | _, [] => True
  | index, .next :: calls => Balanced (index + 1) calls
  | index, .peek :: calls => Balanced index calls
  | 0, .handBack :: _ => False
  | index + 1, .handBack :: calls => Balanced index calls

/-- The most tokens that are handed back at a moment and not read again. -/
def mostHeld (held : Nat) : List Call → Nat
  | [] => held
  | .next :: calls => max held (mostHeld (held - 1) calls)
  | .peek :: calls => mostHeld (max 1 held) calls
  | .handBack :: calls => mostHeld (held + 1) calls

theorem le_mostHeld (held : Nat) (calls : List Call) :
    held ≤ mostHeld held calls := by
  induction calls generalizing held with
  | nil => exact Nat.le_refl held
  | cons call calls ih =>
      cases call with
      | next => exact Nat.le_max_left _ _
      | peek => exact Nat.le_trans (Nat.le_max_right 1 held) (ih _)
      | handBack => exact Nat.le_trans (Nat.le_succ held) (ih _)

end Call

/-- The token at an index, which behind the end is the finishing one. -/
def tokenAt (tokens : List Token) (finish : Token) (index : Nat) : Token :=
  tokens.getD index finish

/--
A stream is at an index of its tokens: those that are handed back stand there,
and those that the lexer reads stand behind them.
-/
structure IsAt (stream : TokenStream) (tokens : List Token) (finish : Token)
    (index held : Nat) : Prop where
  returned : stream.returned =
    (List.range' index held).map (tokenAt tokens finish)
  lexer : stream.lexer.Lists finish (tokens.drop (index + held))

variable {stream : TokenStream} {tokens consumed : List Token} {finish : Token}
  {index held : Nat} {calls : List Call}

theorem IsAt.length_returned
    (place : stream.IsAt tokens finish index held) :
    stream.returned.length = held := by
  rw [place.returned]
  simp

/-- Reading answers with the token at the index, which moves forward. -/
theorem IsAt.next (place : stream.IsAt tokens finish index held) :
    ∃ after, stream.next = .ok (tokenAt tokens finish index) after ∧
      after.IsAt tokens finish (index + 1) (held - 1) ∧
      after.capacity = stream.capacity := by
  have returned := place.returned
  unfold TokenStream.next
  cases held with
  | zero =>
      rcases place.lexer.next with ⟨after, read, lists⟩
      rw [Nat.add_zero, List.head?_drop] at read
      rw [Nat.add_zero, List.tail_drop] at lists
      rw [List.range'_zero, List.map_nil] at returned
      refine ⟨{ stream with lexer := after }, ?_, ⟨returned, lists⟩, rfl⟩
      simp only [returned, read, tokenAt, List.getD_eq_getElem?_getD]
  | succ held =>
      rw [List.range'_succ, List.map_cons] at returned
      refine ⟨{ stream with
        returned := (List.range' (index + 1) held).map (tokenAt tokens finish) },
        ?_, ⟨rfl, ?_⟩, rfl⟩
      · simp only [returned]
      · have lists := place.lexer
        rwa [← Nat.add_assoc, Nat.add_right_comm] at lists

/-- Handing back the token in front of the index moves the index there. -/
theorem IsAt.holding (place : stream.IsAt tokens finish (index + 1) held) :
    (stream.holding (tokenAt tokens finish index)).IsAt tokens finish index
      (held + 1) := by
  refine ⟨?_, ?_⟩
  · rw [List.range'_succ, List.map_cons, ← place.returned]
    rfl
  · have lists := place.lexer
    rwa [Nat.add_right_comm, Nat.add_assoc] at lists

/-- Looking at the token at the index leaves it handed back. -/
theorem IsAt.peek (place : stream.IsAt tokens finish index held)
    (room : max 1 held ≤ stream.capacity) :
    ∃ after, stream.peek = .ok (tokenAt tokens finish index) after ∧
      after.IsAt tokens finish index (max 1 held) ∧
      after.capacity = stream.capacity := by
  rcases place.next with ⟨after, read, placeAfter, same⟩
  have vacant : after.returned.length < after.capacity := by
    rw [placeAfter.length_returned, same]
    omega
  have back := placeAfter.holding
  rw [show held - 1 + 1 = max 1 held by omega] at back
  refine ⟨_, ?_, back, same⟩
  unfold TokenStream.peek
  rw [Reading.bind_of_eq_ok read,
    Reading.bind_of_eq_ok (handBack_of_lt vacant)]
  rfl

/-- What is read first stands in front of all later answers. -/
theorem answer_cons {action : Reading Token} {more : Token → Reading (List Token)}
    {after : TokenStream} {token : Token}
    (run : action stream = .ok token after) :
    Reading.answer (do
        let token ← action
        return token :: (← more token)) stream =
      ((more token).answer after).map (token :: ·) := by
  unfold Reading.answer EStateM.run
  rw [Reading.bind_of_eq_ok run]
  simp only [bind, EStateM.bind]
  cases more token after <;> rfl

theorem answer_replay_handBack {token : Token} :
    (replay (token :: consumed) (.handBack :: calls)).answer stream =
      if stream.returned.length < stream.capacity then
        (replay consumed calls).answer (stream.holding token)
      else .error (.noRoom stream.capacity) := by
  unfold Reading.answer EStateM.run
  by_cases vacant : stream.returned.length < stream.capacity
  · rw [replay, Reading.bind_of_eq_ok (handBack_of_lt vacant), if_pos vacant]
  · simp only [replay, bind, EStateM.bind, handBack, if_neg vacant]

/--
Replaying calls from an index answers as looking the tokens up does, as long as
there is room for the tokens that are handed back.
-/
theorem IsAt.replay_answer (place : stream.IsAt tokens finish index held)
    (room : 0 < stream.capacity) (fits : held ≤ stream.capacity)
    (kept : consumed =
      (List.range index).reverse.map (tokenAt tokens finish))
    (balanced : Call.Balanced index calls) :
    (replay consumed calls).answer stream =
      if Call.mostHeld held calls ≤ stream.capacity then
        .ok (Call.indexed (tokenAt tokens finish) index calls)
      else .error (.noRoom stream.capacity) := by
  induction calls generalizing stream consumed index held with
  | nil =>
      rw [Call.mostHeld, if_pos fits]
      rfl
  | cons call calls ih =>
      cases call with
      | next =>
          rcases place.next with ⟨after, read, placeAfter, same⟩
          have keptAfter : tokenAt tokens finish index :: consumed =
              (List.range (index + 1)).reverse.map (tokenAt tokens finish) := by
            rw [kept, List.range_succ, List.reverse_append]
            rfl
          have later := ih placeAfter (by omega) (by omega) keptAfter balanced
          have enough : Call.mostHeld held (.next :: calls) ≤ stream.capacity ↔
              Call.mostHeld (held - 1) calls ≤ stream.capacity := by
            rw [Call.mostHeld, Nat.max_le]
            exact and_iff_right fits
          rw [replay, answer_cons read, later, same]
          simp only [enough]
          split <;> rfl
      | peek =>
          have enough : max 1 held ≤ stream.capacity := by omega
          rcases place.peek enough with ⟨after, read, placeAfter, same⟩
          have later := ih placeAfter (by omega) (by omega) kept balanced
          rw [replay, answer_cons read, later, same, Call.mostHeld]
          split <;> rfl
      | handBack =>
          cases index with
          | zero => exact balanced.elim
          | succ index =>
              have kept : consumed = tokenAt tokens finish index ::
                  (List.range index).reverse.map (tokenAt tokens finish) := by
                rw [kept, List.range_succ, List.reverse_append]
                rfl
              rw [kept, answer_replay_handBack, place.length_returned]
              split
              · next vacant => exact ih place.holding room vacant rfl balanced
              · next full =>
                have most := Call.le_mostHeld (held + 1) calls
                rw [Call.mostHeld, if_neg (by omega)]

/--
A text without errors is read by index.  Whatever calls are made, as long as
they hand back only what has been read, the answers are the tokens at an index
that reading moves forward and handing back moves back, with one finishing
token behind the end; unless more than four tokens are handed back at a moment,
for which there is no room.
-/
theorem replay_eq_indexed {text : String} {firstLine : Nat} {grammar : Grammar}
    (read : (Lexer.ofText text firstLine grammar).tokens = (tokens, none)) :
    ∃ finish : Token, finish.lexeme = .finish ∧
      ∀ calls, Call.Balanced 0 calls →
        (replay [] calls).answer (ofText text firstLine grammar) =
          if Call.mostHeld 0 calls ≤ 4 then
            .ok (Call.indexed (tokenAt tokens finish) 0 calls)
          else .error (.noRoom 4) := by
  rcases Lexer.exists_lists read with ⟨finish, ends, lists⟩
  refine ⟨finish, ends, fun calls balanced => ?_⟩
  have place : (ofText text firstLine grammar).IsAt tokens finish 0 0 :=
    ⟨rfl, lists⟩
  exact place.replay_answer (by decide : 0 < 4) (Nat.zero_le _) rfl balanced

/-- Reading past the end, handing back four tokens and looking at the first. -/
theorem replay_eq_indexed_held :
    ∃ tokens, (Lexer.ofText "a+b" 1 .expression).tokens = (tokens, none) ∧
      tokens = [⟨.identifier "a", ⟨1, 0⟩⟩, ⟨.operator (.mark '+'), ⟨1, 1⟩⟩,
        ⟨.identifier "b", ⟨1, 2⟩⟩] ∧
      ∃ finish : Token, finish.lexeme = .finish ∧
        Call.Balanced 0 [.next, .next, .next, .next, .next, .handBack,
          .handBack, .handBack, .handBack, .peek] ∧
        (replay [] [.next, .next, .next, .next, .next, .handBack, .handBack,
          .handBack, .handBack, .peek]).answer
            (ofText "a+b" 1 .expression) =
          .ok [⟨.identifier "a", ⟨1, 0⟩⟩, ⟨.operator (.mark '+'), ⟨1, 1⟩⟩,
            ⟨.identifier "b", ⟨1, 2⟩⟩, finish, finish,
            ⟨.operator (.mark '+'), ⟨1, 1⟩⟩] := by
  have read : (Lexer.ofText "a+b" 1 .expression).tokens =
      ([⟨.identifier "a", ⟨1, 0⟩⟩, ⟨.operator (.mark '+'), ⟨1, 1⟩⟩,
        ⟨.identifier "b", ⟨1, 2⟩⟩], none) := by
    decide +kernel
  rcases replay_eq_indexed read with ⟨finish, ends, answers⟩
  exact ⟨_, read, rfl, finish, ends, trivial, answers _ trivial⟩

end TokenStream

end Whirlwind
