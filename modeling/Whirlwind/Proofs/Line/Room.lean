import Whirlwind.Proofs.Line.Simulation

/-!
# Room for tokens handed back

What reads a stream hands a token back only right after it has read one.  So
there are never more tokens handed back than one, or than there were at first,
and the stream does not run out of room.  This is said of a stream with room
for just so many tokens: handing back one more would fail there, but all goes as
it does on the stream with more room.
-/

namespace Whirlwind

open TokenStream

/-- A stream with room for a given number of tokens to be handed back. -/
def TokenStream.withRoom (stream : TokenStream) (room : Nat) : TokenStream :=
  { stream with capacity := room }

/--
At no moment of an action are more than `limit` tokens handed back.  With room
for no more than these, where handing back another one would fail, the action
does what it does on the stream as it is, and no room is missing.
-/
inductive Reading.HoldsAtMost {Result : Type} (limit : Nat)
    (action : Reading Result) (stream : TokenStream) : Prop
  | ok {result : Result} {last : TokenStream}
      (run : action stream = .ok result last)
      (tight : action (stream.withRoom limit) =
        .ok result (last.withRoom limit))
      (few : last.returned.length ≤ limit)
  | error {error : ParseError} {last : TokenStream}
      (run : action stream = .error error last)
      (tight : action (stream.withRoom limit) =
        .error error (last.withRoom limit))
      (few : last.returned.length ≤ limit)
      (room : ∀ capacity, error ≠ .noRoom capacity)

/-- Streams that are the same but for the room, of which both have enough. -/
def roomAgreement (limit : Nat) : Agreement where
  Agrees stream twin := twin = stream.withRoom limit ∧
    stream.returned.length ≤ limit ∧ limit ≤ stream.capacity
  Behind _ rest other := other = rest.withRoom limit ∧
    rest.returned.length < limit ∧ limit ≤ rest.capacity
  Admits error := ∀ capacity, error ≠ .noRoom capacity

/-- Behind a token that was read there is room to hand it back. -/
theorem roomAgreement_alike_next {limit : Nat} (visible : 0 < limit)
    {start twin : TokenStream} (agrees : (roomAgreement limit).Agrees start twin) :
    (roomAgreement limit).Alike (roomAgreement limit).Behind start.next
      twin.next := by
  rcases agrees with ⟨rfl, few, enough⟩
  unfold TokenStream.next
  cases returned : start.returned with
  | cons token rest =>
      simp only [TokenStream.withRoom, returned]
      rw [returned, List.length_cons] at few
      exact .ok ⟨rfl, few, enough⟩
  | nil =>
      simp only [TokenStream.withRoom, returned]
      cases start.lexer.next with
      | ok token lexer =>
          exact .ok ⟨rfl, visible, enough⟩
      | error error lexer =>
          exact .error nofun ⟨rfl, Nat.zero_le _, enough⟩

/-- Room for one token, or for those that are handed back, is enough. -/
def roomSimulation {limit : Nat} (visible : 0 < limit) : LineSimulation where
  toAgreement := roomAgreement limit
  agrees_of_behind behind := ⟨behind.1, Nat.le_of_lt behind.2.1, behind.2.2⟩
  alike_next := roomAgreement_alike_next visible
  vacant := by
    intro token rest other behind
    rcases behind with ⟨rfl, few, enough⟩
    exact ⟨Nat.lt_of_lt_of_le few enough, few⟩
  agrees_holding := by
    intro token rest other behind
    rcases behind with ⟨rfl, few, enough⟩
    exact ⟨rfl, few, enough⟩
  admits_errorAt := by
    intro token rest other cause behind _
    rcases behind with ⟨rfl, _⟩
    exact ⟨rfl, nofun⟩
  hasReturned_eq := by
    intro start twin agrees
    rcases agrees with ⟨rfl, _⟩
    rfl
  respects_restOfLine := by
    intro token rest other behind _ _
    rcases behind with ⟨rfl, few, enough⟩
    exact .ok ⟨rfl, Nat.le_of_lt few, enough⟩

theorem Simulation.Respects.holdsAtMost {Result : Type} {limit : Nat}
    {visible : 0 < limit} {action : Reading Result} {stream : TokenStream}
    (respects : (roomSimulation visible).Respects action
      (fun _ => (roomSimulation visible).Agrees) stream
      (stream.withRoom limit)) :
    action.HoldsAtMost limit stream := by
  unfold Simulation.Respects at respects
  generalize run : action stream = one at respects
  generalize tight : action (stream.withRoom limit) = twin at respects
  cases respects with
  | ok agrees =>
      rcases agrees with ⟨rfl, few, _⟩
      exact .ok run tight few
  | error admits agrees =>
      rcases agrees with ⟨rfl, few, _⟩
      exact .error run tight few admits

theorem roomAgreement_agrees {limit : Nat} {stream : TokenStream}
    (few : stream.returned.length ≤ limit) (enough : limit ≤ stream.capacity) :
    (roomAgreement limit).Agrees stream (stream.withRoom limit) :=
  ⟨rfl, few, enough⟩

namespace TokenStream

theorem line_holdsAtMost (text : String) (lineNumber : Nat)
    (grammar : Grammar) (record : Line) :
    (line grammar record).HoldsAtMost 1 (ofText text lineNumber grammar) := by
  have agrees : ∀ stream : TokenStream, stream.returned = [] →
      stream.capacity = 4 →
      (roomSimulation Nat.one_pos).Agrees stream (stream.withRoom 1) := by
    intro stream nothing room
    exact roomAgreement_agrees (by simp [nothing]) (by simp [room])
  refine (LineSimulation.respects_line grammar record (agrees _ rfl rfl)
    ?_).holdsAtMost
  exact .ok (agrees _ rfl rfl)

/--
Reading on from a stream with some tokens handed back never holds more of them,
or one if there are none; and reading a line of a text never holds more than
one.  So no line is left unread for want of room.
-/
theorem holdsAtMost_of_room :
    (∀ stream : TokenStream,
      max 1 stream.returned.length ≤ stream.capacity →
      peek.HoldsAtMost (max 1 stream.returned.length) stream ∧
        atom.HoldsAtMost (max 1 stream.returned.length) stream ∧
        expression.HoldsAtMost (max 1 stream.returned.length) stream ∧
        completeExpression.HoldsAtMost (max 1 stream.returned.length)
          stream ∧
        statements.HoldsAtMost (max 1 stream.returned.length) stream) ∧
    ∀ (text : String) (lineNumber : Nat) (grammar : Grammar),
      (∀ record : Line, (line grammar record).HoldsAtMost 1
        (ofText text lineNumber grammar)) ∧
      ∀ capacity : Nat,
        Line.parse text lineNumber grammar ≠ .error (.noRoom capacity) := by
  constructor
  · intro stream enough
    have visible : 0 < max 1 stream.returned.length := by omega
    have agrees : (roomSimulation visible).Agrees stream
        (stream.withRoom (max 1 stream.returned.length)) :=
      roomAgreement_agrees (Nat.le_max_right 1 _) enough
    exact ⟨(Simulation.respects_peek agrees).holdsAtMost,
      (Simulation.respects_atom agrees).holdsAtMost,
      (Simulation.respects_expression agrees).holdsAtMost,
      (Simulation.respects_completeExpression agrees).holdsAtMost,
      (Simulation.respects_statements agrees).holdsAtMost⟩
  · intro text lineNumber grammar
    have held := line_holdsAtMost text lineNumber grammar
    refine ⟨held, fun capacity failed => ?_⟩
    unfold Line.parse Reading.answer EStateM.run at failed
    cases held _ with
    | ok run =>
        rw [run] at failed
        cases failed
    | error run _ _ room =>
        rw [run] at failed
        exact room capacity (Except.error.inj failed)

/-- Statements read with a name and an operator handed back in front of them. -/
theorem holdsAtMost_of_room_held :
    ∃ stream : TokenStream, stream.returned.length = 2 ∧
      max 1 stream.returned.length ≤ stream.capacity ∧
      statements.HoldsAtMost 2 stream := by
  let stream : TokenStream :=
    { ofText "(-);b" 1 .expression with
      returned := [⟨.identifier "a", ⟨1, 0⟩⟩, ⟨.operator (.mark '-'), ⟨1, 1⟩⟩] }
  have enough : max 1 stream.returned.length ≤ stream.capacity := by decide
  exact ⟨stream, rfl, enough,
    (holdsAtMost_of_room.1 stream enough).2.2.2.2⟩

end TokenStream

end Whirlwind
