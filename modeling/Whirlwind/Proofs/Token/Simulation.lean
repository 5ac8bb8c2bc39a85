import Whirlwind.Proofs.Token.Action

/-!
# Streams in step

An action reads tokens, hands the latest one back and fails because of it, and
does nothing else with a stream.  So it goes alike on two streams if reading
goes alike on both.  A simulation says which streams are in step and which
errors they can run into.  One whose streams are in step with themselves only
is an invariant of all actions.
-/

namespace Whirlwind

/-- A cause is one that can be found in a token with a given lexeme. -/
def SyntaxError.Cause.Blames (lexeme : Lexeme) : SyntaxError.Cause → Prop
  | .illegalCharacter _ | .unterminatedString => False
  | .expectedOperand found | .expectedCommandName found
  | .unexpectedToken found => found = lexeme
  | .emptyParentheses | .unbalancedParentheses | .badPrefixAddress
  | .badSectionOffset _ | .expectedOpname => True

namespace TokenStream

/-- A stream with one more token handed back. -/
def holding (stream : TokenStream) (token : Token) : TokenStream :=
  { stream with returned := token :: stream.returned }

theorem handBack_of_lt {stream : TokenStream} {token : Token}
    (vacant : stream.returned.length < stream.capacity) :
    stream.handBack token = .ok ⟨⟩ (stream.holding token) :=
  if_pos vacant

end TokenStream

/-- Which streams are in step, and which errors they can run into. -/
structure Agreement where
  Agrees : TokenStream → TokenStream → Prop
  /-- Streams in step right behind a token, which can be handed back. -/
  Behind : Token → TokenStream → TokenStream → Prop
  Admits : ParseError → Prop

/--
Two runs of an action end alike: with the same answer, or with the same error
on streams that are in step.
-/
inductive Agreement.Alike (agreement : Agreement) {Result : Type}
    (post : Result → TokenStream → TokenStream → Prop) :
    EStateM.Result ParseError TokenStream Result →
      EStateM.Result ParseError TokenStream Result → Prop
  | ok {result : Result} {rest other : TokenStream}
      (holds : post result rest other) :
      agreement.Alike post (.ok result rest) (.ok result other)
  | error {error : ParseError} {rest other : TokenStream}
      (admits : agreement.Admits error) (agrees : agreement.Agrees rest other) :
      agreement.Alike post (.error error rest) (.error error other)

theorem Agreement.Alike.mono {agreement : Agreement} {Result : Type}
    {post weaker : Result → TokenStream → TokenStream → Prop}
    {one twin : EStateM.Result ParseError TokenStream Result}
    (alike : agreement.Alike post one twin)
    (weakens : ∀ result rest other,
      post result rest other → weaker result rest other) :
    agreement.Alike weaker one twin := by
  cases alike with
  | ok holds => exact .ok (weakens _ _ _ holds)
  | error admits agrees => exact .error admits agrees

/-- An agreement that every step of an action keeps. -/
structure Simulation extends Agreement where
  agrees_of_behind : ∀ {token : Token} {rest other : TokenStream},
    Behind token rest other → Agrees rest other
  alike_next : ∀ {start twin : TokenStream}, Agrees start twin →
    toAgreement.Alike Behind start.next twin.next
  vacant : ∀ {token : Token} {rest other : TokenStream},
    Behind token rest other →
      rest.returned.length < rest.capacity ∧
        other.returned.length < other.capacity
  agrees_holding : ∀ {token : Token} {rest other : TokenStream},
    Behind token rest other →
      Agrees (rest.holding token) (other.holding token)
  admits_errorAt : ∀ {token : Token} {rest other : TokenStream}
    {cause : SyntaxError.Cause}, Behind token rest other →
      cause.Blames token.lexeme →
      other.errorAt token cause = rest.errorAt token cause ∧
        Admits (rest.errorAt token cause)

namespace Simulation

variable (simulation : Simulation)

/-- An action goes alike on two streams. -/
def Respects {Result : Type} (action : Reading Result)
    (post : Result → TokenStream → TokenStream → Prop)
    (start twin : TokenStream) : Prop :=
  simulation.Alike post (action start) (action twin)

variable {simulation} {Result Next : Type} {action : Reading Result}
  {proceed : Result → Reading Next}
  {middle : Result → TokenStream → TokenStream → Prop}
  {post : Next → TokenStream → TokenStream → Prop}
  {start twin rest other : TokenStream} {token : Token}

theorem Respects.bind (first : simulation.Respects action middle start twin)
    (later : ∀ result rest other, middle result rest other →
      simulation.Respects (proceed result) post rest other) :
    simulation.Respects (action >>= proceed) post start twin := by
  unfold Respects at first
  generalize one : action start = run at first
  generalize again : action twin = runTwin at first
  cases first with
  | ok holds =>
      unfold Respects
      rw [Reading.bind_of_eq_ok one, Reading.bind_of_eq_ok again]
      exact later _ _ _ holds
  | error admits agrees =>
      simp only [Respects, Bind.bind, EStateM.bind, one, again]
      exact .error admits agrees

theorem respects_pure {answer : Next} (holds : post answer start twin) :
    simulation.Respects (pure answer) post start twin :=
  .ok holds

theorem respects_next (agrees : simulation.Agrees start twin) :
    simulation.Respects TokenStream.next simulation.Behind start twin :=
  simulation.alike_next agrees

theorem respects_handBack (behind : simulation.Behind token rest other) :
    simulation.Respects (TokenStream.handBack token)
      (fun _ => simulation.Agrees) rest other := by
  rcases simulation.vacant behind with ⟨vacant, vacantOther⟩
  unfold Respects
  rw [TokenStream.handBack_of_lt vacant,
    TokenStream.handBack_of_lt vacantOther]
  exact .ok (simulation.agrees_holding behind)

theorem respects_peek (agrees : simulation.Agrees start twin) :
    simulation.Respects TokenStream.peek (fun _ => simulation.Agrees) start
      twin :=
  (respects_next agrees).bind fun _ _ _ behind =>
    (respects_handBack behind).bind fun _ _ _ agreesBehind =>
      respects_pure agreesBehind

theorem respects_fail {cause : SyntaxError.Cause}
    (behind : simulation.Behind token rest other)
    (blames : cause.Blames token.lexeme) :
    simulation.Respects (TokenStream.fail token cause) post rest other := by
  rcases simulation.admits_errorAt behind blames with ⟨same, admits⟩
  unfold Respects TokenStream.fail
  rw [same]
  exact .error admits (simulation.agrees_of_behind behind)

theorem respects_expectFinish (agrees : simulation.Agrees start twin) :
    simulation.Respects TokenStream.expectFinish
      (fun _ => simulation.Agrees) start twin := by
  refine (respects_next agrees).bind fun token rest other behind => ?_
  split
  · exact respects_pure (simulation.agrees_of_behind behind)
  · exact respects_fail behind rfl

end Simulation

end Whirlwind
