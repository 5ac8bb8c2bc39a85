import Whirlwind.Proofs.Expr.Simulation
import Whirlwind.Proofs.Token.Alphabet

/-!
# One alphabet, one expression

The expression parser sees a notation only through the tokens that it reads.
So a text whose characters are the same to all notations that have words is
the same expression, or the same error, in each of them.
-/

namespace Whirlwind

/-- A stream whose lexer reads on in another notation. -/
def TokenStream.inGrammar (stream : TokenStream) (other : Grammar) :
    TokenStream :=
  { stream with lexer := stream.lexer.inGrammar other }

/-- Streams that are the same but for the notation, which makes no difference. -/
def notationAgreement (other : Grammar) : Agreement where
  Agrees stream twin := twin = stream.inGrammar other ∧
    stream.lexer.Neutral ∧ stream.Ready
  Behind _ rest twin := twin = rest.inGrammar other ∧
    rest.lexer.Neutral ∧ rest.Idle
  Admits _ := True

theorem notationAgreement_alike_next {other : Grammar}
    (otherWords : other.hasRuns = false) {start twin : TokenStream}
    (agrees : (notationAgreement other).Agrees start twin) :
    (notationAgreement other).Alike (notationAgreement other).Behind start.next
      twin.next := by
  rcases agrees with ⟨rfl, neutral, ready⟩
  have few := ready.returned
  unfold TokenStream.next
  cases returned : start.returned with
  | cons token rest =>
      rw [returned, List.length_cons] at few
      simp only [TokenStream.inGrammar, returned]
      exact .ok ⟨rfl, neutral, ready.room, by simpa using few⟩
  | nil =>
      have onward := neutral.next
      simp only [TokenStream.inGrammar, returned,
        neutral.next_inGrammar otherWords]
      cases read : start.lexer.next with
      | ok token lexer =>
          rw [read] at onward
          exact .ok ⟨rfl, onward, ready.room, rfl⟩
      | error error lexer =>
          rw [read] at onward
          exact .error trivial ⟨rfl, onward, ready.room, Nat.zero_le 1⟩

/-- Reading goes alike in two notations on a text that does not tell them apart. -/
def notationSimulation {other : Grammar} (otherWords : other.hasRuns = false) :
    Simulation where
  toAgreement := notationAgreement other
  agrees_of_behind behind := ⟨behind.1, behind.2.1, behind.2.2.ready⟩
  alike_next := notationAgreement_alike_next otherWords
  vacant := by
    intro token rest twin behind
    rcases behind with ⟨rfl, _, idle⟩
    simp [TokenStream.inGrammar, idle.returned, idle.room]
  agrees_holding := by
    intro token rest twin behind
    rcases behind with ⟨rfl, neutral, idle⟩
    exact ⟨rfl, neutral, idle.room,
      by simp [TokenStream.holding, idle.returned]⟩
  admits_errorAt := by
    intro token rest twin cause behind _
    rcases behind with ⟨rfl, _⟩
    exact ⟨rfl, trivial⟩

theorem Simulation.Respects.answer_eq {simulation : Simulation}
    {Result : Type} {action : Reading Result}
    {post : Result → TokenStream → TokenStream → Prop}
    {start twin : TokenStream}
    (respects : simulation.Respects action post start twin) :
    action.answer twin = action.answer start := by
  unfold Respects at respects
  unfold Reading.answer EStateM.run
  generalize action start = one at respects ⊢
  generalize action twin = again at respects ⊢
  cases respects <;> rfl

/--
Notations that have words agree on a text without the characters that are
their own.  Call by call their lexers answer with the same tokens at the same
places, the finishing ones included, and with the same errors; and the text is
the same expression, or has the same error, in both.
-/
theorem Grammar.alike_of_shares {text : String} {one other : Grammar}
    (words : one.hasRuns = false) (otherWords : other.hasRuns = false)
    (shares : Grammar.Shares text.toList) :
    (∀ firstLine count : Nat,
      (Lexer.ofText text firstLine other).answers count =
        (Lexer.ofText text firstLine one).answers count) ∧
    (∀ firstLine : Nat,
      (Lexer.ofText text firstLine other).tokens =
        (Lexer.ofText text firstLine one).tokens) ∧
    Expr.parse text other = Expr.parse text one := by
  have neutral := Lexer.neutral_ofText words shares
  refine ⟨fun firstLine => (neutral firstLine).answers_inGrammar otherWords,
    fun firstLine => (neutral firstLine).tokens_inGrammar otherWords, ?_⟩
  have agrees : (notationSimulation otherWords).Agrees
      (TokenStream.ofText text 1 one) (TokenStream.ofText text 1 other) :=
    ⟨rfl, neutral 1, (TokenStream.idle_ofText text 1 one).ready⟩
  exact (Simulation.respects_completeExpression agrees).answer_eq

/-- A text that is read as assembly, on a tape and by itself. -/
theorem Grammar.alike_of_shares_call :
    Grammar.Shares "f(-a, 0x1F) |\n@12 * \"b\"".toList ∧
      (Lexer.ofText "f(-a, 0x1F) |\n@12 * \"b\"" 7 .expression).tokens =
        (Lexer.ofText "f(-a, 0x1F) |\n@12 * \"b\"" 7 .assembly).tokens ∧
      Expr.parse "f(-a, 0x1F) |\n@12 * \"b\"" .tape =
        Expr.parse "f(-a, 0x1F) |\n@12 * \"b\"" .assembly := by
  have shares : Grammar.Shares "f(-a, 0x1F) |\n@12 * \"b\"".toList := by
    decide +kernel
  exact ⟨shares, (Grammar.alike_of_shares rfl rfl shares).2.1 7,
    (Grammar.alike_of_shares rfl rfl shares).2.2⟩

end Whirlwind
