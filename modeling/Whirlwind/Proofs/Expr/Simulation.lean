import Whirlwind.Expr.Parser
import Whirlwind.Proofs.Token.Simulation

/-!
# Parsing streams in step

On streams that are in step every function of the expression parser finds the
same tree or the same error and leaves streams that are in step again.
-/

namespace Whirlwind

namespace Simulation

open TokenStream

variable {simulation : Simulation} {Result Next : Type}
  {limit limitTwin wider widerTwin : Nat}

/-- Two outcomes are alike and leave streams that are in step. -/
def Matches (simulation : Simulation) (outcome : Outcome Result limit)
    (twin : Outcome Result limitTwin) : Prop :=
  simulation.Alike (fun _ => simulation.Agrees) outcome.toResult twin.toResult

theorem Matches.widen {outcome : Outcome Result limit}
    {twin : Outcome Result limitTwin}
    (outcomes : simulation.Matches outcome twin) (wide : limit ≤ wider)
    (wideTwin : limitTwin ≤ widerTwin) :
    simulation.Matches (outcome.widen wide) (twin.widen wideTwin) :=
  outcomes

theorem matches_ok {result : Result} {rest other : TokenStream}
    {fits : rest.weight ≤ limit} {fitsTwin : other.weight ≤ limitTwin}
    (agrees : simulation.Agrees rest other) :
    simulation.Matches (⟨.ok result, rest, fits⟩ : Outcome Result limit)
      (⟨.ok result, other, fitsTwin⟩ : Outcome Result limitTwin) :=
  .ok agrees

theorem matches_error {error : ParseError} {rest other : TokenStream}
    {fits : rest.weight ≤ limit} {fitsTwin : other.weight ≤ limitTwin}
    (admits : simulation.Admits error)
    (agrees : simulation.Agrees rest other) :
    simulation.Matches (⟨.error error, rest, fits⟩ : Outcome Result limit)
      (⟨.error error, other, fitsTwin⟩ : Outcome Result limitTwin) :=
  .error admits agrees

/-- Outcomes that match are both answers or both errors. -/
theorem Matches.cases {outcome : Outcome Result limit}
    {twin : Outcome Result limitTwin}
    (outcomes : simulation.Matches outcome twin) :
    simulation.Agrees outcome.rest twin.rest ∧
      outcome.answer = twin.answer ∧
      ∀ error, outcome.answer = .error error → simulation.Admits error := by
  unfold Matches Outcome.toResult at outcomes
  rcases outcome with ⟨answer, rest, fits⟩
  rcases twin with ⟨answerTwin, other, fitsTwin⟩
  cases answer with
  | ok result =>
      cases answerTwin with
      | ok resultTwin =>
          cases outcomes with
          | ok agrees => exact ⟨agrees, rfl, nofun⟩
      | error error => cases outcomes
  | error error =>
      cases answerTwin with
      | ok resultTwin => cases outcomes
      | error errorTwin =>
          cases outcomes with
          | error admits agrees =>
              refine ⟨agrees, rfl, fun found same => ?_⟩
              rcases Except.error.inj same with rfl
              exact admits

theorem Matches.andThen {outcome : Outcome Result limit}
    {twin : Outcome Result limitTwin}
    {proceed : Result → (rest : TokenStream) → rest.weight ≤ limit →
      Outcome Next limit}
    {proceedTwin : Result → (other : TokenStream) → other.weight ≤ limitTwin →
      Outcome Next limitTwin}
    (outcomes : simulation.Matches outcome twin)
    (later : ∀ result rest other fits fitsTwin,
      simulation.Agrees rest other →
      simulation.Matches (proceed result rest fits)
        (proceedTwin result other fitsTwin)) :
    simulation.Matches (outcome.andThen proceed) (twin.andThen proceedTwin) := by
  rcases outcomes.cases with ⟨agrees, same, admits⟩
  cases found : outcome.answer with
  | ok result =>
      simp only [Outcome.andThen, ← same, found]
      exact later result _ _ outcome.rest_le twin.rest_le agrees
  | error error =>
      simp only [Outcome.andThen, ← same, found]
      exact matches_error (admits error found) agrees

theorem Matches.map {outcome : Outcome Result limit}
    {twin : Outcome Result limitTwin} {change : Result → Next}
    (outcomes : simulation.Matches outcome twin) :
    simulation.Matches (outcome.map change) (twin.map change) := by
  rcases outcomes.cases with ⟨agrees, same, admits⟩
  cases found : outcome.answer with
  | ok result =>
      simp only [Outcome.map, ← same, found, Except.map]
      exact matches_ok agrees
  | error error =>
      simp only [Outcome.map, ← same, found, Except.map]
      exact matches_error (admits error found) agrees

section

variable {start twin rest other : TokenStream} {token : Token}

theorem matches_failThen {cause : SyntaxError.Cause}
    {fits : rest.weight ≤ limit} {fitsTwin : other.weight ≤ limitTwin}
    (behind : simulation.Behind token rest other)
    (blames : cause.Blames token.lexeme) :
    simulation.Matches
      (rest.failThen token cause fits : Outcome Result limit)
      (other.failThen token cause fitsTwin : Outcome Result limitTwin) := by
  rcases simulation.admits_errorAt behind blames with ⟨same, admits⟩
  unfold failThen
  rw [same]
  exact matches_error admits (simulation.agrees_of_behind behind)

/-- A token that was looked at only is blamed like one that was read. -/
theorem matches_failThen_holding {cause : SyntaxError.Cause}
    {fits : (rest.holding token).weight ≤ limit}
    {fitsTwin : (other.holding token).weight ≤ limitTwin}
    (behind : simulation.Behind token rest other)
    (blames : cause.Blames token.lexeme) :
    simulation.Matches
      ((rest.holding token).failThen token cause fits : Outcome Result limit)
      ((other.holding token).failThen token cause fitsTwin :
        Outcome Result limitTwin) := by
  rcases simulation.admits_errorAt behind blames with ⟨same, admits⟩
  have held : ∀ stream : TokenStream,
      (stream.holding token).errorAt token cause =
        stream.errorAt token cause := fun _ => rfl
  unfold failThen
  rw [held, held, same]
  exact matches_error admits (simulation.agrees_holding behind)

theorem matches_readThen
    {proceed : (token : Token) → (rest : TokenStream) →
      rest.weight + token.lexeme.cost ≤ start.weight →
      Outcome Result start.weight}
    {proceedTwin : (token : Token) → (other : TokenStream) →
      other.weight + token.lexeme.cost ≤ twin.weight →
      Outcome Result twin.weight}
    (agrees : simulation.Agrees start twin)
    (later : ∀ token rest other spent spentTwin,
      simulation.Behind token rest other →
      simulation.Matches (proceed token rest spent)
        (proceedTwin token other spentTwin)) :
    simulation.Matches (start.readThen proceed) (twin.readThen proceedTwin) := by
  have alike := simulation.alike_next agrees
  unfold readThen
  split
  · next token rest read =>
    split
    · next tokenTwin other readTwin =>
      rw [read, readTwin] at alike
      cases alike with
      | ok behind => exact later _ _ _ _ _ behind
    · next readTwin =>
      rw [read, readTwin] at alike
      cases alike
  · next error rest read =>
    split
    · next readTwin =>
      rw [read, readTwin] at alike
      cases alike
    · next readTwin =>
      rw [read, readTwin] at alike
      cases alike with
      | error admits agreesBehind =>
          exact matches_error admits agreesBehind

theorem matches_handBackThen
    {spent : rest.weight + token.lexeme.cost ≤ limit}
    {spentTwin : other.weight + token.lexeme.cost ≤ limitTwin}
    {proceed : (whole : TokenStream) → whole.weight ≤ limit →
      Outcome Result limit}
    {proceedTwin : (whole : TokenStream) → whole.weight ≤ limitTwin →
      Outcome Result limitTwin}
    (behind : simulation.Behind token rest other)
    (later : ∀ fits fitsTwin,
      simulation.Matches (proceed (rest.holding token) fits)
        (proceedTwin (other.holding token) fitsTwin)) :
    simulation.Matches (rest.handBackThen token spent proceed)
      (other.handBackThen token spentTwin proceedTwin) := by
  rcases simulation.vacant behind with ⟨vacant, vacantTwin⟩
  have returned : rest.handBack token = .ok ⟨⟩ (rest.holding token) :=
    handBack_of_lt vacant
  have returnedTwin : other.handBack token = .ok ⟨⟩ (other.holding token) :=
    handBack_of_lt vacantTwin
  unfold handBackThen
  split
  · next whole again =>
    rcases EStateM.Result.ok.inj (returned.symm.trans again) with ⟨_, rfl⟩
    split
    · next wholeTwin againTwin =>
      rcases EStateM.Result.ok.inj (returnedTwin.symm.trans againTwin) with
        ⟨_, rfl⟩
      exact later _ _
    · next againTwin => cases returnedTwin.symm.trans againTwin
  · next again => cases returned.symm.trans again

theorem matches_peekThen
    {proceed : Token → (same : TokenStream) → same.weight ≤ start.weight →
      Outcome Result start.weight}
    {proceedTwin : Token → (same : TokenStream) → same.weight ≤ twin.weight →
      Outcome Result twin.weight}
    (agrees : simulation.Agrees start twin)
    (later : ∀ token rest other fits fitsTwin,
      simulation.Behind token rest other →
      simulation.Matches (proceed token (rest.holding token) fits)
        (proceedTwin token (other.holding token) fitsTwin)) :
    simulation.Matches (start.peekThen proceed) (twin.peekThen proceedTwin) :=
  matches_readThen agrees fun token rest other _ _ behind =>
    matches_handBackThen behind fun fits fitsTwin =>
      later token rest other fits fitsTwin behind

end

/-! ## The functions of the parser -/

/-- A function of the parser goes alike on two streams. -/
def Follows (simulation : Simulation)
    (parse : (start : TokenStream) → Outcome Result start.weight)
    (start : TokenStream) : Prop :=
  ∀ twin, simulation.Agrees start twin →
    simulation.Matches (parse start) (parse twin)

variable {start : TokenStream}

theorem follows_parseLevel {level : Level}
    (operand : simulation.Follows (parseOperand level) start)
    (more : ∀ left rest, rest.weight ≤ start.weight →
      simulation.Follows (parseMore level left) rest) :
    simulation.Follows (parseLevel level) start := by
  intro twin agrees
  rw [parseLevel, parseLevel]
  refine (operand twin agrees).andThen
    fun left rest other fits fitsTwin agreesRest => ?_
  exact (more left rest fits other agreesRest).widen _ _

theorem follows_parseOperand {level : Level}
    (tighter : ∀ next, level.tighter? = some next →
      simulation.Follows (parseLevel next) start)
    (signed : simulation.Follows parseUnary start) :
    simulation.Follows (parseOperand level) start := by
  intro twin agrees
  rw [parseOperand, parseOperand]
  split
  · next next stronger => exact tighter next stronger twin agrees
  · exact signed twin agrees

theorem follows_parseMore {level : Level} {left : Expr}
    (right : ∀ rest, rest.weight < start.weight →
      simulation.Follows (parseLevel level) rest)
    (operand : ∀ rest, rest.weight < start.weight →
      simulation.Follows (parseOperand level) rest)
    (more : ∀ joined rest, rest.weight < start.weight →
      simulation.Follows (parseMore level joined) rest) :
    simulation.Follows (parseMore level left) start := by
  intro twin agrees
  rw [parseMore, parseMore]
  refine matches_readThen agrees
    fun token rest other spent spentTwin behind => ?_
  split
  · exact matches_handBackThen behind fun fits fitsTwin =>
      matches_ok (simulation.agrees_holding behind)
  · next op named =>
    have agreesRest := simulation.agrees_of_behind behind
    have less : rest.weight < start.weight := by
      have := cost_of_operator? named
      omega
    split
    · exact (right rest less other agreesRest).map.widen _ _
    · refine Matches.widen ?_ _ _
      refine (operand rest less other agreesRest).andThen
        fun operand after last fits fitsTwin agreesAfter => ?_
      exact (more _ after (by omega) last agreesAfter).widen _ _

theorem matches_closesNext {twin : TokenStream}
    (agrees : simulation.Agrees start twin) :
    simulation.Matches start.closesNext twin.closesNext :=
  matches_peekThen agrees fun _ _ _ _ _ behind =>
    matches_ok (simulation.agrees_holding behind)

theorem follows_parseUnary
    (application : ∀ whole, whole.weight ≤ start.weight →
      simulation.Follows parseApplication whole)
    (signed : ∀ rest, rest.weight < start.weight →
      simulation.Follows parseUnary rest) :
    simulation.Follows parseUnary start := by
  intro twin agrees
  rw [parseUnary, parseUnary]
  refine matches_readThen agrees
    fun token rest other spent spentTwin behind => ?_
  split
  · exact matches_handBackThen behind fun fits fitsTwin =>
      (application _ fits _ (simulation.agrees_holding behind)).widen _ _
  · next op named =>
    have agreesRest := simulation.agrees_of_behind behind
    have less : rest.weight < start.weight := by
      have := cost_of_ofLexeme? named
      omega
    split
    · refine ((matches_closesNext agreesRest).andThen ?_).widen _ _
      intro closes same last fits fitsTwin agreesSame
      split
      · exact matches_ok agreesSame
      · exact (signed same (by omega) last agreesSame).map.widen _ _
    · exact (signed rest less other agreesRest).map.widen _ _

theorem follows_parseApplication
    (atom : simulation.Follows parseAtom start)
    (group : ∀ rest, rest.weight < start.weight →
      simulation.Follows parseGroup rest) :
    simulation.Follows parseApplication start := by
  intro twin agrees
  rw [parseApplication, parseApplication]
  refine (atom twin agrees).andThen
    fun callee rest other fits fitsTwin agreesRest => Matches.widen ?_ _ _
  refine matches_readThen agreesRest
    fun token after last spent spentTwin behind => ?_
  split
  · next opens =>
    have less : after.weight < start.weight := by
      have := cost_of_isMark opens
      omega
    exact (group after less last
      (simulation.agrees_of_behind behind)).map.widen _ _
  · exact matches_handBackThen behind fun fits fitsTwin =>
      matches_ok (simulation.agrees_holding behind)

theorem follows_parseAtom
    (group : ∀ rest, rest.weight < start.weight →
      simulation.Follows parseGroup rest) :
    simulation.Follows parseAtom start := by
  intro twin agrees
  rw [parseAtom, parseAtom]
  refine matches_readThen agrees
    fun token rest other spent spentTwin behind => ?_
  have agreesRest := simulation.agrees_of_behind behind
  split
  · exact matches_ok agreesRest
  · exact matches_ok agreesRest
  · exact matches_ok agreesRest
  · split
    · next opens =>
      have less : rest.weight < start.weight := by
        have := cost_of_isMark opens
        omega
      exact (group rest less other agreesRest).widen _ _
    · exact matches_failThen behind rfl

theorem follows_parseGroup
    (list : ∀ same, same.weight ≤ start.weight →
      simulation.Follows (parseLevel .comma) same) :
    simulation.Follows parseGroup start := by
  intro twin agrees
  rw [parseGroup, parseGroup]
  refine matches_peekThen agrees
    fun token rest other fits fitsTwin behind => ?_
  split
  · exact matches_failThen_holding behind trivial
  split
  · exact matches_failThen_holding behind trivial
  have agreesSame := simulation.agrees_holding behind
  refine Matches.widen ?_ _ _
  refine (list _ fits _ agreesSame).andThen
    fun inner after last fitsAfter fitsLast agreesAfter => Matches.widen ?_ _ _
  refine matches_readThen agreesAfter
    fun close final finalTwin spent spentTwin behindClose => ?_
  split
  · exact matches_ok (simulation.agrees_of_behind behindClose)
  · exact matches_failThen behindClose trivial

/-- The functions of the parser, where their measures stay below a limit. -/
structure FollowsBelow (simulation : Simulation) (limit : Nat) : Prop where
  level : ∀ level start,
    32 * start.weight + 2 * (9 - level.strength) + 1 < limit →
      simulation.Follows (parseLevel level) start
  operand : ∀ level start,
    32 * start.weight + 2 * (9 - level.strength) < limit →
      simulation.Follows (parseOperand level) start
  more : ∀ level left start, 32 * start.weight < limit →
    simulation.Follows (parseMore level left) start
  signed : ∀ start, 32 * start.weight + 3 < limit →
    simulation.Follows parseUnary start
  application : ∀ start, 32 * start.weight + 2 < limit →
    simulation.Follows parseApplication start
  atom : ∀ start, 32 * start.weight + 1 < limit →
    simulation.Follows parseAtom start
  group : ∀ start, 32 * start.weight + 18 < limit →
    simulation.Follows parseGroup start

/--
Every function of the parser goes alike on streams in step, by induction on
the limit of the measures.
-/
theorem followsBelow (limit : Nat) : simulation.FollowsBelow limit := by
  induction limit with
  | zero => constructor <;> intros <;> omega
  | succ limit ih =>
    constructor
    case level =>
      intro level start below
      refine follows_parseLevel (ih.operand level start (by omega)) ?_
      exact fun left rest fits => ih.more level left rest (by omega)
    case operand =>
      intro level start below
      have bounded := level.strength_le
      refine follows_parseOperand ?_ (ih.signed start (by omega))
      intro next stronger
      have climbs := Level.strength_tighter stronger
      have boundedNext := next.strength_le
      exact ih.level next start (by omega)
    case more =>
      intro level left start below
      refine follows_parseMore ?_ ?_ ?_
      · exact fun rest less => ih.level level rest (by omega)
      · exact fun rest less => ih.operand level rest (by omega)
      · exact fun joined rest less => ih.more level joined rest (by omega)
    case signed =>
      intro start below
      refine follows_parseUnary ?_ ?_
      · exact fun whole fits => ih.application whole (by omega)
      · exact fun rest less => ih.signed rest (by omega)
    case application =>
      intro start below
      refine follows_parseApplication (ih.atom start (by omega)) ?_
      exact fun rest less => ih.group rest (by omega)
    case atom =>
      intro start below
      exact follows_parseAtom fun rest less => ih.group rest (by omega)
    case group =>
      intro start below
      refine follows_parseGroup fun same fits => ih.level .comma same ?_
      simp only [Level.strength]
      omega

theorem follows_level (level : Level) (start : TokenStream) :
    simulation.Follows (parseLevel level) start :=
  (followsBelow _).level level start (Nat.lt_succ_self _)

/-- Reading statements goes alike, by induction on what is still to come. -/
theorem follows_parseStatements (start : TokenStream) :
    simulation.Follows parseStatements start := by
  induction weighed : start.weight using Nat.strongRecOn
    generalizing start with
  | ind weight ih =>
    intro twin agrees
    rw [parseStatements, parseStatements]
    refine matches_readThen agrees
      fun token rest other spent spentTwin behind => ?_
    have agreesRest := simulation.agrees_of_behind behind
    split
    · exact matches_ok agreesRest
    split
    · next separates =>
      have less : rest.weight < weight := by
        have := cost_of_isMark separates
        omega
      exact (ih _ less rest rfl other agreesRest).widen _ _
    refine matches_handBackThen behind fun fits fitsTwin =>
      Matches.widen ?_ _ _
    refine (follows_level .comma _ _
      (simulation.agrees_holding behind)).andThen
      fun statement after last fitsAfter fitsLast agreesAfter =>
        Matches.widen ?_ _ _
    refine matches_readThen agreesAfter
      fun terminator later laterTwin laterSpent twinSpent behindLater => ?_
    have agreesLater := simulation.agrees_of_behind behindLater
    split
    · exact matches_ok agreesLater
    split
    · next separates =>
      have less : later.weight < weight := by
        have := cost_of_isMark separates
        omega
      exact (ih _ less later rfl laterTwin agreesLater).map.widen _ _
    · exact matches_failThen behindLater rfl

/-! ## The actions -/

variable {twin : TokenStream}

theorem respects_expression (agrees : simulation.Agrees start twin) :
    simulation.Respects expression (fun _ => simulation.Agrees) start twin :=
  follows_level .comma start twin agrees

theorem respects_atom (agrees : simulation.Agrees start twin) :
    simulation.Respects atom (fun _ => simulation.Agrees) start twin :=
  (followsBelow _).atom start (Nat.lt_succ_self _) twin agrees

theorem respects_completeExpression
    (agrees : simulation.Agrees start twin) :
    simulation.Respects completeExpression (fun _ => simulation.Agrees) start
      twin :=
  (respects_expression agrees).bind fun _ _ _ agreesRest =>
    (respects_expectFinish agreesRest).bind fun _ _ _ agreesLast =>
      respects_pure agreesLast

theorem respects_statements (agrees : simulation.Agrees start twin) :
    simulation.Respects statements (fun _ => simulation.Agrees) start twin :=
  follows_parseStatements start twin agrees

end Simulation

end Whirlwind
