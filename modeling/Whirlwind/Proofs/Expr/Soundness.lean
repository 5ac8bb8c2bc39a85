import Whirlwind.Proofs.Expr.Grammar
import Whirlwind.Proofs.Expr.Outcome

/-!
# What the parser accepts is in the grammar

If a function of the parser answers with a tree, then the lexemes that it has
consumed are a phrase of its kind and say that tree, whatever comes behind the
lexemes that it has only looked at.
-/

namespace Whirlwind

namespace Level

/-- The kind of phrase that a level makes. -/
def phrase : Level → Phrase
  | .comma => .list
  | .assignment => .assignment
  | .additive => .sum
  | .multiplicative => .product
  | .bitAnd => .conjunction
  | .bitOr => .disjunction
  | .dot => .path

/-- The kind of phrase that the operands of a level are. -/
def operandPhrase (level : Level) : Phrase :=
  match level.tighter? with
  | some tighter => tighter.phrase
  | none => .signed

@[simp]
theorem phrase_tighter? (level : Level) :
    level.phrase.tighter? = some level.operandPhrase := by
  cases level <;> rfl

@[simp]
theorem phrase_leansRight (level : Level) :
    level.phrase.leansRight = level.groupsRight := by
  cases level <;> rfl

/-- The operators of a level are those that join its kind of phrase. -/
@[simp]
theorem operator?_eq_some_iff {level : Level} {lexeme : Lexeme}
    {op : BinaryOp} :
    level.operator? lexeme = some op ↔
      ∃ character, lexeme = .mark character ∧
        level.phrase.Joins character op := by
  constructor
  · intro named
    have written := List.find?_some named
    have member := List.mem_of_find?_eq_some named
    simp only [decide_eq_true_eq] at written
    refine ⟨op.mark, written, ?_⟩
    rcases BinaryOp.mem_operators_iff.1 member with rfl
    cases op <;> constructor
  · rintro ⟨character, rfl, joins⟩
    cases level <;> cases joins <;> rfl

/-- The kind of phrase that the left operand of a level's operator is. -/
def leftPhrase (level : Level) : Phrase :=
  if level.groupsRight then level.operandPhrase else level.phrase

end Level

@[simp]
theorem UnaryOp.ofLexeme?_eq_some_iff {lexeme : Lexeme} {op : UnaryOp} :
    UnaryOp.ofLexeme? lexeme = some op ↔ Phrase.Signs lexeme op := by
  constructor
  · intro named
    unfold UnaryOp.ofLexeme? at named
    split at named <;> cases named <;> constructor
  · intro signs
    cases signs <;> rfl

namespace TokenStream

/--
What has been consumed since a state, behind lexemes that were read before it,
is a phrase of a kind and says a tree.
-/
def Accounts (start : TokenStream) (phrase : Phrase) (before : List Lexeme)
    (expr : Expr) (rest : TokenStream) : Prop :=
  ∃ consumed, start.Passes consumed rest ∧
    ∀ further,
      Derives phrase (before ++ consumed) (rest.pending ++ further) expr

/-- What is still to come before a passage, seen from behind it. -/
theorem Passes.follow {start after : TokenStream} {consumed : List Lexeme}
    (passed : start.Passes consumed after) :
    ∃ fresh, ∀ further,
      start.pending ++ (fresh ++ further) =
        consumed ++ (after.pending ++ further) := by
  rcases passed with ⟨fresh, _, same⟩
  exact ⟨fresh, fun further => by
    rw [← List.append_assoc, same, List.append_assoc]⟩

theorem lexeme_of_isMark {token : Token} {character : Char}
    (marked : token.isMark character = true) :
    token.lexeme = .mark character := by
  simpa [Token.isMark] using marked

/-- An account of a stronger kind of phrase is one of a looser kind. -/
theorem Accounts.tighter {start rest : TokenStream} {phrase inner : Phrase}
    {before : List Lexeme} {expr : Expr}
    (accounts : start.Accounts inner before expr rest)
    (next : phrase.tighter? = some inner) :
    start.Accounts phrase before expr rest := by
  rcases accounts with ⟨consumed, passed, derived⟩
  exact ⟨consumed, passed, fun further => .tighter next (derived further)⟩

/-- An account goes on where lexemes were passed over before it. -/
theorem Accounts.of_passes {start between rest : TokenStream}
    {phrase : Phrase} {before consumed : List Lexeme} {expr : Expr}
    (passed : start.Passes consumed between)
    (accounts : between.Accounts phrase (before ++ consumed) expr rest) :
    start.Accounts phrase before expr rest := by
  rcases accounts with ⟨later, passedLater, derived⟩
  refine ⟨consumed ++ later, passed.trans passedLater, fun further => ?_⟩
  rw [← List.append_assoc]
  exact derived further

/-- The state of a chain whose operators are of a level. -/
def AccountsLeft (start : TokenStream) (level : Level) (before : List Lexeme)
    (left : Expr) : Prop :=
  ∀ further, Derives level.leftPhrase before (start.pending ++ further) left

theorem AccountsLeft.of_accounts {start rest : TokenStream} {level : Level}
    {before : List Lexeme} {expr : Expr}
    (accounts : start.Accounts level.operandPhrase before expr rest) :
    ∃ consumed, start.Passes consumed rest ∧
      rest.AccountsLeft level (before ++ consumed) expr := by
  rcases accounts with ⟨consumed, passed, derived⟩
  refine ⟨consumed, passed, fun further => ?_⟩
  unfold Level.leftPhrase
  split
  · exact derived further
  · exact .tighter level.phrase_tighter? (derived further)

/-- A chain that goes no further is a phrase of its level. -/
theorem AccountsLeft.finished {start rest : TokenStream} {level : Level}
    {before : List Lexeme} {left : Expr}
    (chain : start.AccountsLeft level before left)
    (passed : start.Passes [] rest) :
    start.Accounts level.phrase before left rest := by
  rcases passed.follow with ⟨fresh, follow⟩
  refine ⟨[], passed, fun further => ?_⟩
  have derived := chain (fresh ++ further)
  rw [follow, Level.leftPhrase] at derived
  rw [List.append_nil]
  split at derived
  · exact .tighter level.phrase_tighter? derived
  · exact derived

/-- A left operand, seen from behind the operator and the right operand. -/
theorem AccountsLeft.seen {start between rest : TokenStream} {level : Level}
    {before back : List Lexeme} {lexeme : Lexeme} {left : Expr}
    (chain : start.AccountsLeft level before left)
    (passed : start.Passes [lexeme] between)
    (passedBack : between.Passes back rest) (further : List Lexeme) :
    Derives level.leftPhrase before
      (lexeme :: (back ++ (rest.pending ++ further))) left := by
  rcases (passed.trans passedBack).follow with ⟨fresh, follow⟩
  simpa [follow] using chain (fresh ++ further)

/-- Behind an operator that leans to the right comes a chain of its level. -/
theorem AccountsLeft.joinRight {start between rest : TokenStream}
    {level : Level} {before : List Lexeme} {token : Token} {op : BinaryOp}
    {left right : Expr}
    (chain : start.AccountsLeft level before left)
    (leans : level.groupsRight = true)
    (named : level.operator? token.lexeme = some op)
    (passed : start.Passes [token.lexeme] between)
    (accounts : between.Accounts level.phrase [] right rest) :
    start.Accounts level.phrase before (.binary op left right) rest := by
  rcases Level.operator?_eq_some_iff.1 named with ⟨character, lexeme, joins⟩
  rcases accounts with ⟨back, passedBack, derivedRight⟩
  refine ⟨_, passed.trans passedBack, fun further => ?_⟩
  have front := chain.seen passed passedBack further
  rw [Level.leftPhrase, if_pos leans] at front
  rw [lexeme] at front ⊢
  exact .joinRight joins (by simpa using leans) level.phrase_tighter? front
    (derivedRight further)

/-- Behind any other operator comes an operand, and the chain may go on. -/
theorem AccountsLeft.joinLeft {start between rest : TokenStream}
    {level : Level} {before : List Lexeme} {token : Token} {op : BinaryOp}
    {left right : Expr}
    (chain : start.AccountsLeft level before left)
    (leans : ¬level.groupsRight = true)
    (named : level.operator? token.lexeme = some op)
    (passed : start.Passes [token.lexeme] between)
    (accounts : between.Accounts level.operandPhrase [] right rest) :
    ∃ consumed, start.Passes consumed rest ∧
      rest.AccountsLeft level (before ++ consumed) (.binary op left right) := by
  rcases Level.operator?_eq_some_iff.1 named with ⟨character, lexeme, joins⟩
  rcases accounts with ⟨back, passedBack, derivedRight⟩
  refine ⟨_, passed.trans passedBack, fun further => ?_⟩
  have front := chain.seen passed passedBack further
  rw [Level.leftPhrase, if_neg leans] at front ⊢
  rw [lexeme] at front ⊢
  exact .joinLeft joins (by simpa using leans) level.phrase_tighter? front
    (derivedRight further)

/-- What is consumed behind an opening parenthesis, and what it says. -/
def AccountsGroup (start : TokenStream) (expr : Expr) (rest : TokenStream) :
    Prop :=
  ∃ inside, start.Passes (inside ++ [.mark ')']) rest ∧
    ∀ further,
      Derives .list inside (.mark ')' :: (rest.pending ++ further)) expr

/-- What an operand accounts for, and what may follow it, is a level. -/
theorem accounts_parseLevel {level : Level} {start : TokenStream}
    (operand : (parseOperand level start).Ensures
      (start.Accounts level.operandPhrase []))
    (more : ∀ left rest, rest.weight ≤ start.weight →
      ∀ before, rest.AccountsLeft level before left →
        (parseMore level left rest).Ensures
          (rest.Accounts level.phrase before)) :
    (parseLevel level start).Ensures (start.Accounts level.phrase []) := by
  rw [parseLevel]
  refine operand.andThen fun left rest fits accounts => ?_
  rcases AccountsLeft.of_accounts accounts with ⟨front, passed, chain⟩
  refine ((more left rest fits front chain).mono ?_).widen _
  exact fun expr after later => Accounts.of_passes passed later

/-- A chain goes on behind each operator of its level, and else it ends. -/
theorem accounts_parseMore {level : Level} {left : Expr} {start : TokenStream}
    (right : ∀ rest, rest.weight < start.weight →
      (parseLevel level rest).Ensures (rest.Accounts level.phrase []))
    (operand : ∀ rest, rest.weight < start.weight →
      (parseOperand level rest).Ensures
        (rest.Accounts level.operandPhrase []))
    (more : ∀ joined rest, rest.weight < start.weight →
      ∀ before, rest.AccountsLeft level before joined →
        (parseMore level joined rest).Ensures
          (rest.Accounts level.phrase before))
    {before : List Lexeme} (chain : start.AccountsLeft level before left) :
    (parseMore level left start).Ensures
      (start.Accounts level.phrase before) := by
  rw [parseMore]
  refine ensures_readThen fun token rest spent passed => ?_
  split
  · refine ensures_handBackThen [] passed
      fun whole fits passedWhole _ => Outcome.ensures_ok ?_
    exact chain.finished passedWhole
  · next op named =>
    have less : rest.weight < start.weight := by
      have := cost_of_operator? named
      omega
    split
    · next leans =>
      refine Outcome.Ensures.widen (Outcome.Ensures.map ?_) _
      refine (right rest less).mono ?_
      exact fun operand after => chain.joinRight leans named passed
    · next leans =>
      refine Outcome.Ensures.widen ?_ _
      refine (operand rest less).andThen fun operand after fits accounts => ?_
      rcases chain.joinLeft leans named passed accounts with
        ⟨consumed, passedBack, joined⟩
      refine ((more _ after (by omega) _ joined).mono ?_).widen _
      exact fun expr last later => Accounts.of_passes passedBack later

/-- The operands of a level are of the next level, or have operators in front. -/
theorem accounts_parseOperand {level : Level} {start : TokenStream}
    (tighter : ∀ next, level.tighter? = some next →
      (parseLevel next start).Ensures (start.Accounts next.phrase []))
    (signed : (parseUnary start).Ensures (start.Accounts .signed [])) :
    (parseOperand level start).Ensures
      (start.Accounts level.operandPhrase []) := by
  rw [parseOperand]
  split
  · next next stronger =>
    simpa [Level.operandPhrase, stronger] using tighter next stronger
  · next strongest =>
    simpa [Level.operandPhrase, strongest] using signed

/-- A sign in front of what has been accounted for. -/
theorem Accounts.sign {start between rest : TokenStream} {token : Token}
    {op : UnaryOp} {operand : Expr}
    (signs : Phrase.Signs token.lexeme op)
    (passed : start.Passes [token.lexeme] between)
    (accounts : between.Accounts .signed [] operand rest) :
    start.Accounts .signed [] (.unary op operand) rest := by
  rcases accounts with ⟨consumed, passedLater, derived⟩
  exact ⟨_, passed.trans passedLater,
    fun further => .sign signs (derived further)⟩

/-- Looking for a closing parenthesis consumes nothing. -/
theorem ensures_closesNext (start : TokenStream) :
    start.closesNext.Ensures fun closes same =>
      start.Passes [] same ∧
        (closes = true → ∃ behind, same.pending = .mark ')' :: behind) := by
  refine ensures_peekThen fun close same fits passed ahead =>
    Outcome.ensures_ok ⟨passed, fun closes => ?_⟩
  exact lexeme_of_isMark closes ▸ ahead

/-- An operator in front of an operand, a lone minus sign, or an application. -/
theorem accounts_parseUnary {start : TokenStream}
    (application : ∀ whole, whole.weight ≤ start.weight →
      (parseApplication whole).Ensures (whole.Accounts .application []))
    (signed : ∀ rest, rest.weight < start.weight →
      (parseUnary rest).Ensures (rest.Accounts .signed [])) :
    (parseUnary start).Ensures (start.Accounts .signed []) := by
  rw [parseUnary]
  refine ensures_readThen fun token rest spent passed => ?_
  split
  · refine ensures_handBackThen [] passed
      fun whole fits passedWhole _ => Outcome.Ensures.widen ?_ _
    refine (application whole fits).mono ?_
    exact fun expr after accounts =>
      Accounts.of_passes passedWhole (accounts.tighter rfl)
  · next op named =>
    have signs := UnaryOp.ofLexeme?_eq_some_iff.1 named
    have less : rest.weight < start.weight := by
      have := cost_of_ofLexeme? named
      omega
    split
    · next minus =>
      subst minus
      have lexeme : token.lexeme = .mark '-' := by
        generalize token.lexeme = lexeme at signs
        cases signs
        rfl
      refine Outcome.Ensures.widen ((ensures_closesNext rest).andThen ?_) _
      intro closes same fits found
      rcases found with ⟨passedSame, ahead⟩
      have passedMinus := passed.trans passedSame
      split
      · next closing =>
        rcases ahead closing with ⟨behind, pending⟩
        refine Outcome.ensures_ok ⟨_, passedMinus, fun further => ?_⟩
        rw [lexeme, pending]
        exact .zero
      · refine Outcome.Ensures.widen (Outcome.Ensures.map ?_) _
        exact (signed same (by omega)).mono
          fun operand after => Accounts.sign signs passedMinus
    · refine Outcome.Ensures.widen (Outcome.Ensures.map ?_) _
      exact (signed rest less).mono
        fun operand after => Accounts.sign signs passed

/-- An atom, and what it is applied to if a parenthesis opens behind it. -/
theorem accounts_parseApplication {start : TokenStream}
    (atom : (parseAtom start).Ensures (start.Accounts .atom []))
    (group : ∀ rest, rest.weight < start.weight →
      (parseGroup rest).Ensures rest.AccountsGroup) :
    (parseApplication start).Ensures (start.Accounts .application []) := by
  rw [parseApplication]
  refine atom.andThen fun callee rest fits accounts =>
    Outcome.Ensures.widen ?_ _
  refine ensures_readThen fun token after spent passed => ?_
  rcases accounts with ⟨front, passedFront, derivedCallee⟩
  split
  · next opens =>
    have less : after.weight < start.weight := by
      have := cost_of_isMark opens
      omega
    refine Outcome.Ensures.widen (Outcome.Ensures.map ?_) _
    refine (group after less).mono ?_
    intro arguments last accounts
    rcases accounts with ⟨inside, passedGroup, derivedArguments⟩
    refine ⟨front ++ ([token.lexeme] ++ (inside ++ [.mark ')'])),
      passedFront.trans (passed.trans passedGroup), fun further => ?_⟩
    rcases (passed.trans passedGroup).follow with ⟨fresh, follow⟩
    have calleeSeen := derivedCallee (fresh ++ further)
    rw [follow] at calleeSeen
    rw [lexeme_of_isMark opens] at calleeSeen ⊢
    exact .apply (by simpa using calleeSeen) (derivedArguments further)
  · refine ensures_handBackThen [] passed
      fun whole fitsWhole passedWhole _ => Outcome.ensures_ok ?_
    rcases passedWhole.follow with ⟨fresh, follow⟩
    refine ⟨front, by simpa using passedFront.trans passedWhole,
      fun further => .tighter rfl ?_⟩
    have seen := derivedCallee (fresh ++ further)
    rwa [follow, List.nil_append] at seen

/-- A group ends with the parenthesis that closes it. -/
theorem accounts_parseGroup {start : TokenStream}
    (list : ∀ same, same.weight ≤ start.weight →
      (parseLevel .comma same).Ensures (same.Accounts .list [])) :
    (parseGroup start).Ensures start.AccountsGroup := by
  rw [parseGroup]
  refine ensures_peekThen fun token same fits passed _ => ?_
  split
  · exact ensures_failThen
  split
  · exact ensures_failThen
  refine Outcome.Ensures.widen ?_ _
  refine (list same fits).andThen fun inner rest fitsRest accounts =>
    Outcome.Ensures.widen ?_ _
  refine ensures_readThen fun close after spent passedClose => ?_
  split
  · next closes =>
    rcases accounts with ⟨inside, passedInside, derived⟩
    rcases passedClose.follow with ⟨fresh, follow⟩
    rw [lexeme_of_isMark closes] at passedClose follow
    refine Outcome.ensures_ok ⟨inside,
      passed.trans (passedInside.trans passedClose), fun further => ?_⟩
    have seen := derived (fresh ++ further)
    rwa [follow] at seen
  · exact ensures_failThen

/-- An atom is one lexeme, or a group behind its opening parenthesis. -/
theorem accounts_parseAtom {start : TokenStream}
    (group : ∀ rest, rest.weight < start.weight →
      (parseGroup rest).Ensures rest.AccountsGroup) :
    (parseAtom start).Ensures (start.Accounts .atom []) := by
  rw [parseAtom]
  refine ensures_readThen fun token rest spent passed => ?_
  split
  · next text lexeme =>
    exact Outcome.ensures_ok ⟨_, lexeme ▸ passed, fun further => .digits⟩
  · next name lexeme =>
    exact Outcome.ensures_ok
      ⟨_, lexeme ▸ passed, fun further => .identifier⟩
  · next text lexeme =>
    exact Outcome.ensures_ok ⟨_, lexeme ▸ passed, fun further => .string⟩
  · split
    · next opens =>
      have less : rest.weight < start.weight := by
        have := cost_of_isMark opens
        omega
      refine Outcome.Ensures.widen ((group rest less).mono ?_) _
      intro expr after accounts
      rcases accounts with ⟨inside, passedGroup, derived⟩
      rw [lexeme_of_isMark opens] at passed
      exact ⟨_, passed.trans passedGroup,
        fun further => .group (derived further)⟩
    · exact ensures_failThen

/--
What the functions of the parser account for, where their measures, which are
those of their recursion, stay below a limit.
-/
structure AccountsBelow (limit : Nat) : Prop where
  level : ∀ level start,
    32 * start.weight + 2 * (9 - level.strength) + 1 < limit →
      (parseLevel level start).Ensures (start.Accounts level.phrase [])
  operand : ∀ level start,
    32 * start.weight + 2 * (9 - level.strength) < limit →
      (parseOperand level start).Ensures
        (start.Accounts level.operandPhrase [])
  more : ∀ level left start, 32 * start.weight < limit →
    ∀ before, start.AccountsLeft level before left →
      (parseMore level left start).Ensures
        (start.Accounts level.phrase before)
  signed : ∀ start, 32 * start.weight + 3 < limit →
    (parseUnary start).Ensures (start.Accounts .signed [])
  application : ∀ start, 32 * start.weight + 2 < limit →
    (parseApplication start).Ensures (start.Accounts .application [])
  atom : ∀ start, 32 * start.weight + 1 < limit →
    (parseAtom start).Ensures (start.Accounts .atom [])
  group : ∀ start, 32 * start.weight + 18 < limit →
    (parseGroup start).Ensures start.AccountsGroup

/--
Every function of the parser accounts for what it consumes, by induction on
the limit of the measures.
-/
theorem accountsBelow (limit : Nat) : AccountsBelow limit := by
  induction limit with
  | zero => constructor <;> intros <;> omega
  | succ limit ih =>
    constructor
    case level =>
      intro level start below
      refine accounts_parseLevel (ih.operand level start (by omega)) ?_
      exact fun left rest fits => ih.more level left rest (by omega)
    case operand =>
      intro level start below
      have bounded := level.strength_le
      refine accounts_parseOperand ?_ (ih.signed start (by omega))
      intro next stronger
      have climbs := Level.strength_tighter stronger
      have boundedNext := next.strength_le
      exact ih.level next start (by omega)
    case more =>
      intro level left start below before chain
      refine accounts_parseMore ?_ ?_ ?_ chain
      · exact fun rest less => ih.level level rest (by omega)
      · exact fun rest less => ih.operand level rest (by omega)
      · exact fun joined rest less => ih.more level joined rest (by omega)
    case signed =>
      intro start below
      refine accounts_parseUnary ?_ ?_
      · exact fun whole fits => ih.application whole (by omega)
      · exact fun rest less => ih.signed rest (by omega)
    case application =>
      intro start below
      refine accounts_parseApplication (ih.atom start (by omega)) ?_
      exact fun rest less => ih.group rest (by omega)
    case atom =>
      intro start below
      exact accounts_parseAtom fun rest less => ih.group rest (by omega)
    case group =>
      intro start below
      refine accounts_parseGroup fun same fits =>
        ih.level .comma same ?_
      simp only [Level.strength]
      omega

end TokenStream

end Whirlwind
