import Whirlwind.Proofs.Expr.Soundness

/-!
# What is in the grammar is accepted

On a stream that offers a phrase and then a lexeme that cannot extend it, the
parser answers with the tree that the phrase says and leaves the rest on offer.
A chain of operators that leans to the left is read operand by operand, so for
its levels the statement is about the parser in the middle of a chain.

Every sequence of lexemes is offered by some stream, and the parser has one
answer; so a sequence says at most one tree (`Derives.unique`).
-/

namespace Whirlwind

open TokenStream

namespace Phrase

/-- The characters that make a phrase go on if they follow it. -/
def extenders : Phrase → List Char
  | .list => [',', '=', '+', '-', '*', '/', '&', '|', '.', '(']
  | .assignment => ['=', '+', '-', '*', '/', '&', '|', '.', '(']
  | .sum => ['+', '-', '*', '/', '&', '|', '.', '(']
  | .product => ['*', '/', '&', '|', '.', '(']
  | .conjunction => ['&', '|', '.', '(']
  | .disjunction => ['|', '.', '(']
  | .path => ['.', '(']
  | .signed | .application => ['(']
  | .atom => []

/-- What follows a phrase starts with a lexeme that does not extend it. -/
def Ends (phrase : Phrase) (follow : List Lexeme) : Prop :=
  ∃ first rest, follow = first :: rest ∧
    ∀ character ∈ phrase.extenders, first ≠ .mark character

/-- The function of the parser that reads a kind of phrase. -/
def parse : Phrase → (start : TokenStream) → Outcome Expr start.weight
  | .list => parseLevel .comma
  | .assignment => parseLevel .assignment
  | .sum => parseLevel .additive
  | .product => parseLevel .multiplicative
  | .conjunction => parseLevel .bitAnd
  | .disjunction => parseLevel .bitOr
  | .path => parseLevel .dot
  | .signed => parseUnary
  | .application => parseApplication
  | .atom => parseAtom

theorem parse_phrase (level : Level) :
    level.phrase.parse = parseLevel level := by
  cases level <;> rfl

theorem parse_operandPhrase (level : Level) (start : TokenStream) :
    level.operandPhrase.parse start = parseOperand level start := by
  rw [parseOperand]
  cases level <;> rfl

/-- A kind of phrase that has a stronger one is that of a level or is unary. -/
theorem tighter?_cases {phrase inner : Phrase}
    (next : phrase.tighter? = some inner) :
    (∃ level : Level, phrase = level.phrase ∧ inner = level.operandPhrase) ∨
      (phrase = .signed ∧ inner = .application) ∨
      (phrase = .application ∧ inner = .atom) := by
  have named : ∀ level : Level, phrase = level.phrase →
      ∃ level : Level, phrase = level.phrase ∧ inner = level.operandPhrase :=
    fun level same => ⟨level, same, by
      subst same
      exact Option.some.inj (next.symm.trans level.phrase_tighter?)⟩
  cases phrase with
  | list => exact Or.inl (named .comma rfl)
  | assignment => exact Or.inl (named .assignment rfl)
  | sum => exact Or.inl (named .additive rfl)
  | product => exact Or.inl (named .multiplicative rfl)
  | conjunction => exact Or.inl (named .bitAnd rfl)
  | disjunction => exact Or.inl (named .bitOr rfl)
  | path => exact Or.inl (named .dot rfl)
  | signed => exact Or.inr (Or.inl ⟨rfl, (Option.some.inj next).symm⟩)
  | application => exact Or.inr (Or.inr ⟨rfl, (Option.some.inj next).symm⟩)
  | atom => cases next

theorem Joins.level {phrase : Phrase} {character : Char} {op : BinaryOp}
    (joins : phrase.Joins character op) :
    ∃ level : Level, phrase = level.phrase ∧
      level.operator? (.mark character) = some op := by
  have named : ∀ level : Level, phrase = level.phrase →
      ∃ level : Level, phrase = level.phrase ∧
        level.operator? (.mark character) = some op :=
    fun level same => ⟨level, same,
      Level.operator?_eq_some_iff.2 ⟨character, rfl, same ▸ joins⟩⟩
  cases joins with
  | comma => exact named .comma rfl
  | assign => exact named .assignment rfl
  | plus | minus => exact named .additive rfl
  | multiply | divide => exact named .multiplicative rfl
  | bitAnd => exact named .bitAnd rfl
  | bitOr => exact named .bitOr rfl
  | dot => exact named .dot rfl

/-- An operator of a level does not extend the operands of the level. -/
theorem ends_operand {level : Level} {character : Char} {op : BinaryOp}
    (joins : level.phrase.Joins character op) (rest : List Lexeme) :
    level.operandPhrase.Ends (.mark character :: rest) := by
  refine ⟨_, rest, rfl, ?_⟩
  cases level <;> cases joins <;>
    simp [Level.operandPhrase, Level.tighter?, Level.phrase, extenders]

/-- What ends a phrase ends the phrases of the next stronger kind. -/
theorem Ends.tighter {phrase inner : Phrase} {follow : List Lexeme}
    (ends : phrase.Ends follow) (next : phrase.tighter? = some inner) :
    inner.Ends follow := by
  rcases ends with ⟨first, rest, same, apart⟩
  refine ⟨first, rest, same, fun character member => apart character ?_⟩
  cases phrase <;> cases next <;> simp_all [extenders]

theorem Ends.operator? {level : Level} {first : Lexeme}
    {rest : List Lexeme} (ends : level.phrase.Ends (first :: rest)) :
    level.operator? first = none := by
  rcases ends with ⟨_, _, same, apart⟩
  rcases List.cons.inj same with ⟨rfl, rfl⟩
  cases named : level.operator? first with
  | none => rfl
  | some op =>
      rcases Level.operator?_eq_some_iff.1 named with ⟨character, lexeme, joins⟩
      refine absurd lexeme (apart character ?_)
      cases level <;> cases joins <;> simp [Level.phrase, extenders]

end Phrase

namespace TokenStream

theorem isMark_of_lexeme {token : Token} {character : Char}
    (lexeme : token.lexeme = .mark character) :
    token.isMark character = true := by
  simp [Token.isMark, lexeme]

/-- A chain stops at a lexeme that is no operator of its level. -/
theorem parseMore_stops {level : Level} {left : Expr} {start : TokenStream}
    {first : Lexeme} {rest : List Lexeme} {last : Lexer}
    (offers : start.Offers (first :: rest) last)
    (stops : level.operator? first = none) :
    (parseMore level left start).Delivers left (first :: rest) last := by
  rw [parseMore]
  refine offers.readThen fun token after spent lexeme later vacant => ?_
  subst lexeme
  split
  · refine later.handBackThen vacant fun whole fits offersWhole => ?_
    exact ⟨rfl, offersWhole⟩
  · next named => cases stops.symm.trans named

/-- Behind an operator that leans to the right a whole chain is read. -/
theorem parseMore_right {level : Level} {op : BinaryOp} {left right : Expr}
    {start : TokenStream} {lexeme : Lexeme} {lexemes follow : List Lexeme}
    {last : Lexer}
    (offers : start.Offers (lexeme :: lexemes) last)
    (named : level.operator? lexeme = some op)
    (leans : level.groupsRight = true)
    (delivers : ∀ after : TokenStream, after.Offers lexemes last →
      (parseLevel level after).Delivers right follow last) :
    (parseMore level left start).Delivers (.binary op left right) follow
      last := by
  rw [parseMore]
  refine offers.readThen fun token after spent same later vacant => ?_
  subst same
  split
  · next other => cases named.symm.trans other
  · next other found =>
    rcases Option.some.inj (named.symm.trans found) with rfl
    simp only [leans, if_true]
    exact (delivers after later).map.widen _

/-- Behind any other operator an operand is read, and the chain goes on. -/
theorem parseMore_left {level : Level} {op : BinaryOp}
    {left right result : Expr} {start : TokenStream} {lexeme : Lexeme}
    {lexemes follow behind : List Lexeme} {last finish : Lexer}
    (offers : start.Offers (lexeme :: lexemes) last)
    (named : level.operator? lexeme = some op)
    (leans : level.groupsRight = false)
    (operand : ∀ after : TokenStream, after.Offers lexemes last →
      (parseOperand level after).Delivers right follow last)
    (more : ∀ after : TokenStream, after.Offers follow last →
      (parseMore level (.binary op left right) after).Delivers result behind
        finish) :
    (parseMore level left start).Delivers result behind finish := by
  rw [parseMore]
  refine offers.readThen fun token after spent same later vacant => ?_
  subst same
  split
  · next other => cases named.symm.trans other
  · next other found =>
    rcases Option.some.inj (named.symm.trans found) with rfl
    simp only [leans, Bool.false_eq_true, if_false]
    refine Outcome.Delivers.widen ?_ _
    refine (operand after later).andThen fun stream fits offersStream => ?_
    exact (more stream offersStream).widen _

/-- An expression of a level is an operand and the chain that starts with it. -/
theorem parseLevel_of_operand {level : Level} {left result : Expr}
    {start : TokenStream} {follow behind : List Lexeme} {last finish : Lexer}
    (operand : (parseOperand level start).Delivers left follow last)
    (more : ∀ after : TokenStream, after.Offers follow last →
      (parseMore level left after).Delivers result behind finish) :
    (parseLevel level start).Delivers result behind finish := by
  rw [parseLevel]
  refine operand.andThen fun stream fits offersStream => ?_
  exact (more stream offersStream).widen _

/-- A lexeme that is no sign is left to the parser of applications. -/
theorem parseUnary_of_application {expr : Expr} {start : TokenStream}
    {first : Lexeme} {rest follow : List Lexeme} {last : Lexer}
    (offers : start.Offers (first :: rest) last)
    (bare : UnaryOp.ofLexeme? first = none)
    (application : ∀ whole : TokenStream, whole.Offers (first :: rest) last →
      (parseApplication whole).Delivers expr follow last) :
    (parseUnary start).Delivers expr follow last := by
  rw [parseUnary]
  refine offers.readThen fun token after spent same later vacant => ?_
  subst same
  split
  · refine later.handBackThen vacant fun whole fits offersWhole => ?_
    exact (application whole offersWhole).widen _
  · next named => cases bare.symm.trans named

/-- A sign stands in front of an operand, if nothing closes right behind it. -/
theorem parseUnary_sign {op : UnaryOp} {operand : Expr} {start : TokenStream}
    {lexeme first : Lexeme} {rest follow : List Lexeme} {last : Lexer}
    (offers : start.Offers (lexeme :: first :: rest) last)
    (named : UnaryOp.ofLexeme? lexeme = some op)
    (opened : first ≠ .mark ')')
    (delivers : ∀ after : TokenStream, after.Offers (first :: rest) last →
      (parseUnary after).Delivers operand follow last) :
    (parseUnary start).Delivers (.unary op operand) follow last := by
  rw [parseUnary]
  refine offers.readThen fun token after spent same later vacant => ?_
  subst same
  split
  · next other => cases named.symm.trans other
  · next other found =>
    rcases Option.some.inj (named.symm.trans found) with rfl
    split
    · have peeked : after.closesNext.Delivers false (first :: rest) last := by
        refine later.peekThen fun close same fits lexeme offersSame =>
          ⟨?_, offersSame⟩
        simp [Token.isMark, lexeme, opened]
      refine (peeked.andThen fun same fits offersSame => ?_).widen _
      exact (delivers same offersSame).map.widen fits
    · exact (delivers after later).map.widen _

/-- A minus sign right before a closing parenthesis is zero. -/
theorem parseUnary_zero {start : TokenStream} {follow : List Lexeme}
    {last : Lexer}
    (offers : start.Offers (.mark '-' :: .mark ')' :: follow) last) :
    (parseUnary start).Delivers (.digits "0") (.mark ')' :: follow) last := by
  rw [parseUnary]
  refine offers.readThen fun token after spent same later vacant => ?_
  have named : UnaryOp.ofLexeme? token.lexeme = some .minus := by
    rw [same]
    rfl
  split
  · next other => cases named.symm.trans other
  · next other found =>
    rcases Option.some.inj (named.symm.trans found) with rfl
    rw [if_pos rfl]
    have peeked : after.closesNext.Delivers true (.mark ')' :: follow) last :=
      later.peekThen fun close same fits lexeme offersSame =>
        ⟨congrArg Except.ok (isMark_of_lexeme lexeme), offersSame⟩
    exact (peeked.andThen fun same fits offersSame =>
      ⟨rfl, offersSame⟩).widen _

/-- A group is an expression and the parenthesis that closes it. -/
theorem parseGroup_of_level {expr : Expr} {start : TokenStream}
    {first : Lexeme} {rest follow : List Lexeme} {last : Lexer}
    (offers : start.Offers (first :: rest) last)
    (opens : Derives.Opens first)
    (delivers : ∀ same : TokenStream, same.Offers (first :: rest) last →
      (parseLevel .comma same).Delivers expr (.mark ')' :: follow) last) :
    (parseGroup start).Delivers expr follow last := by
  rw [parseGroup]
  refine offers.peekThen fun token same fits lexeme offersSame => ?_
  have started : token.isFinish = false ∧ token.isMark ')' = false := by
    rw [Token.isFinish, Token.isMark, lexeme]
    cases first with
    | identifier | digits | string => exact ⟨rfl, rfl⟩
    | comment | autoComment | tab | finish =>
        rcases opens with same | ⟨op, signs⟩
        · cases same
        · cases signs
    | operator =>
        rcases opens with same | ⟨op, signs⟩
        · cases same
          exact ⟨rfl, rfl⟩
        · cases signs <;> exact ⟨rfl, rfl⟩
  simp only [started, Bool.false_eq_true, if_false]
  refine Outcome.Delivers.widen ?_ _
  refine (delivers same offersSame).andThen fun stream fits offersStream =>
    Outcome.Delivers.widen ?_ _
  refine offersStream.readThen fun close after spent closes later vacant => ?_
  simp only [isMark_of_lexeme closes, if_true]
  exact ⟨rfl, later⟩

/-- An atom that nothing in parentheses follows. -/
theorem parseApplication_of_atom {expr : Expr} {start : TokenStream}
    {first : Lexeme} {rest : List Lexeme} {last : Lexer}
    (atom : (parseAtom start).Delivers expr (first :: rest) last)
    (bare : first ≠ .mark '(') :
    (parseApplication start).Delivers expr (first :: rest) last := by
  rw [parseApplication]
  refine atom.andThen fun stream fits offers => Outcome.Delivers.widen ?_ _
  refine offers.readThen fun token after spent same later vacant => ?_
  split
  · next opens => exact absurd (same ▸ lexeme_of_isMark opens) bare
  · subst same
    exact later.handBackThen vacant fun whole fits offersWhole =>
      ⟨rfl, offersWhole⟩

/-- An atom that is applied to arguments. -/
theorem parseApplication_group {callee arguments : Expr}
    {start : TokenStream} {rest follow : List Lexeme} {last : Lexer}
    (atom : (parseAtom start).Delivers callee (.mark '(' :: rest) last)
    (group : ∀ after : TokenStream, after.Offers rest last →
      (parseGroup after).Delivers arguments follow last) :
    (parseApplication start).Delivers (.apply callee arguments) follow
      last := by
  rw [parseApplication]
  refine atom.andThen fun stream fits offers => Outcome.Delivers.widen ?_ _
  refine offers.readThen fun token after spent same later vacant => ?_
  split
  · exact (group after later).map.widen _
  · next shut => exact absurd (isMark_of_lexeme same) shut

/-- An atom in parentheses. -/
theorem parseAtom_group {expr : Expr} {start : TokenStream}
    {rest follow : List Lexeme} {last : Lexer}
    (offers : start.Offers (.mark '(' :: rest) last)
    (group : ∀ after : TokenStream, after.Offers rest last →
      (parseGroup after).Delivers expr follow last) :
    (parseAtom start).Delivers expr follow last := by
  rw [parseAtom]
  refine offers.readThen fun token after spent same later vacant => ?_
  split
  · next found => cases same.symm.trans found
  · next found => cases same.symm.trans found
  · next found => cases same.symm.trans found
  · split
    · exact (group after later).widen _
    · next shut => exact absurd (isMark_of_lexeme same) shut

end TokenStream

/-- The parser of a kind of phrase reads these lexemes as a tree. -/
def Completes (phrase : Phrase) (lexemes follow : List Lexeme)
    (expr : Expr) : Prop :=
  phrase.Ends follow → ∀ (start : TokenStream) (last : Lexer),
    start.Offers (lexemes ++ follow) last →
    (phrase.parse start).Delivers expr follow last

/--
The parser of a level reads these lexemes as the left end of a chain: what it
makes of the rest is what it makes of a chain that has come so far.
-/
def CompletesChain (level : Level) (lexemes follow : List Lexeme)
    (expr : Expr) : Prop :=
  level.operandPhrase.Ends follow →
    ∀ (start : TokenStream) (last : Lexer) (result : Expr)
      (behind : List Lexeme) (finish : Lexer),
      start.Offers (lexemes ++ follow) last →
      (∀ after : TokenStream, after.Offers follow last →
        (parseMore level expr after).Delivers result behind finish) →
      (parseLevel level start).Delivers result behind finish

theorem completesChain_of_operand {level : Level}
    {lexemes follow : List Lexeme} {expr : Expr}
    (operand : Completes level.operandPhrase lexemes follow expr) :
    CompletesChain level lexemes follow expr := by
  intro ends start last result behind finish offers more
  refine parseLevel_of_operand ?_ more
  rw [← Phrase.parse_operandPhrase]
  exact operand ends start last offers

theorem completes_of_chain {level : Level} {lexemes follow : List Lexeme}
    {expr : Expr} (chain : CompletesChain level lexemes follow expr) :
    Completes level.phrase lexemes follow expr := by
  intro ends start last offers
  rw [Phrase.parse_phrase]
  refine chain (ends.tighter level.phrase_tighter?) start last expr follow
    last offers fun after offersAfter => ?_
  rcases id ends with ⟨first, rest, rfl, _⟩
  exact parseMore_stops offersAfter ends.operator?

/-- Atoms and applications start with a lexeme that is no sign. -/
theorem Derives.unsigned {phrase : Phrase} {lexemes follow : List Lexeme}
    {expr : Expr} (derived : Derives phrase lexemes follow expr)
    (strong : phrase = .application ∨ phrase = .atom) :
    ∃ first rest, lexemes = first :: rest ∧
      UnaryOp.ofLexeme? first = none := by
  induction derived with
  | tighter next _ ih =>
      rcases strong with rfl | rfl
      · exact ih (Or.inr (Option.some.inj next).symm)
      · cases next
  | joinLeft joins | joinRight joins =>
      rcases strong with rfl | rfl <;> cases joins
  | sign | zero => simp at strong
  | apply _ _ ih =>
      rcases ih (Or.inr rfl) with ⟨first, rest, rfl, bare⟩
      exact ⟨first, _, rfl, bare⟩
  | identifier | digits | string | group => exact ⟨_, _, rfl, rfl⟩

/-- A chain that leans to the left goes on with an operator and an operand. -/
theorem completesChain_joinLeft {level : Level} {character : Char}
    {op : BinaryOp} {front back follow : List Lexeme} {left right : Expr}
    (joins : level.phrase.Joins character op)
    (leans : level.groupsRight = false)
    (chain : CompletesChain level front (.mark character :: (back ++ follow))
      left)
    (operand : Completes level.operandPhrase back follow right) :
    CompletesChain level (front ++ .mark character :: back) follow
      (.binary op left right) := by
  intro ends start last result behind finish offers more
  refine chain (Phrase.ends_operand joins _) start last result behind finish
    (by simpa using offers) fun middle offersMiddle => ?_
  refine parseMore_left offersMiddle
    (Level.operator?_eq_some_iff.2 ⟨character, rfl, joins⟩) leans ?_ more
  intro after offersAfter
  rw [← Phrase.parse_operandPhrase]
  exact operand ends after last offersAfter

/-- An operator that leans to the right stands in front of a chain. -/
theorem completes_joinRight {level : Level} {character : Char}
    {op : BinaryOp} {front back follow : List Lexeme} {left right : Expr}
    (joins : level.phrase.Joins character op)
    (leans : level.groupsRight = true)
    (operand : Completes level.operandPhrase front
      (.mark character :: (back ++ follow)) left)
    (chain : Completes level.phrase back follow right) :
    Completes level.phrase (front ++ .mark character :: back) follow
      (.binary op left right) := by
  intro ends start last offers
  rw [Phrase.parse_phrase]
  refine completesChain_of_operand operand (Phrase.ends_operand joins _)
    start last _ follow last (by simpa using offers)
    fun middle offersMiddle => ?_
  refine parseMore_right offersMiddle
    (Level.operator?_eq_some_iff.2 ⟨character, rfl, joins⟩) leans ?_
  intro after offersAfter
  rw [← Phrase.parse_phrase]
  exact chain ends after last offersAfter

/-- The contents of parentheses are read, and the parenthesis behind them. -/
theorem Derives.parseGroup {lexemes follow : List Lexeme} {expr : Expr}
    (derived : Derives .list lexemes (.mark ')' :: follow) expr)
    (completes : Completes .list lexemes (.mark ')' :: follow) expr)
    {start : TokenStream} {last : Lexer}
    (offers : start.Offers (lexemes ++ .mark ')' :: follow) last) :
    (TokenStream.parseGroup start).Delivers expr follow last := by
  rcases derived.exists_cons with ⟨first, rest, rfl, opens⟩
  exact parseGroup_of_level offers opens fun same offersSame =>
    completes ⟨_, _, rfl, by simp [Phrase.extenders]⟩ same last offersSame

/-- An atom of a single lexeme is read whatever follows it. -/
theorem Derives.parseAtom_single {lexeme : Lexeme} {follow : List Lexeme}
    {expr : Expr} (derived : Derives .atom [lexeme] follow expr)
    {start : TokenStream} {last : Lexer}
    (offers : start.Offers (lexeme :: follow) last) :
    (TokenStream.parseAtom start).Delivers expr follow last := by
  generalize written : [lexeme] = lexemes at derived
  cases derived with
  | tighter next | joinLeft _ _ next | joinRight _ _ next => cases next
  | identifier | digits | string =>
      cases written
      rw [TokenStream.parseAtom]
      refine offers.readThen fun token after spent same later vacant => ?_
      split <;> simp_all [Outcome.Delivers]
  | group => simp at written

/--
What the parser makes of a phrase: of a whole one, and of the left end of a
chain that leans to the left.
-/
def CompletesBoth (phrase : Phrase) (lexemes follow : List Lexeme)
    (expr : Expr) : Prop :=
  Completes phrase lexemes follow expr ∧
    ∀ level : Level, phrase = level.phrase → level.groupsRight = false →
      CompletesChain level lexemes follow expr

theorem CompletesChain.both {level : Level} {lexemes follow : List Lexeme}
    {expr : Expr} (chain : CompletesChain level lexemes follow expr) :
    CompletesBoth level.phrase lexemes follow expr := by
  refine ⟨completes_of_chain chain, fun other same _ => ?_⟩
  obtain rfl : level = other := by
    cases level <;> cases other <;> cases same <;> rfl
  exact chain

theorem Completes.both {phrase : Phrase} {lexemes follow : List Lexeme}
    {expr : Expr} (completes : Completes phrase lexemes follow expr)
    (unchained : ∀ level : Level, phrase = level.phrase →
      level.groupsRight = true) :
    CompletesBoth phrase lexemes follow expr := by
  refine ⟨completes, fun level same leans => ?_⟩
  exact absurd (leans.symm.trans (unchained level same)) (by decide)

theorem Derives.completes_single {lexeme : Lexeme} {follow : List Lexeme}
    {expr : Expr} (derived : Derives .atom [lexeme] follow expr) :
    CompletesBoth .atom [lexeme] follow expr :=
  Completes.both (fun _ _ _ offers => derived.parseAtom_single offers)
    fun level same => by cases level <;> cases same

/--
On a phrase that the next lexeme does not extend the parser answers with what
the phrase says.  The induction is on the derivation; the left operand of a
chain that leans to the left needs what is said about chains.
-/
theorem Derives.completes {phrase : Phrase} {lexemes follow : List Lexeme}
    {expr : Expr} (derived : Derives phrase lexemes follow expr) :
    CompletesBoth phrase lexemes follow expr := by
  induction derived with
  | tighter next derived ih =>
      rcases Phrase.tighter?_cases next with
        ⟨level, rfl, rfl⟩ | ⟨rfl, rfl⟩ | ⟨rfl, rfl⟩
      · exact (completesChain_of_operand ih.1).both
      · refine Completes.both (fun ends start last offers => ?_)
          fun level same => by cases level <;> cases same
        rcases derived.unsigned (Or.inl rfl) with ⟨first, rest, rfl, bare⟩
        exact parseUnary_of_application offers bare fun whole offersWhole =>
          ih.1 (ends.tighter next) whole last offersWhole
      · refine Completes.both (fun ends start last offers => ?_)
          fun level same => by cases level <;> cases same
        have atom := ih.1 (ends.tighter next) start last offers
        rcases ends with ⟨first, rest, rfl, apart⟩
        exact parseApplication_of_atom atom
          (apart '(' (by simp [Phrase.extenders]))
  | joinLeft joins leans next _ _ ihLeft ihRight =>
      rcases joins.level with ⟨level, rfl, named⟩
      rcases Option.some.inj (next.symm.trans level.phrase_tighter?) with rfl
      rw [Level.phrase_leansRight] at leans
      exact (completesChain_joinLeft joins leans (ihLeft.2 level rfl leans)
        ihRight.1).both
  | joinRight joins leans next _ _ ihLeft ihRight =>
      rcases joins.level with ⟨level, rfl, named⟩
      rcases Option.some.inj (next.symm.trans level.phrase_tighter?) with rfl
      rw [Level.phrase_leansRight] at leans
      refine (completes_joinRight joins leans ihLeft.1 ihRight.1).both
        fun other same => ?_
      rw [← other.phrase_leansRight, ← same, level.phrase_leansRight, leans]
  | sign signs derived ih =>
      refine Completes.both (fun ends start last offers => ?_)
        fun level same => by cases level <;> cases same
      rcases derived.exists_cons with ⟨first, rest, rfl, opens⟩
      refine parseUnary_sign offers (UnaryOp.ofLexeme?_eq_some_iff.2 signs)
        ?_ fun after offersAfter => ih.1 ends after last offersAfter
      rintro rfl
      rcases opens with same | ⟨op, signs⟩
      · cases same
      · cases signs
  | zero =>
      exact Completes.both (fun _ start last offers => parseUnary_zero offers)
        fun level same => by cases level <;> cases same
  | apply _ derivedArguments ihCallee ihArguments =>
      refine Completes.both (fun _ start last offers => ?_)
        fun level same => by cases level <;> cases same
      have atom := ihCallee.1 ⟨_, _, rfl, by simp [Phrase.extenders]⟩ start
        last (by simpa using offers)
      exact parseApplication_group atom fun after offersAfter =>
        derivedArguments.parseGroup ihArguments.1 offersAfter
  | identifier => exact Derives.identifier.completes_single
  | digits => exact Derives.digits.completes_single
  | string => exact Derives.string.completes_single
  | group derived ih =>
      refine Completes.both (fun _ start last offers => ?_)
        fun level same => by cases level <;> cases same
      exact parseAtom_group offers fun after offersAfter =>
        derived.parseGroup ih.1 (by simpa using offersAfter)

/-- An atom is read to its end, and nothing behind it is looked at. -/
theorem Derives.parseAtom {lexemes follow : List Lexeme} {expr : Expr}
    (derived : Derives .atom lexemes follow expr) {start : TokenStream}
    {last : Lexer} (offers : start.Offers (lexemes ++ follow) last) :
    (TokenStream.parseAtom start).Delivers expr follow last := by
  cases derived with
  | tighter next | joinLeft _ _ next | joinRight _ _ next => cases next
  | identifier => exact Derives.identifier.parseAtom_single offers
  | digits => exact Derives.digits.parseAtom_single offers
  | string => exact Derives.string.parseAtom_single offers
  | group derived =>
      exact parseAtom_group offers fun after offersAfter =>
        derived.parseGroup derived.completes.1 (by simpa using offersAfter)

/-- Any sequence of lexemes is on offer somewhere. -/
theorem TokenStream.exists_offers (lexemes : List Lexeme) :
    ∃ (stream : TokenStream) (last : Lexer), stream.Offers lexemes last := by
  let lexer := Lexer.ofText "" 1 .assembly
  let tokens := lexemes.map fun lexeme => (⟨lexeme, ⟨1, 0⟩⟩ : Token)
  refine ⟨⟨lexer, tokens, tokens.length + 1⟩, lexer, Nat.succ_pos _,
    Nat.le_succ _, [], .done, ?_⟩
  simp [pending, tokens, Function.comp_def]

/-- A sequence of lexemes says at most one tree. -/
theorem Derives.unique {phrase : Phrase} {lexemes follow : List Lexeme}
    {one other : Expr} (derivedOne : Derives phrase lexemes follow one)
    (derivedOther : Derives phrase lexemes follow other)
    (ends : phrase.Ends follow) : one = other := by
  rcases exists_offers (lexemes ++ follow) with ⟨stream, last, offers⟩
  have first := (derivedOne.completes.1 ends stream last offers).1
  have second := (derivedOther.completes.1 ends stream last offers).1
  exact Except.ok.inj (first.symm.trans second)

end Whirlwind
