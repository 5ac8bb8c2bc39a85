import Whirlwind.Expr.Basic
import Whirlwind.Token.Stream

/-!
# Parsing expressions

Recursive descent over a token stream, one function for all the levels of
operators between operands.  Operators in front of an operand bind more
strongly than those, and an application more strongly still; an atom is
applied at most once.  Dots bind more strongly than the bitwise operators, and
those more strongly than arithmetic.

Each function answers with an `Outcome`, which holds the stream that is left
and the fact that it weighs no more than the one the function was given.  That
fact is what makes the recursion well-founded: between two calls either a token
is read for good, or the next call is for a stronger level.
-/

namespace Whirlwind

/-- An answer, and the stream that is left, whose weight has a limit. -/
structure Outcome (Result : Type) (limit : Nat) where
  answer : Except ParseError Result
  rest : TokenStream
  rest_le : rest.weight ≤ limit

namespace Outcome

variable {Result Next : Type} {limit wider : Nat}

/-- The same outcome under a wider limit. -/
def widen (outcome : Outcome Result limit) (wide : limit ≤ wider) :
    Outcome Result wider :=
  ⟨outcome.answer, outcome.rest, Nat.le_trans outcome.rest_le wide⟩

/-- Go on with an answer and the stream that is left. -/
def andThen (outcome : Outcome Result limit)
    (proceed : Result → (rest : TokenStream) → rest.weight ≤ limit →
      Outcome Next limit) :
    Outcome Next limit :=
  match outcome.answer with
  | .ok result => proceed result outcome.rest outcome.rest_le
  | .error error => ⟨.error error, outcome.rest, outcome.rest_le⟩

/-- Change an answer. -/
def map (change : Result → Next) (outcome : Outcome Result limit) :
    Outcome Next limit :=
  ⟨outcome.answer.map change, outcome.rest, outcome.rest_le⟩

/-- An outcome as the result of an action on a stream. -/
def toResult (outcome : Outcome Result limit) :
    EStateM.Result ParseError TokenStream Result :=
  match outcome.answer with
  | .ok result => .ok result outcome.rest
  | .error error => .error error outcome.rest

end Outcome

namespace TokenStream

variable {Result : Type}

/-- Read a token and go on with what is left. -/
def readThen (start : TokenStream)
    (proceed : (token : Token) → (rest : TokenStream) →
      rest.weight + token.lexeme.cost ≤ start.weight →
      Outcome Result start.weight) :
    Outcome Result start.weight :=
  match read : start.next with
  | .ok token rest => proceed token rest (weight_next read)
  | .error error rest => ⟨.error error, rest, weight_next_error read⟩

/-- Hand back the token that was just read and go on. -/
def handBackThen (rest : TokenStream) (token : Token) {limit : Nat}
    (spent : rest.weight + token.lexeme.cost ≤ limit)
    (proceed : (whole : TokenStream) → whole.weight ≤ limit →
      Outcome Result limit) :
    Outcome Result limit :=
  match returned : rest.handBack token with
  | .ok _ whole => proceed whole (weight_handBack returned ▸ spent)
  | .error error same =>
      ⟨.error error, same, by
        rw [handBack_error returned]
        omega⟩

/-- Go on with the next token and the stream that still holds it. -/
def peekThen (start : TokenStream)
    (proceed : Token → (same : TokenStream) → same.weight ≤ start.weight →
      Outcome Result start.weight) :
    Outcome Result start.weight :=
  start.readThen fun token rest spent =>
    rest.handBackThen token spent (proceed token)

/-- Fail because of a token. -/
def failThen (rest : TokenStream) (token : Token)
    (cause : SyntaxError.Cause) {limit : Nat} (fits : rest.weight ≤ limit) :
    Outcome Result limit :=
  ⟨.error (rest.errorAt token cause), rest, fits⟩

/-- Whether a closing parenthesis is next. -/
def closesNext (start : TokenStream) : Outcome Bool start.weight :=
  start.peekThen fun token same same_le =>
    ⟨.ok (token.isMark ')'), same, same_le⟩

/-- A lexeme that is an operator costs a step. -/
theorem cost_of_operator? {level : Level} {lexeme : Lexeme} {op : BinaryOp}
    (named : level.operator? lexeme = some op) : lexeme.cost = 1 := by
  have := List.find?_some named
  simp only [decide_eq_true_eq] at this
  simp [this, Lexeme.cost]

theorem cost_of_ofLexeme? {lexeme : Lexeme} {op : UnaryOp}
    (named : UnaryOp.ofLexeme? lexeme = some op) : lexeme.cost = 1 := by
  cases lexeme with
  | operator => rfl
  | _ => simp [UnaryOp.ofLexeme?] at named

theorem cost_of_isMark {token : Token} {character : Char}
    (marked : token.isMark character = true) : token.lexeme.cost = 1 := by
  simp only [Token.isMark, decide_eq_true_eq] at marked
  simp [marked, Lexeme.cost]

mutual

/-- An expression whose operators are of a level or bind more strongly. -/
def parseLevel (level : Level) (start : TokenStream) :
    Outcome Expr start.weight :=
  (parseOperand level start).andThen fun left rest rest_le =>
    (parseMore level left rest).widen rest_le
  termination_by 32 * start.weight + 2 * (9 - level.strength) + 1

/-- An operand of the operators of a level. -/
def parseOperand (level : Level) (start : TokenStream) :
    Outcome Expr start.weight :=
  match _stronger : level.tighter? with
  | some tighter => parseLevel tighter start
  | none => parseUnary start
  termination_by 32 * start.weight + 2 * (9 - level.strength)
  decreasing_by
    · have climbs := Level.strength_tighter _stronger
      have bounded := tighter.strength_le
      omega
    · have bounded := level.strength_le
      omega

/--
What follows a left operand: nothing, or an operator of the level and a right
operand, which for operators that group to the right is a whole expression of
the level, and else is itself the left operand of what follows.
-/
def parseMore (level : Level) (left : Expr) (start : TokenStream) :
    Outcome Expr start.weight :=
  start.readThen fun token rest spent =>
    match named : level.operator? token.lexeme with
    | none =>
        rest.handBackThen token spent fun whole whole_le =>
          ⟨.ok left, whole, whole_le⟩
    | some op =>
        have less : rest.weight < start.weight := by
          have := cost_of_operator? named
          omega
        if level.groupsRight then
          ((parseLevel level rest).map (.binary op left)).widen (by omega)
        else
          ((parseOperand level rest).andThen fun right after after_le =>
            (parseMore level (.binary op left right) after).widen
              after_le).widen (by omega)
  termination_by 32 * start.weight

/--
An operator in front of an operand of the same kind, or an application.  A
minus sign right before a closing parenthesis stands for zero.
-/
def parseUnary (start : TokenStream) : Outcome Expr start.weight :=
  start.readThen fun token rest spent =>
    match named : UnaryOp.ofLexeme? token.lexeme with
    | none =>
        rest.handBackThen token spent fun whole whole_le =>
          (parseApplication whole).widen whole_le
    | some op =>
        have less : rest.weight < start.weight := by
          have := cost_of_ofLexeme? named
          omega
        if op = .minus then
          (rest.closesNext.andThen fun closes same same_le =>
            if closes then ⟨.ok (.digits "0"), same, same_le⟩
            else ((parseUnary same).map (.unary op)).widen same_le).widen
              (by omega)
        else ((parseUnary rest).map (.unary op)).widen (by omega)
  termination_by 32 * start.weight + 3
  decreasing_by
    · clear spent
      omega
    · omega
    · omega

/-- An atom, and the arguments it is applied to if there are any. -/
def parseApplication (start : TokenStream) : Outcome Expr start.weight :=
  (parseAtom start).andThen fun callee rest rest_le =>
    (rest.readThen fun token after spent =>
      if opens : token.isMark '(' then
        have less : after.weight < rest.weight := by
          have := cost_of_isMark opens
          omega
        ((parseGroup after).map (.apply callee)).widen (by omega)
      else
        after.handBackThen token spent fun whole whole_le =>
          ⟨.ok callee, whole, whole_le⟩).widen rest_le
  termination_by 32 * start.weight + 2

/-- A name, a string, a digit string, or a group. -/
def parseAtom (start : TokenStream) : Outcome Expr start.weight :=
  start.readThen fun token rest spent =>
    match token.lexeme with
    | .digits text => ⟨.ok (.digits text), rest, by omega⟩
    | .identifier name => ⟨.ok (.identifier name), rest, by omega⟩
    | .string text => ⟨.ok (.string text), rest, by omega⟩
    | lexeme =>
        if opens : token.isMark '(' then
          have less : rest.weight < start.weight := by
            have := cost_of_isMark opens
            omega
          (parseGroup rest).widen (by omega)
        else
          rest.failThen token (.expectedOperand lexeme) (by omega)
  termination_by 32 * start.weight + 1

/--
What an opening parenthesis, which has been read, groups: an expression and
the closing parenthesis.
-/
def parseGroup (start : TokenStream) : Outcome Expr start.weight :=
  start.peekThen fun token same same_le =>
    if token.isFinish then
      same.failThen token .unbalancedParentheses same_le
    else if token.isMark ')' then
      same.failThen token .emptyParentheses same_le
    else
      ((parseLevel .comma same).andThen fun inner rest rest_le =>
        (rest.readThen fun close after spent =>
          if close.isMark ')' then ⟨.ok inner, after, by omega⟩
          else
            after.failThen close .unbalancedParentheses
              (by omega)).widen rest_le).widen same_le
  termination_by 32 * start.weight + 18
  decreasing_by
    simp only [Level.strength]
    omega

end

/-- Expressions up to the end of the text, with semicolons between them. -/
def parseStatements (start : TokenStream) : Outcome (List Expr) start.weight :=
  start.readThen fun token rest spent =>
    if token.isFinish then ⟨.ok [], rest, by omega⟩
    else if separates : token.isMark ';' then
      have less : rest.weight < start.weight := by
        have := cost_of_isMark separates
        omega
      (parseStatements rest).widen (by omega)
    else
      rest.handBackThen token spent fun whole whole_le =>
        ((parseLevel .comma whole).andThen fun statement after after_le =>
          (after.readThen fun terminator later later_spent =>
            if terminator.isFinish then ⟨.ok [statement], later, by omega⟩
            else if separates : terminator.isMark ';' then
              have less : later.weight < after.weight := by
                have := cost_of_isMark separates
                omega
              ((parseStatements later).map (statement :: ·)).widen (by omega)
            else
              later.failThen terminator (.unexpectedToken terminator.lexeme)
                (by omega)).widen after_le).widen whole_le
  termination_by start.weight

/-- Read one expression and leave what follows it. -/
def expression : Reading Expr := fun stream =>
  (parseLevel .comma stream).toResult

/-- Read one atom and leave what follows it. -/
def atom : Reading Expr := fun stream =>
  (parseAtom stream).toResult

/-- Read one expression that is all of the text. -/
def completeExpression : Reading Expr := do
  let expr ← expression
  expectFinish
  return expr

/-- Read expressions with semicolons between them, up to the end. -/
def statements : Reading (List Expr) := fun stream =>
  (parseStatements stream).toResult

end TokenStream

/-- The expression that a text is in a notation. -/
def Expr.parse (text : String) (grammar : Grammar) : Except ParseError Expr :=
  Reading.answer TokenStream.completeExpression
    (TokenStream.ofText text 1 grammar)

end Whirlwind
