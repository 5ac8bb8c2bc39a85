import Whirlwind.Token.Lexer.Weight

/-!
# Token streams

A lexer with a few tokens that were read and then handed back.  The tokens
handed back are read again before the lexer is asked, the latest one first.
There is room for `capacity` of them, which the grammars never use up.

A stream's weight bounds the tokens still to come, as that of a lexer does.
-/

namespace Whirlwind

/-- Why reading from a stream fails. -/
inductive ParseError where
  | malformed (error : SyntaxError)
  /-- A token was handed back with no room left. -/
  | noRoom (capacity : Nat)
  deriving DecidableEq, Repr

/-- The text of an error. -/
def ParseError.message : ParseError → String
  | .malformed error => error.cause.message
  | .noRoom capacity =>
      "token pushback buffer overflow (capacity " ++ toString capacity ++ ")"

/-- A lexer and the tokens that were handed back, the latest first. -/
structure TokenStream where
  lexer : Lexer
  returned : List Token := []
  capacity : Nat := 4
  deriving DecidableEq, Repr

/-- An action that reads from a stream. -/
abbrev Reading :=
  EStateM ParseError TokenStream

/-- What an action answers on a stream, whatever stream it leaves. -/
def Reading.answer {Answer : Type} (action : Reading Answer)
    (stream : TokenStream) : Except ParseError Answer :=
  match action.run stream with
  | .ok result _ => .ok result
  | .error error _ => .error error

namespace TokenStream

/-- A stream at the start of a text whose first line has a given number. -/
def ofText (text : String) (firstLine : Nat) (grammar : Grammar) :
    TokenStream where
  lexer := Lexer.ofText text firstLine grammar

/-- A bound on the number of tokens still to come. -/
def weight (stream : TokenStream) : Nat :=
  stream.returned.foldr (fun token weight => weight + token.lexeme.cost)
    stream.lexer.weight

/-- Read a token. -/
def next : Reading Token := fun stream =>
  match stream.returned with
  | token :: rest => .ok token { stream with returned := rest }
  | [] =>
      match stream.lexer.next with
      | .ok token lexer => .ok token { stream with lexer := lexer }
      | .error error lexer =>
          .error (.malformed error) { stream with lexer := lexer }

/-- Hand a token back, to be read next. -/
def handBack (token : Token) : Reading PUnit := fun stream =>
  if stream.returned.length < stream.capacity then
    .ok ⟨⟩ { stream with returned := token :: stream.returned }
  else
    .error (.noRoom stream.capacity) stream

/-- Read a token and hand it back. -/
def peek : Reading Token := do
  let token ← next
  handBack token
  return token

/-- The error of a token, shown with the line that was looked at last. -/
def errorAt (stream : TokenStream) (token : Token)
    (cause : SyntaxError.Cause) : ParseError :=
  .malformed ⟨cause, token.location, stream.lexer.cursor.lineText⟩

/-- Fail because of a token. -/
def fail {Result : Type} (token : Token) (cause : SyntaxError.Cause) :
    Reading Result := fun stream =>
  .error (stream.errorAt token cause) stream

/-- Read a token, which has to be the end of the text. -/
def expectFinish : Reading PUnit := do
  let token ← next
  if token.isFinish then return ⟨⟩
  else fail token (.unexpectedToken token.lexeme)

/-- Whether a token has been handed back and not read again. -/
def hasReturned (stream : TokenStream) : Bool :=
  !stream.returned.isEmpty

/-- Run an action of the lexer, past the tokens handed back. -/
def onLexer {Result : Type} (action : StateM Lexer Result) :
    Reading Result := fun stream =>
  let (result, lexer) := action.run stream.lexer
  .ok result { stream with lexer := lexer }

/-- A token takes at least its cost off the weight. -/
theorem weight_next {stream after : TokenStream} {token : Token}
    (read : stream.next = .ok token after) :
    after.weight + token.lexeme.cost ≤ stream.weight := by
  simp only [next] at read
  split at read
  · next rest returned =>
      obtain ⟨rfl, rfl⟩ := EStateM.Result.ok.inj read
      simp [weight, returned]
  · next returned =>
      split at read
      · next lexed =>
          obtain ⟨rfl, rfl⟩ := EStateM.Result.ok.inj read
          have := Lexer.weight_next lexed
          simpa [weight, returned] using this
      · cases read

/-- A read that fails adds nothing to the weight. -/
theorem weight_next_error {stream after : TokenStream} {error : ParseError}
    (read : stream.next = .error error after) :
    after.weight ≤ stream.weight := by
  simp only [next] at read
  split at read
  · cases read
  · next returned =>
      split at read
      · cases read
      · next lexed =>
          obtain ⟨_, rfl⟩ := EStateM.Result.error.inj read
          have := Lexer.weight_next_error lexed
          simpa [weight, returned] using this

/-- A token handed back adds its cost to the weight. -/
theorem weight_handBack {stream after : TokenStream} {token : Token}
    {done : PUnit} (returned : stream.handBack token = .ok done after) :
    after.weight = stream.weight + token.lexeme.cost := by
  simp only [handBack] at returned
  split at returned
  · obtain ⟨_, rfl⟩ := EStateM.Result.ok.inj returned
    simp [weight]
  · cases returned

/-- Where there is no room for a token the stream stays as it is. -/
theorem handBack_error {stream after : TokenStream} {token : Token}
    {error : ParseError} (refused : stream.handBack token = .error error after) :
    after = stream := by
  simp only [handBack] at refused
  split at refused
  · cases refused
  · exact (EStateM.Result.error.inj refused).2.symm

end TokenStream

end Whirlwind
