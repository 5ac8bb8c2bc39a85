import Whirlwind.Proofs.Token.Alphabet
import Whirlwind.Proofs.Token.Replay
import Whirlwind.Proofs.Token.Standing

/-!
# Lexing ends and stays ended

A lexer that is called again and again answers with tokens of the text, and then
with the finishing token or an error.  Not every token takes up text: a comment
behind two at signs may be empty.  But every one of them takes something off the
weight, so there are no more of them than that (`Lexer.exists_ending`), and the
weight of a lexer that has read nothing is the length of its text.  Behind the
finishing token every call answers with the same token.
-/

namespace Whirlwind.Lexer

variable {lexer after : Lexer} {token finish : Token} {error : SyntaxError}

/-- An answer that is no token of the text. -/
def Ends : Except SyntaxError Token → Prop
  | .ok token => token.lexeme = .finish
  | .error _ => True

theorem answers_of_ok (read : lexer.next = .ok token after) (count : Nat) :
    lexer.answers (count + 1) = .ok token :: after.answers count := by
  rw [answers, read]

theorem answers_of_error (read : lexer.next = .error error after)
    (count : Nat) :
    lexer.answers (count + 1) = .error error :: after.answers count := by
  rw [answers, read]

@[simp]
theorem weight_ofText (text : String) (firstLine : Nat) (grammar : Grammar) :
    (ofText text firstLine grammar).weight = text.length := by
  have unread := (Cursor.faces_ofText text firstLine).remaining
  simp [weight, ofText, unread, String.length_toList]

/-- There are no more tokens than the weight before the first other answer. -/
theorem exists_ending (lexer : Lexer) :
    ∃ (tokens : List Token) (last : Except SyntaxError Token),
      tokens.length ≤ lexer.weight ∧
      (∀ token ∈ tokens, token.lexeme ≠ .finish) ∧ Ends last ∧
      lexer.answers (tokens.length + 1) = tokens.map .ok ++ [last] := by
  -- On the weight, as a token may leave as much text behind as there was.
  induction weighed : lexer.weight using Nat.strong_induction_on
    generalizing lexer with
  | _ weight ih =>
    cases read : lexer.next with
    | error error after =>
        exact ⟨[], .error error, Nat.zero_le _, by simp, trivial,
          answers_of_error read 0⟩
    | ok token after =>
        by_cases finishes : token.lexeme = .finish
        · exact ⟨[], .ok token, Nat.zero_le _, by simp, finishes,
            answers_of_ok read 0⟩
        · have spent := weight_next read
          rw [cost_of_ne_finish finishes, weighed] at spent
          rcases ih after.weight (by omega) after rfl with
            ⟨tokens, last, bounded, others, ends, answered⟩
          refine ⟨token :: tokens, last, ?_, ?_, ends, ?_⟩
          · rw [List.length_cons]
            omega
          · exact List.forall_mem_cons.2 ⟨finishes, others⟩
          · rw [List.length_cons, answers_of_ok read, answered]
            rfl

/-- Where the finishing token is found, all calls answer with it. -/
theorem answers_of_finish (read : lexer.next = .ok finish after)
    (ends : finish.lexeme = .finish) (count : Nat) :
    lexer.answers count = List.replicate count (.ok finish) := by
  induction count generalizing lexer after with
  | zero => rfl
  | succ count ih =>
      rw [answers_of_ok read, ih (next_of_finish read ends),
        List.replicate_succ]

/-- All answers behind the finishing token are that token. -/
theorem eq_finish_of_behind {count : Nat}
    {front behind : List (Except SyntaxError Token)}
    (answered : lexer.answers count = front ++ .ok finish :: behind)
    (ends : finish.lexeme = .finish) :
    ∀ answer ∈ behind, answer = .ok finish := by
  induction front generalizing lexer count with
  | nil =>
      cases count with
      | zero => cases answered
      | succ count =>
          cases read : lexer.next with
          | error error after =>
              rw [answers_of_error read] at answered
              cases answered
          | ok token after =>
              rw [answers_of_ok read] at answered
              rcases List.cons.inj answered with ⟨same, rfl⟩
              cases same
              rw [answers_of_finish (next_of_finish read ends) ends]
              exact fun answer member => List.eq_of_mem_replicate member
  | cons first front ih =>
      cases count with
      | zero => cases answered
      | succ count =>
          cases read : lexer.next with
          | error error after =>
              rw [answers_of_error read] at answered
              exact ih (List.cons.inj answered).2
          | ok token after =>
              rw [answers_of_ok read] at answered
              exact ih (List.cons.inj answered).2

/--
Of the calls of a lexer that has read nothing, no more answer with a token than
its text has characters before one answers with the finishing token or an error.
Behind the finishing token all calls answer with it, place included.
-/
theorem answers_ofText_end (text : String) (firstLine : Nat)
    (grammar : Grammar) :
    (∃ (tokens : List Token) (last : Except SyntaxError Token),
      tokens.length ≤ text.length ∧
      (∀ token ∈ tokens, token.lexeme ≠ .finish) ∧ Ends last ∧
      (ofText text firstLine grammar).answers (tokens.length + 1) =
        tokens.map .ok ++ [last]) ∧
    ∀ (count : Nat) (front behind : List (Except SyntaxError Token))
      (finish : Token),
      (ofText text firstLine grammar).answers count =
        front ++ .ok finish :: behind →
      finish.lexeme = .finish → ∀ answer ∈ behind, answer = .ok finish := by
  constructor
  · rw [← weight_ofText text firstLine grammar]
    exact exists_ending _
  · exact fun count front behind finish answered ends =>
      eq_finish_of_behind answered ends

/-- An empty comment behind at signs, and a radix mark that ends its text. -/
theorem answers_ofText_end_empty :
    let lexer := ofText ";@@\n0x" 3 .assembly
    let front : List (Except SyntaxError Token) :=
      [.ok ⟨.comment "", ⟨3, 0⟩⟩, .ok ⟨.autoComment "", ⟨3, 3⟩⟩,
        .ok ⟨.operator .hexadecimal, ⟨4, 0⟩⟩]
    let finish : Token := ⟨.finish, ⟨4, 2⟩⟩
    lexer.answers 6 = front ++ .ok finish :: [.ok finish, .ok finish] ∧
      finish.lexeme = .finish ∧
      ∀ answer ∈ [Except.ok finish, (.ok finish : Except SyntaxError Token)],
        answer = .ok finish := by
  intro lexer front finish
  have answered : lexer.answers 6 =
      front ++ .ok finish :: [.ok finish, .ok finish] := by
    decide +kernel
  exact ⟨answered, rfl,
    (answers_ofText_end ";@@\n0x" 3 .assembly).2 6 front _ finish answered rfl⟩

end Whirlwind.Lexer
