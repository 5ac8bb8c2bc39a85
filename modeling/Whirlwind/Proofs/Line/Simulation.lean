import Whirlwind.Line.Parser
import Whirlwind.Proofs.Expr.Simulation

/-!
# Lines of streams in step

On streams that are in step the lines of every notation are read alike, if what
is read past the tokens is alike as well: the rest of a line, behind a token
that is no comment and with nothing handed back, and the first field of a tape
line, before any token.
-/

namespace Whirlwind

open TokenStream

/-- A simulation in which the rest of a line is read alike. -/
structure LineSimulation extends Simulation where
  hasReturned_eq : ∀ {start twin : TokenStream}, Agrees start twin →
    twin.hasReturned = start.hasReturned
  respects_restOfLine : ∀ {token : Token} {rest other : TokenStream},
    Behind token rest other → (∀ text, token.lexeme ≠ .comment text) →
      rest.hasReturned = false →
      toSimulation.Respects (onLexer Lexer.restOfLine) (fun _ => Agrees) rest
        other

namespace Simulation

variable {simulation : Simulation} {start twin rest other : TokenStream}
  {token : Token}

theorem respects_operand (agrees : simulation.Agrees start twin) :
    simulation.Respects operand? (fun _ => simulation.Agrees) start twin := by
  refine (respects_peek agrees).bind fun token same other agreesSame => ?_
  split
  · exact (respects_expression agreesSame).bind fun _ _ _ agreesRest =>
      respects_pure agreesRest
  · exact respects_pure agreesSame

theorem respects_prefixDigits (agrees : simulation.Agrees start twin) :
    simulation.Respects prefixDigits (fun _ => simulation.Agrees) start
      twin := by
  refine (respects_next agrees).bind fun token rest other behind => ?_
  split
  · exact respects_pure (simulation.agrees_of_behind behind)
  · exact respects_fail behind trivial

theorem respects_prefixOffset (agrees : simulation.Agrees start twin) :
    simulation.Respects prefixOffset? (fun _ => simulation.Agrees) start
      twin := by
  refine (respects_next agrees).bind fun token rest other behind => ?_
  have agreesRest := simulation.agrees_of_behind behind
  split
  · refine (respects_prefixDigits agreesRest).bind fun offset _ _ agreesColon =>
      (respects_next agreesColon).bind fun colon _ _ behindColon => ?_
    split
    · exact respects_pure (simulation.agrees_of_behind behindColon)
    · exact respects_fail behindColon trivial
  · split
    · exact respects_pure agreesRest
    · exact respects_fail behind trivial

theorem respects_prefixAddress (agrees : simulation.Agrees start twin) :
    simulation.Respects prefixAddress? (fun _ => simulation.Agrees) start
      twin := by
  refine (respects_next agrees).bind fun token rest other behind => ?_
  split
  · exact (respects_prefixDigits (simulation.agrees_of_behind behind)).bind
      fun _ _ _ agreesOffset =>
        (respects_prefixOffset agreesOffset).bind fun _ _ _ agreesContents =>
          (respects_prefixDigits agreesContents).bind
            fun _ _ _ agreesLast => respects_pure agreesLast
  · exact (respects_handBack behind).bind fun _ _ _ agreesWhole =>
      respects_pure agreesWhole

theorem respects_commentsFrom (trailing : String)
    (behind : simulation.Behind token rest other) :
    simulation.Respects (commentsFrom trailing token)
      (fun _ => simulation.Agrees) rest other := by
  unfold commentsFrom
  split
  · exact respects_pure (simulation.agrees_of_behind behind)
  · exact (respects_handBack behind).bind fun _ _ _ agreesWhole =>
      respects_pure agreesWhole

theorem respects_comments (agrees : simulation.Agrees start twin) :
    simulation.Respects comments (fun _ => simulation.Agrees) start twin := by
  refine (respects_next agrees).bind fun token rest other behind => ?_
  split
  · exact (respects_next (simulation.agrees_of_behind behind)).bind
      fun _ _ _ behindNext => respects_commentsFrom _ behindNext
  · exact respects_commentsFrom _ behind

theorem respects_sectionOffset (agrees : simulation.Agrees start twin) :
    simulation.Respects sectionOffset? (fun _ => simulation.Agrees) start
      twin := by
  refine (respects_next agrees).bind fun token rest other behind => ?_
  have agreesRest := simulation.agrees_of_behind behind
  split
  · split
    · exact respects_fail behind trivial
    · refine (respects_next agreesRest).bind
        fun separator _ _ behindSeparator => ?_
      split
      · exact respects_pure (simulation.agrees_of_behind behindSeparator)
      · exact (respects_handBack behindSeparator).bind
          fun _ _ _ agreesWhole => respects_pure agreesWhole
  · exact respects_pure agreesRest
  · exact (respects_handBack behind).bind fun _ _ _ agreesWhole =>
      respects_pure agreesWhole

theorem respects_debuggerLine (line : Line)
    (agrees : simulation.Agrees start twin) :
    simulation.Respects (debuggerLine line) (fun _ => simulation.Agrees) start
      twin := by
  refine (respects_next agrees).bind fun token rest other behind => ?_
  have agreesRest := simulation.agrees_of_behind behind
  split
  · exact respects_pure agreesRest
  · exact (respects_operand agreesRest).bind fun _ _ _ agreesEnd =>
      (respects_expectFinish agreesEnd).bind fun _ _ _ agreesLast =>
        respects_pure agreesLast
  · exact respects_fail behind rfl

theorem respects_expressionLine (line : Line)
    (agrees : simulation.Agrees start twin) :
    simulation.Respects (expressionLine line) (fun _ => simulation.Agrees)
      start twin := by
  refine (respects_operand agrees).bind fun operand _ _ agreesEnd =>
    (respects_next agreesEnd).bind fun token rest other behind => ?_
  split
  · exact (respects_expectFinish (simulation.agrees_of_behind behind)).bind
      fun _ _ _ agreesLast => respects_pure agreesLast
  · exact (respects_handBack behind).bind fun _ _ _ agreesWhole =>
      (respects_expectFinish agreesWhole).bind fun _ _ _ agreesLast =>
        respects_pure agreesLast

end Simulation

namespace LineSimulation

open Simulation

variable {simulation : LineSimulation} {start twin rest other : TokenStream}
  {token : Token} {Result : Type}
  {post : Result → TokenStream → TokenStream → Prop}

/-- Looking at a stream goes alike if what is done then does not depend on it. -/
theorem respects_get {proceed : TokenStream → Reading Result}
    (same : proceed twin = proceed start)
    (later : simulation.Respects (proceed start) post start twin) :
    simulation.Respects (get >>= proceed) post start twin := by
  show simulation.Alike post (proceed start start) (proceed twin twin)
  rw [same]
  exact later

/-- A directive goes alike right behind the token that is to name it. -/
theorem respects_directive (behind : simulation.Behind token rest other) :
    simulation.Respects (directive token) (fun _ => simulation.Agrees) rest
      other := by
  have agrees := simulation.agrees_of_behind behind
  unfold directive
  split
  · next name lexeme =>
    refine respects_get (by rw [simulation.hasReturned_eq agrees]) ?_
    split
    · next raw =>
      simp only [Bool.and_eq_true, Bool.not_eq_true'] at raw
      exact (simulation.respects_restOfLine behind (by simp [lexeme])
        raw.2).bind fun _ _ _ agreesRest => respects_pure agreesRest
    · exact (respects_operand agrees).bind fun _ _ _ agreesRest =>
        respects_pure agreesRest
  · exact respects_fail behind trivial

theorem respects_statement (agrees : simulation.Agrees start twin) :
    simulation.Respects statement? (fun _ => simulation.Agrees) start twin := by
  refine (respects_next agrees).bind fun token rest other behind => ?_
  have agreesRest := simulation.agrees_of_behind behind
  split
  · exact (respects_operand agreesRest).bind fun _ _ _ agreesLast =>
      respects_pure agreesLast
  · exact (respects_next agreesRest).bind fun _ _ _ behindName =>
      (respects_directive behindName).bind fun _ _ _ agreesLast =>
        respects_pure agreesLast
  · exact (respects_handBack behind).bind fun _ _ _ agreesWhole =>
      respects_pure agreesWhole

theorem respects_labelled (agrees : simulation.Agrees start twin) :
    simulation.Respects labelled (fun _ => simulation.Agrees) start twin := by
  refine (respects_next agrees).bind fun token rest other behind => ?_
  split
  · refine (respects_next (simulation.agrees_of_behind behind)).bind
      fun after _ _ behindAfter => ?_
    split
    · exact (respects_statement
        (simulation.agrees_of_behind behindAfter)).bind
          fun _ _ _ agreesLast => respects_pure agreesLast
    · exact (respects_handBack behindAfter).bind fun _ _ _ agreesWhole =>
        (respects_operand agreesWhole).bind fun _ _ _ agreesLast =>
          respects_pure agreesLast
  · exact (respects_handBack behind).bind fun _ _ _ agreesWhole =>
      (respects_statement agreesWhole).bind fun _ _ _ agreesLast =>
        respects_pure agreesLast

theorem respects_conditional (agrees : simulation.Agrees start twin) :
    simulation.Respects conditional (fun _ => simulation.Agrees) start
      twin := by
  refine (respects_next agrees).bind fun token rest other behind => ?_
  split
  · refine (respects_next (simulation.agrees_of_behind behind)).bind
      fun name _ _ behindName => ?_
    split
    · exact (respects_atom (simulation.agrees_of_behind behindName)).bind
        fun _ _ _ agreesLabel =>
          (respects_labelled agreesLabel).bind
            fun _ _ _ agreesLast => respects_pure agreesLast
    · exact (respects_directive behindName).bind fun _ _ _ agreesLast =>
        respects_pure agreesLast
  · exact (respects_handBack behind).bind fun _ _ _ agreesWhole =>
      (respects_labelled agreesWhole).bind fun _ _ _ agreesLast =>
        respects_pure agreesLast

theorem respects_assemblyLine (line : Line)
    (agrees : simulation.Agrees start twin) :
    simulation.Respects (assemblyLine line) (fun _ => simulation.Agrees) start
      twin :=
  (respects_prefixAddress agrees).bind fun _ _ _ agreesCondition =>
    (respects_conditional agreesCondition).bind fun _ _ _ agreesComments =>
      (respects_comments agreesComments).bind fun _ _ _ agreesEnd =>
        (respects_expectFinish agreesEnd).bind fun _ _ _ agreesLast =>
          respects_pure agreesLast

theorem respects_tapeComment (agrees : simulation.Agrees start twin) :
    simulation.Respects tapeComment (fun _ => simulation.Agrees) start
      twin := by
  refine (respects_next agrees).bind fun token rest other behind => ?_
  have agreesRest := simulation.agrees_of_behind behind
  split
  · next lexeme =>
    refine respects_get (by rw [simulation.hasReturned_eq agreesRest]) ?_
    split
    · exact respects_fail behind rfl
    · next nothing =>
      exact (simulation.respects_restOfLine behind (by simp [lexeme])
        (by simpa using nothing)).bind fun _ _ _ agreesEnd =>
          (respects_expectFinish agreesEnd).bind fun _ _ _ agreesLast =>
            respects_pure agreesLast
  · exact (respects_expectFinish agreesRest).bind fun _ _ _ agreesLast =>
      respects_pure agreesLast
  · exact respects_pure agreesRest
  · exact respects_fail behind rfl

/-- A tape line goes alike if its first field does. -/
theorem respects_tapeLine (line : Line)
    (field : simulation.Respects (onLexer Lexer.nextField)
      (fun _ => simulation.Agrees) start twin) :
    simulation.Respects (tapeLine line) (fun _ => simulation.Agrees) start
      twin := by
  refine field.bind fun field _ _ agrees =>
    (respects_next agrees).bind fun token rest other behind => ?_
  have agreesRest := simulation.agrees_of_behind behind
  split
  · exact respects_pure agreesRest
  · exact (respects_sectionOffset agreesRest).bind
      fun _ _ _ agreesStatement =>
        (respects_statement agreesStatement).bind fun _ _ _ agreesComment =>
          (respects_tapeComment agreesComment).bind
            fun _ _ _ agreesLast => respects_pure agreesLast
  · exact respects_fail behind rfl

/-- A line of any notation goes alike on streams that are in step. -/
theorem respects_line (grammar : Grammar) (line : Line)
    (agrees : simulation.Agrees start twin)
    (field : simulation.Respects (onLexer Lexer.nextField)
      (fun _ => simulation.Agrees) start twin) :
    simulation.Respects (TokenStream.line grammar line)
      (fun _ => simulation.Agrees) start twin := by
  cases grammar with
  | assembly => exact respects_assemblyLine line agrees
  | tape => exact respects_tapeLine line field
  | debugger => exact respects_debuggerLine line agrees
  | expression => exact respects_expressionLine line agrees

end LineSimulation

end Whirlwind
