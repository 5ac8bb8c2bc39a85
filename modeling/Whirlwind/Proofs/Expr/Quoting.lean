import Whirlwind.Proofs.Expr.Grammar
import Whirlwind.Proofs.Token.Tiling
import Whirlwind.Proofs.Token.Word

/-!
# Parentheses outside strings

A text can be passed over character by character to tell which of them stand in
its strings (`Quoting`).  The parentheses that stand outside are just those that
are read as parentheses (`Lexer.openings_of_reads`).
-/

namespace Whirlwind

/-- Where a place in a text stands. -/
inductive Quoting where
  | outside
  /-- In a string. -/
  | inside
  /-- In a string, right behind a backslash. -/
  | escaped
  deriving DecidableEq, Repr

namespace Quoting

variable {quoting : Quoting} {front back text body : List Char}

/-- Go on over a character. -/
def step : Quoting → Char → Quoting
  | .outside, character => if character = '"' then .inside else .outside
  | .inside, character =>
      if character = '"' then .outside
      else if character = '\\' then .escaped
      else .inside
  | .escaped, _ => .inside

/-- Go on over a text. -/
def after (quoting : Quoting) (text : List Char) : Quoting :=
  text.foldl step quoting

/-- The number of opening parentheses in a text that stand outside strings. -/
def openings : Quoting → List Char → Nat
  | _, [] => 0
  | quoting, character :: rest =>
      (if quoting = .outside ∧ character = '(' then 1 else 0) +
        openings (quoting.step character) rest

@[simp]
theorem after_nil (quoting : Quoting) : quoting.after [] = quoting :=
  rfl

@[simp]
theorem after_cons (quoting : Quoting) (character : Char) (text : List Char) :
    quoting.after (character :: text) = (quoting.step character).after text :=
  rfl

@[simp]
theorem after_append (quoting : Quoting) (front back : List Char) :
    quoting.after (front ++ back) = (quoting.after front).after back :=
  List.foldl_append

@[simp]
theorem openings_append (quoting : Quoting) (front back : List Char) :
    quoting.openings (front ++ back) =
      quoting.openings front + (quoting.after front).openings back := by
  induction front generalizing quoting with
  | nil => simp [openings]
  | cons character front ih =>
      rw [List.cons_append, openings, ih, openings, after_cons, Nat.add_assoc]

@[simp]
theorem openings_opening (text : List Char) :
    outside.openings ('(' :: text) = outside.openings text + 1 :=
  Nat.add_comm _ _

@[simp]
theorem openings_closing (text : List Char) :
    outside.openings (')' :: text) = outside.openings text :=
  Nat.zero_add _

/-- A text without quotes and parentheses stays outside and opens nothing. -/
theorem outside_of_plain
    (plain : ∀ character ∈ text, character ≠ '"' ∧ character ≠ '(') :
    outside.after text = outside ∧ outside.openings text = 0 := by
  induction text with
  | nil => exact ⟨rfl, rfl⟩
  | cons character text ih =>
      have here := plain character List.mem_cons_self
      have stays : outside.step character = outside := if_neg here.1
      rw [after_cons, openings, stays, if_neg (fun opens => here.2 opens.2),
        Nat.zero_add]
      exact ih fun other member => plain other (List.mem_cons_of_mem _ member)

/-- What stands between the quotes of a string stays inside. -/
theorem inside_of_decodes (decodes : Text.Decodes body text) :
    inside.after body = inside ∧ inside.openings body = 0 := by
  induction decodes with
  | done => exact ⟨rfl, rfl⟩
  | plain apart _ ih =>
      simp only [List.mem_cons, not_or] at apart
      simpa [openings, step, apart.1, apart.2.1] using ih
  | escape | kept => simpa [openings, step]

end Quoting

namespace Lexeme

variable {grammar : Grammar} {lexeme : Lexeme} {span rest : List Char}

/-- Only the lexeme of an opening parenthesis is written with one outside a
string, and no lexeme leaves a string open. -/
theorem openings_of_occupies (builds : Derives.Builds lexeme)
    (shaped : lexeme.Wordlike grammar) (occupies : lexeme.Occupies span rest) :
    Quoting.outside.after span = .outside ∧
      Quoting.outside.openings span = [lexeme].count (.mark '(') := by
  cases lexeme with
  | identifier name =>
      rcases (show span = name.toList from occupies) with rfl
      refine Quoting.outside_of_plain fun character member => ?_
      have letter := shaped.1 character member
      constructor <;> rintro rfl <;> revert letter <;> decide
  | digits text =>
      rcases (show span = text.toList from occupies) with rfl
      refine Quoting.outside_of_plain fun character member => ?_
      have digit := shaped.2 character member
      constructor <;> rintro rfl <;> revert digit <;> decide
  | string text =>
      rcases occupies with ⟨body, rfl, decodes⟩
      rcases Quoting.inside_of_decodes decodes with ⟨stays, nothing⟩
      simp [Quoting.openings, Quoting.step, stays, nothing]
  | operator op =>
      rcases (show span = (Lexeme.operator op).text.toList from occupies) with
        rfl
      cases op with
      | mark character =>
          have other : character ≠ '"' := by
            rintro rfl
            have known : grammar.isMark '"' = true ∨ '"' = '@' := shaped
            cases grammar <;> revert known <;> decide
          by_cases opens : character = '('
          · rcases opens with rfl
            exact ⟨rfl, rfl⟩
          · have apart : Lexeme.mark character ≠ .mark '(' := by simpa
            rw [List.count_singleton, beq_false_of_ne apart]
            refine Quoting.outside_of_plain fun found member => ?_
            have same : found = character := by
              simpa [Lexeme.text, Operator.symbol] using member
            exact same ▸ ⟨other, opens⟩
      | octal | hexadecimal => exact ⟨rfl, rfl⟩
  | comment | autoComment | tab | finish => cases builds

end Lexeme

namespace Lexer

variable {grammar : Grammar}

/-- The parentheses of a tiled text are those of its lexemes. -/
theorem openings_of_tiles {firstLine : Nat} {front text : List Char}
    {tokens : List Token} (tiles : Tiles grammar firstLine front tokens text)
    (builds : ∀ token ∈ tokens, Derives.Builds token.lexeme)
    (shaped : ∀ token ∈ tokens, token.lexeme.Wordlike grammar) :
    Quoting.outside.openings text =
      (tokens.map Token.lexeme).count (.mark '(') := by
  have skipped {gap : List Char} (blank : grammar.Skips gap) :
      Quoting.outside.after gap = .outside ∧
        Quoting.outside.openings gap = 0 := by
    refine Quoting.outside_of_plain fun character member => ?_
    have isGap := blank character member
    constructor <;> rintro rfl <;> revert isGap <;> cases grammar <;> decide
  induction tiles with
  | finish blank => exact (skipped blank).2
  | token blank occupies _ ih =>
      rw [List.forall_mem_cons] at builds shaped
      rcases Lexeme.openings_of_occupies builds.1 shaped.1 occupies with
        ⟨stays, opened⟩
      rw [Quoting.openings_append, Quoting.openings_append, (skipped blank).1,
        (skipped blank).2, stays, opened, ih builds.2 shaped.2, Nat.zero_add]
      exact List.count_append.symm
  | split blank splits =>
      rcases splits with ⟨text, rfl, _⟩
      exact (builds _ List.mem_cons_self).elim

/-- The lexemes that build a tree have the parentheses that stand outside the
strings of the text in which they are read. -/
theorem openings_of_reads {text : String} {lexemes : List Lexeme} {last : Lexer}
    (words : grammar.hasRuns = false)
    (reads : (ofText text 1 grammar).Reads (lexemes ++ [.finish]) last)
    (builds : ∀ lexeme ∈ lexemes, Derives.Builds lexeme) :
    Quoting.outside.openings text.toList = lexemes.count (.mark '(') := by
  have endless : .finish ∉ lexemes := fun member => builds _ member
  rcases exists_tokens_of_reads reads endless with ⟨tokens, read, rfl⟩
  have tiles := ((tokens_ofText_iff.1 read).tiles rfl).1 nofun
  refine openings_of_tiles tiles (fun token member => ?_)
    fun token member => ?_
  · exact builds _ (List.mem_map_of_mem member)
  · exact reads.wordlike words _
      (List.mem_append_left _ (List.mem_map_of_mem member))

end Lexer

end Whirlwind
