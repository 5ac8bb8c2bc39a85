import Whirlwind.Line.Parser
import Whirlwind.Proofs.Expr.Listing

/-!
# Reading the lexemes of a line

What the actions that read a line of assembly source answer with when the
lexemes of its parts are on offer.  A part that is left out is told from one
that is there by the first lexeme that stands behind it.
-/

namespace Whirlwind

/-- The lexemes of an operand, if there is one. -/
def operandLexemes (operand : Option Expr) : List Lexeme :=
  (operand.map Expr.lexemes).getD []

/-- The lexemes of a condition, if there is one. -/
def conditionLexemes (condition : Option Expr) : List Lexeme :=
  match condition with
  | some expr => .mark '.' :: .identifier "if" :: expr.lexemes
  | none => []

/--
Lexemes spell a tree, if there is one, as a phrase of a kind behind others by
which it is told that there is one.
-/
def Phrase.Spells (phrase : Phrase) (opening lexemes : List Lexeme) :
    Option Expr → Prop
  | none => lexemes = []
  | some expr => ∃ inner,
      lexemes = opening ++ inner ∧ Derives phrase inner [] expr

theorem spells_operandLexemes (operand : Option Expr) :
    Phrase.list.Spells [] (operandLexemes operand) operand := by
  cases operand with
  | none => rfl
  | some expr => exact ⟨expr.lexemes, rfl, expr.derives_list []⟩

theorem spells_conditionLexemes {condition : Option Expr}
    (leaf : ∀ expr ∈ condition, expr.isLeaf = true) :
    Phrase.atom.Spells [.mark '.', .identifier "if"]
      (conditionLexemes condition) condition := by
  cases condition with
  | none => rfl
  | some expr =>
      exact ⟨expr.lexemes, rfl, Expr.derives_atom (leaf expr rfl) []⟩

/-- The lexemes of the offset in a prefix address, if there is one. -/
def offsetLexemes (offset : Option String) : List Lexeme :=
  match offset with
  | some offset => [.mark '.', .digits offset]
  | none => []

/-- The lexemes of a prefix address. -/
def PrefixAddress.lexemes (address : PrefixAddress) : List Lexeme :=
  .mark '@' :: .digits address.address ::
    (offsetLexemes address.offset ++
      [.mark ':', .digits address.contents])

/-- An operand and what stands in front of it come to an end. -/
def EndsOperand (rest : List Lexeme) : Prop :=
  ∃ first more, rest = first :: more ∧ first.startsOperand = false

theorem EndsOperand.ends {rest : List Lexeme} (stops : EndsOperand rest)
    (phrase : Phrase) : phrase.Ends rest := by
  rcases stops with ⟨first, more, rfl, apart⟩
  refine ⟨first, more, rfl, ?_⟩
  rintro character _ rfl
  cases apart

theorem startsOperand_of_opens {lexeme : Lexeme}
    (opens : Derives.Opens lexeme) : lexeme.startsOperand = true := by
  cases lexeme with
  | identifier | digits | string | operator => rfl
  | comment | autoComment | tab | finish =>
      rcases opens with same | ⟨op, signs⟩
      · cases same
      · cases signs

namespace TokenStream

open Reading

variable {start : TokenStream} {written lexemes rest : List Lexeme}
  {last finish : Lexer}

theorem Offers.yields_operand {operand : Option Expr}
    (offers : start.Offers (written ++ rest) last)
    (spelled : Phrase.list.Spells [] written operand)
    (stops : EndsOperand rest) :
    operand?.Yields start operand rest last := by
  unfold operand?
  cases operand with
  | none =>
      cases spelled
      rcases stops with ⟨first, more, rfl, apart⟩
      refine offers.yields_peek fun token same lexeme offersSame => ?_
      rw [lexeme, apart]
      exact offersSame.yields_pure
  | some expr =>
      rcases spelled with ⟨inner, rfl, derived⟩
      rcases derived.exists_cons with ⟨first, more, rfl, opens⟩
      refine offers.yields_peek fun token same lexeme offersSame => ?_
      rw [lexeme, startsOperand_of_opens opens, if_pos rfl]
      have derivedRest : Derives .list (first :: more) rest expr :=
        derived.follow_congr (by simp)
      exact (offersSame.yields_expression derivedRest (stops.ends _)).bind
        fun _ offersRest => offersRest.yields_pure

/-- A directive whose operand is read as an expression. -/
theorem Offers.yields_directive {token : Token} {name : String}
    {operand : Option Expr}
    (offers : start.Offers (written ++ rest) last)
    (named : token.lexeme = .identifier name)
    (parsed : Instruction.takesRawOperand ⟨name, true⟩ = false)
    (spelled : Phrase.list.Spells [] written operand)
    (stops : EndsOperand rest) :
    (directive token).Yields start ⟨⟨name, true⟩, operand⟩ rest last := by
  unfold directive
  simp only [named, parsed, Bool.false_and, Bool.false_eq_true, if_false]
  refine yields_get ?_
  exact (offers.yields_operand spelled stops).bind
    fun _ offersRest => offersRest.yields_pure

/-- A stream that offers nothing is at its lexer. -/
theorem Offers.of_nil (offers : start.Offers [] last) :
    start.returned = [] ∧ start.lexer = last := by
  rcases offers with ⟨_, _, fresh, reads, none_left⟩
  rcases List.append_eq_nil_iff.1 none_left with ⟨pending, rfl⟩
  cases reads
  exact ⟨by simpa [TokenStream.pending] using pending, rfl⟩

theorem Offers.yields_onLexer {Answer : Type} {action : StateM Lexer Answer}
    {answer : Answer} (offers : start.Offers [] last)
    (run : action.run last = (answer, finish)) :
    (onLexer action).Yields start answer [] finish := by
  rcases offers.of_nil with ⟨returned, rfl⟩
  refine ⟨{ start with lexer := finish }, ?_, offers.room, offers.fits, [],
    .done, by simp [TokenStream.pending, returned]⟩
  unfold onLexer
  rw [run]

/-- The operand of a directive that takes the rest of its line as it is. -/
def rawOperand (raw : String) : Option Expr :=
  if raw = "" then none else some (.string raw)

/-- Where nothing has been handed back, the rest of the line can be taken. -/
theorem Offers.yields_rawDirective {token : Token} {name raw : String}
    (offers : start.Offers [] last)
    (named : token.lexeme = .identifier name)
    (takes : Instruction.takesRawOperand ⟨name, true⟩ = true)
    (run : Lexer.restOfLine.run last = (raw, finish)) :
    (directive token).Yields start
      ⟨⟨name, true⟩, rawOperand (Text.trim raw)⟩ [] finish := by
  unfold directive
  simp only [named, takes, Bool.true_and]
  refine yields_get ?_
  rw [hasReturned, offers.of_nil.1, List.isEmpty_nil, Bool.not_true,
    Bool.not_false, if_pos rfl]
  exact (offers.yields_onLexer run).bind
    fun _ offersRest => offersRest.yields_pure

end TokenStream

/-- The lexemes of the name of an instruction, behind a dot for a directive. -/
def Instruction.lexemes (instruction : Instruction) : List Lexeme :=
  if instruction.isDirective then
    [.mark '.', .identifier instruction.name]
  else [.identifier instruction.name]

/-- The lexemes of the name of an instruction, if there is one. -/
def instructionLexemes (instruction : Option Instruction) : List Lexeme :=
  (instruction.map Instruction.lexemes).getD []

/-- The lexemes of a label, if there is one. -/
def labelLexemes (label : Option String) : List Lexeme :=
  match label with
  | some name => [.identifier name, .mark ':']
  | none => []

/--
The lexemes on offer in front of a lexer say a statement, if there is one, and
others are left behind it, in front of another lexer.
-/
inductive Tells : Option Statement → List Lexeme → Lexer → List Lexeme →
    Lexer → Prop where
  | nothing {rest : List Lexeme} {last : Lexer} (stops : EndsOperand rest) :
      Tells none rest last rest last
  | instruction {name : String} {operand : Option Expr}
      {written rest : List Lexeme} {last : Lexer}
      (spelled : Phrase.list.Spells [] written operand)
      (stops : EndsOperand rest) :
      Tells (some ⟨⟨name, false⟩, operand⟩)
        (.identifier name :: (written ++ rest)) last rest last
  | directive {name : String} {operand : Option Expr}
      {lexemes rest : List Lexeme} {last finish : Lexer}
      (yields : ∀ (token : Token) (start : TokenStream),
        token.lexeme = .identifier name → start.Offers lexemes last →
        (TokenStream.directive token).Yields start ⟨⟨name, true⟩, operand⟩
          rest finish) :
      Tells (some ⟨⟨name, true⟩, operand⟩)
        (.mark '.' :: .identifier name :: lexemes) last rest finish

/-- An operand or what stands behind it does not start with a colon. -/
theorem exists_operand_cons {operand : Option Expr}
    {written rest : List Lexeme}
    (spelled : Phrase.list.Spells [] written operand)
    (stops : EndsOperand rest) :
    ∃ first more, written ++ rest = first :: more ∧ first ≠ .mark ':' := by
  cases operand with
  | none =>
      cases spelled
      rcases stops with ⟨first, more, rfl, apart⟩
      refine ⟨first, more, rfl, ?_⟩
      rintro rfl
      cases apart
  | some expr =>
      rcases spelled with ⟨inner, rfl, derived⟩
      rcases derived.exists_cons with ⟨first, more, rfl, opens⟩
      refine ⟨first, more ++ rest, rfl, ?_⟩
      rintro rfl
      rcases opens with same | ⟨op, signs⟩
      · cases same
      · cases signs

namespace Tells

open TokenStream Reading

variable {statement : Option Statement} {written lexemes rest : List Lexeme}
  {last finish : Lexer} {start : TokenStream}

/-- An instruction whose operand is read as an expression. -/
theorem parsed {instruction : Instruction} {operand : Option Expr}
    (raw : instruction.takesRawOperand = false)
    (spelled : Phrase.list.Spells [] written operand)
    (stops : EndsOperand rest) :
    Tells (some ⟨instruction, operand⟩)
      (instruction.lexemes ++ (written ++ rest)) last rest last := by
  rcases instruction with ⟨name, directive⟩
  cases directive with
  | false => exact .instruction spelled stops
  | true =>
      exact .directive fun token start named
        (offers : start.Offers (written ++ rest) last) =>
          offers.yields_directive named raw spelled stops

/-- A statement, if there is one, whose operand is read as an expression. -/
theorem of_parsed
    (parsed : ∀ told ∈ statement, told.instruction.takesRawOperand = false)
    (spelled : Phrase.list.Spells [] written
      (statement.bind Statement.operand)) (stops : EndsOperand rest) :
    Tells statement
      (instructionLexemes (statement.map Statement.instruction) ++
        (written ++ rest)) last rest last := by
  cases statement with
  | none =>
      cases spelled
      exact .nothing stops
  | some told => exact .parsed (parsed told rfl) spelled stops

theorem yields_statement (tells : Tells statement lexemes last rest finish)
    (offers : start.Offers lexemes last) :
    statement?.Yields start statement rest finish := by
  unfold statement?
  cases tells with
  | nothing stops =>
      rcases stops with ⟨first, more, rfl, apart⟩
      refine offers.yields_next fun token after lexeme offersAfter vacant => ?_
      split
      · next same => simp [← lexeme, same, Lexeme.startsOperand] at apart
      · next same => simp [← lexeme, same, Lexeme.startsOperand] at apart
      · exact offersAfter.yields_handBack vacant
          fun whole offersWhole => (lexeme ▸ offersWhole).yields_pure
  | instruction spelled stops =>
      refine offers.yields_next fun token after lexeme offersAfter _ => ?_
      simp only [lexeme]
      exact (offersAfter.yields_operand spelled stops).bind
        fun _ offersRest => offersRest.yields_pure
  | directive yields =>
      refine offers.yields_next fun token after lexeme offersAfter _ => ?_
      simp only [lexeme]
      refine offersAfter.yields_next fun name later named offersLater _ => ?_
      exact (yields name later named offersLater).bind
        fun _ offersRest => offersRest.yields_pure

/-- What is no name is handed back, and a statement is read. -/
theorem yields_unlabelled {first : Lexeme} {more : List Lexeme}
    (tells : Tells statement (first :: more) last rest finish)
    (offers : start.Offers (first :: more) last)
    (unnamed : ∀ name, first ≠ .identifier name) :
    labelled.Yields start (none, statement) rest finish := by
  unfold labelled
  refine offers.yields_next fun token after lexeme offersAfter vacant => ?_
  subst lexeme
  split
  · next same => exact absurd same (unnamed _)
  · refine offersAfter.yields_handBack vacant fun whole offersWhole => ?_
    exact (tells.yields_statement offersWhole).bind
      fun _ offersRest => offersRest.yields_pure

theorem yields_labelled {label : Option String}
    (tells : Tells statement lexemes last rest finish)
    (offers : start.Offers (labelLexemes label ++ lexemes) last) :
    labelled.Yields start (label, statement) rest finish := by
  cases label with
  | some name =>
      unfold labelled
      refine offers.yields_next fun token after lexeme offersAfter _ => ?_
      simp only [lexeme]
      refine offersAfter.yields_next fun colon later marked offersLater _ => ?_
      rw [if_pos (isMark_of_lexeme marked)]
      exact (tells.yields_statement offersLater).bind
        fun _ offersRest => offersRest.yields_pure
  | none =>
      cases tells with
      | nothing stops =>
          rcases id stops with ⟨first, more, rfl, apart⟩
          refine (Tells.nothing stops).yields_unlabelled offers ?_
          rintro name rfl
          cases apart
      | instruction spelled stops =>
          unfold labelled
          refine offers.yields_next fun token after lexeme offersAfter _ => ?_
          simp only [lexeme]
          rcases exists_operand_cons spelled stops with
            ⟨first, more, same, apart⟩
          rw [same] at offersAfter
          refine offersAfter.yields_next
            fun colon later marked offersLater vacant => ?_
          rw [if_neg fun marks =>
            apart (marked.symm.trans (lexeme_of_isMark marks))]
          refine offersLater.yields_handBack vacant fun whole offersWhole => ?_
          rw [marked, ← same] at offersWhole
          exact (offersWhole.yields_operand spelled stops).bind
            fun _ offersRest => offersRest.yields_pure
      | directive yields =>
          exact (Tells.directive yields).yields_unlabelled offers
            fun name => Lexeme.noConfusion

/-- A directive named `if` has something in front of it. -/
def Conditioned (condition : Option Expr) (label : Option String)
    (statement : Option Statement) : Prop :=
  ∀ operand, statement = some ⟨⟨"if", true⟩, operand⟩ →
    condition.isSome = true ∨ label.isSome = true

/-- What is no dot is handed back, and a label or a statement is read. -/
theorem yields_unconditional {label : Option String} {first : Lexeme}
    {more : List Lexeme} (tells : Tells statement lexemes last rest finish)
    (cut : labelLexemes label ++ lexemes = first :: more)
    (undotted : first ≠ .mark '.') (offers : start.Offers (first :: more) last) :
    conditional.Yields start (none, label, statement) rest finish := by
  unfold conditional
  refine offers.yields_next fun token after lexeme offersAfter vacant => ?_
  rw [if_neg fun marks =>
    undotted (lexeme.symm.trans (lexeme_of_isMark marks))]
  refine offersAfter.yields_handBack vacant fun whole offersWhole => ?_
  rw [lexeme, ← cut] at offersWhole
  exact (tells.yields_labelled offersWhole).bind
    fun _ offersRest => offersRest.yields_pure

theorem yields_conditional {condition : Option Expr} {label : Option String}
    (tells : Tells statement lexemes last rest finish)
    (spelled : Phrase.atom.Spells [.mark '.', .identifier "if"] written
      condition)
    (apart : Conditioned condition label statement)
    (offers : start.Offers (written ++ (labelLexemes label ++ lexemes)) last) :
    conditional.Yields start (condition, label, statement) rest finish := by
  cases condition with
  | some expr =>
      rcases spelled with ⟨inner, rfl, derived⟩
      unfold conditional
      refine offers.yields_next fun token after lexeme offersAfter _ => ?_
      rw [if_pos (isMark_of_lexeme lexeme)]
      refine offersAfter.yields_next fun name later named offersLater _ => ?_
      rw [if_pos named]
      refine (offersLater.yields_atom (derived.atom_follow _)).bind
        fun _ offersLabel => ?_
      exact (tells.yields_labelled offersLabel).bind
        fun _ offersRest => offersRest.yields_pure
  | none =>
      cases spelled
      cases label with
      | some name =>
          exact tells.yields_unconditional rfl Lexeme.noConfusion offers
      | none =>
          cases tells with
          | nothing stops =>
              rcases id stops with ⟨first, more, rfl, ends⟩
              refine (Tells.nothing stops).yields_unconditional rfl ?_ offers
              rintro rfl
              cases ends
          | instruction spelled stops =>
              exact (Tells.instruction spelled stops).yields_unconditional rfl
                Lexeme.noConfusion offers
          | directive yields =>
              rename_i name operand _
              have other : name ≠ "if" := by
                rintro rfl
                rcases apart _ rfl with absent | absent <;> cases absent
              unfold conditional
              refine offers.yields_next
                fun token after lexeme offersAfter _ => ?_
              rw [if_pos (isMark_of_lexeme lexeme)]
              refine offersAfter.yields_next
                fun token later named offersLater _ => ?_
              rw [if_neg (by simp [named, other])]
              exact (yields token later named offersLater).bind
                fun _ offersRest => offersRest.yields_pure

/-- What stands behind a prefix address does not start with an at sign. -/
theorem exists_conditional_cons
    (tells : Tells statement lexemes last rest finish)
    {condition : Option Expr}
    (spelled : Phrase.atom.Spells [.mark '.', .identifier "if"] written
      condition) (label : Option String) :
    ∃ first more, written ++ (labelLexemes label ++ lexemes) =
      first :: more ∧ first ≠ .mark '@' := by
  cases condition with
  | some expr =>
      rcases spelled with ⟨inner, rfl, _⟩
      exact ⟨_, _, rfl, by simp⟩
  | none =>
      cases spelled
      cases label with
      | some name => exact ⟨_, _, rfl, by simp⟩
      | none =>
          cases tells with
          | nothing stops =>
              rcases stops with ⟨first, more, rfl, ends⟩
              refine ⟨first, more, rfl, ?_⟩
              rintro rfl
              cases ends
          | instruction | directive => exact ⟨_, _, rfl, by simp⟩

end Tells

/-- The lexemes of a prefix address, if there is one. -/
def addressLexemes (address : Option PrefixAddress) : List Lexeme :=
  (address.map PrefixAddress.lexemes).getD []

/-- The lexemes of the comments at the end of a line. -/
def commentLexemes (trailing auto : Option String) : List Lexeme :=
  (trailing.map Lexeme.comment).toList ++
    (auto.map Lexeme.autoComment).toList

/-- A comment as it is kept, empty if there is none. -/
def keptComment (text : Option String) : String :=
  (text.map Text.trim).getD ""

namespace TokenStream

open Reading

theorem endsOperand_comments (trailing auto : Option String) :
    EndsOperand (commentLexemes trailing auto ++ [.finish]) := by
  cases trailing <;> cases auto <;> exact ⟨_, _, rfl, rfl⟩

variable {start : TokenStream} {written lexemes rest : List Lexeme}
  {last finish : Lexer}

theorem Offers.yields_digits {text : String}
    (offers : start.Offers (.digits text :: rest) last) :
    prefixDigits.Yields start text rest last := by
  refine offers.yields_next fun token after lexeme offersAfter _ => ?_
  simp only [lexeme]
  exact offersAfter.yields_pure

theorem Offers.yields_prefixOffset {offset : Option String}
    (offers : start.Offers (offsetLexemes offset ++ .mark ':' :: rest)
      last) :
    prefixOffset?.Yields start offset rest last := by
  unfold prefixOffset?
  cases offset with
  | none =>
      refine offers.yields_next fun colon after lexeme offersAfter _ => ?_
      rw [if_neg (by simp [Token.isMark, lexeme]),
        if_pos (isMark_of_lexeme lexeme)]
      exact offersAfter.yields_pure
  | some offset =>
      refine offers.yields_next fun dot after lexeme offersAfter _ => ?_
      rw [if_pos (isMark_of_lexeme lexeme)]
      refine offersAfter.yields_digits.bind fun _ offersColon => ?_
      refine offersColon.yields_next fun colon later marked offersLater _ => ?_
      rw [if_pos (isMark_of_lexeme marked)]
      exact offersLater.yields_pure

theorem Offers.yields_prefixAddress {address : Option PrefixAddress}
    {first : Lexeme} (apart : first ≠ .mark '@')
    (offers : start.Offers (addressLexemes address ++ first :: rest) last) :
    prefixAddress?.Yields start address (first :: rest) last := by
  unfold prefixAddress?
  cases address with
  | none =>
      refine offers.yields_next fun token after lexeme offersAfter vacant => ?_
      subst lexeme
      rw [if_neg fun marks => apart (lexeme_of_isMark marks)]
      exact offersAfter.yields_handBack vacant
        fun whole offersWhole => offersWhole.yields_pure
  | some address =>
      simp only [addressLexemes, Option.map_some, Option.getD_some,
        PrefixAddress.lexemes, List.cons_append, List.append_assoc,
        List.nil_append] at offers
      refine offers.yields_next fun token after lexeme offersAfter _ => ?_
      rw [if_pos (isMark_of_lexeme lexeme)]
      refine offersAfter.yields_digits.bind fun _ offersOffset => ?_
      refine offersOffset.yields_prefixOffset.bind fun _ offersContents => ?_
      exact offersContents.yields_digits.bind
        fun _ offersRest => offersRest.yields_pure

theorem Offers.yields_commentsFrom {auto : Option String} {trailing : String}
    {token : Token} {more : List Lexeme}
    (cut : (auto.map Lexeme.autoComment).toList ++ .finish :: rest =
      token.lexeme :: more)
    (offers : start.Offers more last)
    (vacant : start.returned.length < start.capacity) :
    (commentsFrom trailing token).Yields start (trailing, keptComment auto)
      (.finish :: rest) last := by
  unfold commentsFrom
  cases auto with
  | none =>
      rcases List.cons.inj cut with ⟨lexeme, rfl⟩
      rw [← lexeme]
      exact offers.yields_handBack vacant
        fun whole offersWhole => (lexeme ▸ offersWhole).yields_pure
  | some text =>
      rcases List.cons.inj cut with ⟨lexeme, rfl⟩
      rw [← lexeme]
      exact offers.yields_pure

theorem Offers.yields_comments {trailing auto : Option String}
    (offers : start.Offers (commentLexemes trailing auto ++ .finish :: rest)
      last) :
    comments.Yields start (keptComment trailing, keptComment auto)
      (.finish :: rest) last := by
  unfold comments
  obtain ⟨first, more, cut⟩ : ∃ first more,
      (auto.map Lexeme.autoComment).toList ++ .finish :: rest =
        first :: more := by
    cases auto <;> exact ⟨_, _, rfl⟩
  rw [commentLexemes, List.append_assoc, cut] at offers
  cases trailing with
  | some text =>
      refine offers.yields_next fun token after lexeme offersAfter _ => ?_
      simp only [lexeme]
      refine offersAfter.yields_next
        fun token later same offersLater vacant => ?_
      exact offersLater.yields_commentsFrom (same ▸ cut) vacant
  | none =>
      refine offers.yields_next fun token after lexeme offersAfter vacant => ?_
      subst lexeme
      split
      · next text same =>
        rw [same] at cut
        cases auto <;> cases cut
      · exact offersAfter.yields_commentsFrom cut vacant

/--
A line of assembly source whose parts are on offer is read part by part.  What
stands behind its statement are its comments and the end of the text.
-/
theorem Offers.yields_assemblyLine (line : Line)
    {address : Option PrefixAddress} {condition : Option Expr}
    {label : Option String} {statement : Option Statement}
    {trailing auto : Option String}
    (offers : start.Offers (addressLexemes address ++
      (written ++ (labelLexemes label ++ lexemes))) last)
    (tells : Tells statement lexemes last
      (commentLexemes trailing auto ++ [.finish]) finish)
    (spelled : Phrase.atom.Spells [.mark '.', .identifier "if"] written
      condition)
    (apart : Tells.Conditioned condition label statement) :
    (assemblyLine line).Yields start
      (statement.isSome,
        { line.withStatement statement with
          prefixAddress := address
          condition := condition
          label := label
          trailingComment := keptComment trailing
          autoComment := keptComment auto }) [] finish := by
  unfold assemblyLine
  rcases tells.exists_conditional_cons spelled label with
    ⟨first, more, cut, unmarked⟩
  rw [cut] at offers
  refine (offers.yields_prefixAddress unmarked).bind fun _ offersBehind => ?_
  rw [← cut] at offersBehind
  refine (tells.yields_conditional spelled apart offersBehind).bind
    fun _ offersComments => ?_
  refine offersComments.yields_comments.bind fun _ offersFinish => ?_
  exact offersFinish.yields_expectFinish.bind
    fun _ offersRest => offersRest.yields_pure

end TokenStream

end Whirlwind
