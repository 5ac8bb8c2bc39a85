import Whirlwind.Expr.Listing
import Whirlwind.Proofs.Expr.Acceptance
import Whirlwind.Proofs.Token.Lexing

/-!
# Listings are read back

The listing of a tree whose names and numbers can be read as such is read as
that tree.  The proof goes by way of the lexemes of the listing.  The lexer
finds them in the text (`writes_listing`), and as the parentheses are where the
strengths demand them, they are a phrase that says the tree (`derives_lexemes`).
-/

namespace Whirlwind

/-! ## Strings -/

namespace Scan

/-- The escapes of a string can be followed by its closing quote. -/
theorem quotedBody?_escaped (characters rest : List Char) :
    quotedBody? (characters.flatMap (Expr.escaped · |>.toList) ++ '"' :: rest) =
      some (characters.flatMap (Expr.escaped · |>.toList)) := by
  induction characters with
  | nil => rfl
  | cons character characters ih =>
      rw [List.flatMap_cons, List.append_assoc, Expr.escaped]
      split
      · simp [quotedBody?, ih]
      split
      · simp [quotedBody?, ih]
      split
      · simp [quotedBody?, ih]
      split
      · simp [quotedBody?, ih]
      split
      · simp [quotedBody?, ih]
      · simp_all [quotedBody?]

/-- Decoding the escapes of a string gives it back. -/
theorem unescape_escaped (characters : List Char) :
    unescape (characters.flatMap (Expr.escaped · |>.toList)) = characters := by
  induction characters with
  | nil => rfl
  | cons character characters ih =>
      rw [List.flatMap_cons, Expr.escaped]
      split
      · simp_all [unescape, escape?]
      split
      · simp_all [unescape, escape?]
      split
      · simp_all [unescape, escape?]
      split
      · simp_all [unescape, escape?]
      split
      · simp_all [unescape, escape?]
      · simp_all [unescape]

theorem newline_not_mem_escaped (characters : List Char) :
    '\n' ∉ characters.flatMap (Expr.escaped · |>.toList) := by
  simp only [List.mem_flatMap, not_exists, not_and]
  intro character _
  unfold Expr.escaped
  repeat' split
  all_goals simp_all [eq_comm]

end Scan

theorem Lexer.gives_quotedString {grammar : Grammar} {gap rest : List Char}
    {text : String} (gaps : grammar.Skips gap) :
    Gives grammar .start (gap ++ ((Expr.quotedString text).toList ++ rest))
      [.string text] .start rest := by
  have same : (Expr.quotedString text).toList ++ rest =
      '"' :: (text.toList.flatMap (Expr.escaped · |>.toList) ++
        '"' :: rest) := by
    simp [Expr.quotedString, String.toList_join, List.flatMap_map]
  have gives : Gives grammar .start _ _ .start rest :=
    gives_string gaps (Scan.newline_not_mem_escaped text.toList)
      fun line => Scan.quotedBody?_escaped text.toList line
  rw [Scan.unescape_escaped, String.ofList_toList] at gives
  rw [same]
  exact gives

/-! ## Trees -/

namespace Expr

/-- Lexemes in parentheses, if they are needed. -/
def enclosed (needed : Bool) (lexemes : List Lexeme) : List Lexeme :=
  if needed then .mark '(' :: (lexemes ++ [.mark ')']) else lexemes

/-- The lexemes of the canonical text. -/
def lexemes : Expr → List Lexeme
  | .identifier name => [.identifier name]
  | .digits text => [.digits text]
  | .string text => [.string text]
  | .unary op operand =>
      .operator op.operator ::
        enclosed (operand.strength < unaryStrength) operand.lexemes
  | .apply callee arguments =>
      enclosed (callee.strength < atomStrength) callee.lexemes ++
        .mark '(' :: (arguments.lexemes ++ [.mark ')'])
  | .binary op left right =>
      enclosed (leftNeedsParentheses op left) left.lexemes ++
        .mark op.mark ::
          enclosed (rightNeedsParentheses op right) right.lexemes

/--
The names of an expression can be read as such, and so can its numbers.  A
number right behind a hexadecimal mark has hexadecimal digits; `isDigit` says
which digits the expression has if it is a number itself.
-/
def WellFormedAt (isDigit : Char → Bool) : Expr → Prop
  | .identifier name => IsName name
  | .digits text => IsNumber isDigit text
  | .string _ => True
  | .unary op operand => operand.WellFormedAt op.isDigit
  | .apply callee arguments =>
      callee.WellFormedAt Char.isDigit ∧ arguments.WellFormedAt Char.isDigit
  | .binary _ left right =>
      left.WellFormedAt Char.isDigit ∧ right.WellFormedAt Char.isDigit

instance decidableWellFormedAt : (isDigit : Char → Bool) → (expr : Expr) →
    Decidable (expr.WellFormedAt isDigit)
  | _, .identifier name => inferInstanceAs (Decidable (IsName name))
  | isDigit, .digits text =>
      inferInstanceAs (Decidable (IsNumber isDigit text))
  | _, .string _ => isTrue trivial
  | _, .unary op operand => decidableWellFormedAt op.isDigit operand
  | _, .apply callee arguments =>
      @instDecidableAnd _ _ (decidableWellFormedAt Char.isDigit callee)
        (decidableWellFormedAt Char.isDigit arguments)
  | _, .binary _ left right =>
      @instDecidableAnd _ _ (decidableWellFormedAt Char.isDigit left)
        (decidableWellFormedAt Char.isDigit right)

/-- The names and the numbers of an expression can be read as such. -/
def WellFormed (expr : Expr) : Prop :=
  expr.WellFormedAt Char.isDigit

instance (expr : Expr) : Decidable expr.WellFormed :=
  decidableWellFormedAt Char.isDigit expr

/-- Whether a value is assigned somewhere in an expression. -/
def hasAssignment : Expr → Bool
  | .binary op left right =>
      op = .assign || left.hasAssignment || right.hasAssignment
  | .unary _ operand => operand.hasAssignment
  | .apply callee arguments => callee.hasAssignment || arguments.hasAssignment
  | .identifier _ | .string _ | .digits _ => false

/-- Which digits a number has matters only where it is the whole expression. -/
theorem wellFormedAt_iff {expr : Expr} {isDigit : Char → Bool}
    (other : expr.isDigits = false) :
    expr.WellFormedAt isDigit ↔ expr.WellFormed := by
  cases expr with
  | digits => cases other
  | _ => exact Iff.rfl

@[simp]
theorem lexemes_ne_nil (expr : Expr) : expr.lexemes ≠ [] := by
  cases expr <;> simp [lexemes]

theorem enclosed_ne_nil {lexemes : List Lexeme} (needed : Bool)
    (visible : lexemes ≠ []) : enclosed needed lexemes ≠ [] := by
  cases needed <;> simp [enclosed, visible]

end Expr

/-- Whether the listing of an expression can be read in a notation. -/
def Grammar.Lists (grammar : Grammar) (expr : Expr) : Prop :=
  grammar.hasRuns = false ∧
    (grammar = .expression ∨ expr.hasAssignment = false)

namespace Lexer

open Whirlwind.Expr

variable {grammar : Grammar}

/-- A text is read as given lexemes behind any gap, if its end is seen. -/
def Writes (grammar : Grammar) (text : String) (lexemes : List Lexeme) :
    Prop :=
  ∀ gap rest, grammar.Skips gap → grammar.Closes rest →
    Gives grammar .start (gap ++ (text.toList ++ rest)) lexemes .start rest

theorem Writes.parenthesized {text : String} {lexemes : List Lexeme}
    (writes : Writes grammar text lexemes) (needed : Bool) :
    Writes grammar (parenthesized needed text) (enclosed needed lexemes) := by
  intro gap rest gaps closes
  cases needed with
  | false => exact writes gap rest gaps closes
  | true =>
      have inside := writes [] (')' :: rest) grammar.skips_nil
        (grammar.skips_nil.closes grammar.isMark_closing rest)
      have whole := ((gives_mark '(' gaps grammar.isMark_opening).trans
        inside).trans (gives_mark ')' grammar.skips_nil grammar.isMark_closing)
      simpa [Expr.parenthesized, enclosed] using whole

/-- An operator between operands is written with nothing but gaps around it. -/
theorem spaced_split (op : BinaryOp) (grammar : Grammar) :
    ∃ before after, (spaced op).toList = before ++ op.mark :: after ∧
      grammar.Skips before ∧ grammar.Skips after := by
  cases op with
  | dot => exact ⟨[], [], rfl, grammar.skips_nil, grammar.skips_nil⟩
  | comma => exact ⟨[], [' '], rfl, grammar.skips_nil, grammar.skips_blank⟩
  | _ => exact ⟨[' '], [' '], rfl, grammar.skips_blank, grammar.skips_blank⟩

theorem isMark_mark {op : BinaryOp} (words : grammar.hasRuns = false)
    (written : grammar = .expression ∨ op ≠ .assign) :
    grammar.isMark op.mark = true := by
  cases grammar with
  | debugger => cases words
  | expression => cases op <;> rfl
  | assembly | tape =>
      rcases written with other | other
      · cases other
      · cases op <;> first | rfl | exact absurd rfl other

/-- Between a radix mark and what is read behind it there has to be a blank. -/
theorem Writes.signed (op : UnaryOp) {text : String} {lexemes : List Lexeme}
    (words : grammar.hasRuns = false) (writes : Writes grammar text lexemes)
    (visible : lexemes ≠ []) :
    Writes grammar
      (op.operator.symbol ++ (if op.isRadix then " " else "") ++ text)
      (.operator op.operator :: lexemes) := by
  intro gap rest gaps closes
  cases radix : op.isRadix with
  | false =>
      have plain : op.mode = .start := by
        cases op <;> first | rfl | cases radix
      have behind := writes [] rest grammar.skips_nil closes
      rw [← plain] at behind
      have whole := (gives_sign op words gaps).trans behind
      simpa [radix, plain] using whole
  | true =>
      have behind := writes [' '] rest grammar.skips_blank closes
      have ended : grammar.Closes ([' '] ++ (text.toList ++ rest)) :=
        Grammar.closes_cons.2 (by cases grammar <;> rfl)
      rcases List.exists_cons_of_ne_nil visible with ⟨first, later, same⟩
      rw [same] at behind
      have whole := (gives_sign op words gaps).trans (behind.radixOver op ended)
      rw [← same] at whole
      simpa [radix] using whole

theorem writes_unary {op : UnaryOp} {operand : Expr}
    (words : grammar.hasRuns = false)
    (shape : operand.WellFormedAt op.isDigit)
    (writes : operand.WellFormed →
      Writes grammar operand.listing operand.lexemes) :
    Writes grammar (Expr.unary op operand).listing
      (Expr.unary op operand).lexemes := by
  cases close : op.isRadix && operand.isDigits with
  | true =>
      intro gap rest gaps closes
      rcases Bool.and_eq_true_iff.1 close with ⟨radix, digits⟩
      obtain ⟨text, rfl⟩ : ∃ text, operand = .digits text := by
        cases operand with
        | digits text => exact ⟨text, rfl⟩
        | _ => cases digits
      have whole := (gives_sign op words gaps).trans
        (gives_dueDigits radix shape closes)
      simpa [listing, lexemes, radix, isDigits, Expr.parenthesized,
        enclosed, strength, atomStrength, unaryStrength] using whole
  | false =>
      have plain : operand.WellFormed := by
        rcases Bool.and_eq_false_iff.1 close with radix | digits
        · cases op <;> first | exact shape | cases radix
        · exact (wellFormedAt_iff digits).1 shape
      have apart : (op.isRadix && !operand.isDigits) = op.isRadix := by
        cases radix : op.isRadix with
        | false => rfl
        | true => simpa [radix] using close
      rw [listing, lexemes, apart]
      exact ((writes plain).parenthesized _).signed _ words
        (enclosed_ne_nil _ operand.lexemes_ne_nil)

theorem Writes.applied {front inner : String} {lexemes inside : List Lexeme}
    (writesFront : Writes grammar front lexemes)
    (writesInner : Writes grammar inner inside) :
    Writes grammar (front ++ "(" ++ inner ++ ")")
      (lexemes ++ .mark '(' :: (inside ++ [.mark ')'])) := by
  intro gap rest gaps closes
  have callee := writesFront gap ('(' :: (inner.toList ++ ')' :: rest)) gaps
    (grammar.skips_nil.closes grammar.isMark_opening _)
  have arguments := writesInner [] (')' :: rest) grammar.skips_nil
    (grammar.skips_nil.closes grammar.isMark_closing rest)
  have whole := ((callee.trans (gives_mark '(' grammar.skips_nil
    grammar.isMark_opening)).trans arguments).trans
    (gives_mark ')' grammar.skips_nil grammar.isMark_closing)
  simpa using whole

theorem Writes.joined {op : BinaryOp} {front back : String}
    {lexemes behind : List Lexeme}
    (marked : grammar.isMark op.mark = true)
    (writesFront : Writes grammar front lexemes)
    (writesBack : Writes grammar back behind) :
    Writes grammar (front ++ spaced op ++ back)
      (lexemes ++ .mark op.mark :: behind) := by
  intro gap rest gaps closes
  rcases spaced_split op grammar with
    ⟨before, after, split, gapsBefore, gapsAfter⟩
  have left := writesFront gap
    (before ++ op.mark :: (after ++ (back.toList ++ rest))) gaps
    (gapsBefore.closes marked _)
  have right := writesBack after rest gapsAfter closes
  have whole := (left.trans (gives_mark op.mark gapsBefore marked)).trans right
  simpa [split] using whole

/-- The lexer finds the lexemes of a tree in its listing. -/
theorem writes_listing {expr : Expr} (lists : grammar.Lists expr)
    (shape : expr.WellFormed) :
    Writes grammar expr.listing expr.lexemes := by
  rcases lists with ⟨words, written⟩
  induction expr with
  | identifier name =>
      exact fun gap rest gaps closes => gives_identifier words gaps shape closes
  | digits text =>
      exact fun gap rest gaps closes => gives_digits words gaps shape closes
  | string text => exact fun gap rest gaps _ => gives_quotedString gaps
  | unary op operand ih =>
      exact writes_unary words shape fun plain => ih plain written
  | apply callee arguments ihCallee ihArguments =>
      simp only [hasAssignment, Bool.or_eq_false_iff] at written
      have front := ihCallee shape.1 (written.imp_right And.left)
      exact (front.parenthesized _).applied
        (ihArguments shape.2 (written.imp_right And.right))
  | binary op left right ihLeft ihRight =>
      simp only [hasAssignment, Bool.or_eq_false_iff, decide_eq_false_iff_not]
        at written
      have marked := isMark_mark words
        (written.imp_right fun free => free.1.1)
      have front := ihLeft shape.1 (written.imp_right fun free => free.1.2)
      have back := ihRight shape.2 (written.imp_right And.right)
      exact (front.parenthesized _).joined marked (back.parenthesized _)

end Lexer

/-! ## Phrases -/

namespace Phrase

/-- How strongly the operators of a kind of phrase bind. -/
def strength : Phrase → Nat
  | .list => 1
  | .assignment => 2
  | .sum => 3
  | .product => 4
  | .conjunction => 5
  | .disjunction => 6
  | .path => 7
  | .signed => 8
  | .application => 9
  | .atom => 10

theorem strength_tighter {phrase inner : Phrase}
    (next : phrase.tighter? = some inner) :
    inner.strength = phrase.strength + 1 := by
  cases phrase <;> cases next <;> rfl

theorem exists_tighter {phrase inner : Phrase}
    (weaker : phrase.strength < inner.strength) :
    ∃ between, phrase.tighter? = some between := by
  cases phrase with
  | atom => cases inner <;> simp [strength] at weaker
  | _ => exact ⟨_, rfl⟩

theorem eq_of_strength_eq {phrase inner : Phrase}
    (same : phrase.strength = inner.strength) : phrase = inner := by
  cases phrase <;> cases inner <;> first | rfl | cases same

end Phrase

@[simp]
theorem Level.strength_phrase (level : Level) :
    level.phrase.strength = level.strength := by
  cases level <;> rfl

theorem BinaryOp.joins (op : BinaryOp) :
    op.level.phrase.Joins op.mark op := by
  cases op <;> constructor

theorem UnaryOp.signs (op : UnaryOp) :
    Phrase.Signs (.operator op.operator) op := by
  cases op <;> constructor

/-- A phrase of a stronger kind is one of any looser kind. -/
theorem Derives.loosen {phrase inner : Phrase} {lexemes follow : List Lexeme}
    {expr : Expr} (derived : Derives inner lexemes follow expr)
    (weaker : phrase.strength ≤ inner.strength) :
    Derives phrase lexemes follow expr := by
  rcases Nat.lt_or_eq_of_le weaker with less | same
  · rcases Phrase.exists_tighter less with ⟨between, next⟩
    have climbs := Phrase.strength_tighter next
    exact .tighter next (derived.loosen (by omega))
  · rwa [Phrase.eq_of_strength_eq same]
  termination_by inner.strength - phrase.strength

namespace Expr

/-- The kind of phrase that the outermost operator of an expression makes. -/
def phrase : Expr → Phrase
  | .binary op _ _ => op.level.phrase
  | .unary _ _ => .signed
  | .apply _ _ => .application
  | .identifier _ | .string _ | .digits _ => .atom

@[simp]
theorem strength_phrase (expr : Expr) : expr.phrase.strength = expr.strength := by
  cases expr with
  | binary op => exact op.level.strength_phrase
  | _ => rfl

/-- Lexemes are a phrase of a kind if weaker ones are put in parentheses. -/
theorem derives_enclosed {expr : Expr} {lexemes follow : List Lexeme}
    {needed : Bool} {phrase : Phrase}
    (derived : ∀ follow, Derives expr.phrase lexemes follow expr)
    (encloses : expr.strength < phrase.strength → needed = true) :
    Derives phrase (enclosed needed lexemes) follow expr := by
  cases needed with
  | true =>
      have inside : Derives .list lexemes (.mark ')' :: follow) expr := by
        refine (derived _).loosen ?_
        cases expr.phrase <;> simp [Phrase.strength]
      refine (Derives.group inside).loosen ?_
      cases phrase <;> simp [Phrase.strength]
  | false =>
      refine (derived follow).loosen ?_
      rw [strength_phrase]
      exact Nat.le_of_not_lt fun less => Bool.noConfusion (encloses less)

/-- The lexemes of the listing of a tree are a phrase that says the tree. -/
theorem derives_lexemes (expr : Expr) (follow : List Lexeme) :
    Derives expr.phrase expr.lexemes follow expr := by
  induction expr generalizing follow with
  | identifier => exact .identifier
  | digits => exact .digits
  | string => exact .string
  | unary op operand ih =>
      exact .sign op.signs (derives_enclosed ih decide_eq_true)
  | apply callee arguments ihCallee ihArguments =>
      refine .apply (derives_enclosed ihCallee decide_eq_true) ?_
      refine (ihArguments _).loosen ?_
      cases arguments.phrase <;> simp [Phrase.strength]
  | binary op left right ihLeft ihRight =>
      have climbs := Phrase.strength_tighter op.level.phrase_tighter?
      rw [Level.strength_phrase] at climbs
      cases leans : op.level.groupsRight with
      | false =>
          refine .joinLeft op.joins (by simpa [phrase] using leans)
            op.level.phrase_tighter? (derives_enclosed ihLeft fun weaker => ?_)
            (derives_enclosed ihRight fun weaker => ?_)
          · simpa [leftNeedsParentheses, leans, phrase] using weaker
          · simp [rightNeedsParentheses, leans]
            omega
      | true =>
          refine .joinRight op.joins (by simpa [phrase] using leans)
            op.level.phrase_tighter? (derives_enclosed ihLeft fun weaker => ?_)
            (derives_enclosed ihRight fun weaker => ?_)
          · simp [leftNeedsParentheses, leans]
            omega
          · simpa [rightNeedsParentheses, leans, phrase] using weaker

theorem derives_list (expr : Expr) (follow : List Lexeme) :
    Derives .list expr.lexemes follow expr := by
  refine (expr.derives_lexemes follow).loosen ?_
  cases expr.phrase <;> simp [Phrase.strength]

/-- Whether an expression is a single name, number or string. -/
def isLeaf : Expr → Bool
  | .identifier _ | .digits _ | .string _ => true
  | .unary _ _ | .apply _ _ | .binary _ _ _ => false

theorem derives_atom {expr : Expr} (leaf : expr.isLeaf = true)
    (follow : List Lexeme) : Derives .atom expr.lexemes follow expr := by
  cases expr with
  | identifier => exact .identifier
  | digits => exact .digits
  | string => exact .string
  | unary | apply | binary => cases leaf

/-- A text that is read as the lexemes of a tree is parsed as the tree. -/
theorem parse_of_writes {grammar : Grammar} {text : String} {expr : Expr}
    (writes : Lexer.Writes grammar text expr.lexemes) :
    parse text grammar = .ok expr := by
  have gives := writes [] [] grammar.skips_nil grammar.closes_nil
  rw [List.nil_append, List.append_nil] at gives
  rcases (gives.trans (Lexer.gives_finish grammar.skips_nil)) _
    (Lexer.faces_ofText text 1 grammar) with ⟨last, reads, _⟩
  exact parse_of_derives reads (expr.derives_list [])

theorem parse_listing_of_lists {grammar : Grammar} {expr : Expr}
    (lists : grammar.Lists expr) (shape : expr.WellFormed) :
    parse expr.listing grammar = .ok expr :=
  parse_of_writes (Lexer.writes_listing lists shape)

/--
The listing of a tree is read as that tree, in the notation of expressions, and
in those of assembly and of tapes if nothing is assigned in it.
-/
theorem parse_listing (expr : Expr) (shape : expr.WellFormed) :
    parse expr.listing .expression = .ok expr ∧
      (expr.hasAssignment = false →
        parse expr.listing .assembly = .ok expr ∧
        parse expr.listing .tape = .ok expr) :=
  ⟨parse_listing_of_lists ⟨rfl, Or.inl rfl⟩ shape, fun free =>
    ⟨parse_listing_of_lists ⟨rfl, Or.inr free⟩ shape,
      parse_listing_of_lists ⟨rfl, Or.inr free⟩ shape⟩⟩

/-- A tree with a radix mark, an application, a string and parentheses. -/
theorem parse_listing_application :
    ∃ expr : Expr,
      expr.listing = "-(0x1f + f(\"a\\n\", b)) * 2.x" ∧
      parse expr.listing .assembly = .ok expr :=
  ⟨.binary .multiply
      (.unary .minus (.binary .plus
        (.unary .hexadecimal (.digits "1f"))
        (.apply (.identifier "f")
          (.binary .comma (.string "a\n") (.identifier "b")))))
      (.binary .dot (.digits "2") (.identifier "x")),
    by decide +kernel,
    ((parse_listing _ (by decide +kernel)).2 rfl).1⟩

end Expr

end Whirlwind
