import Whirlwind.Proofs.Expr.Shape

/-!
# Which listings are read back

A tree that is read has names and numbers that the lexer found where they stood
in the text.  The listing may put them elsewhere: a name that starts with a
radix mark stands right behind another one only in the text, and so does a
hexadecimal number with arguments.  The listing is read back as the tree if and
only if the tree is well-formed.

To see that any other listing is read as another tree, follow the lexer through
it.  It finds the lexemes of the tree up to the first leaf that is out of place,
where it departs from them (`Lexer.Departs`).  All sequences of lexemes that say
a tree agree in their landmarks (`Derives.filter_isLandmark`), and what the
lexer finds instead of the leaf is another landmark.
-/

namespace Whirlwind

/-! ## Landmarks -/

/--
Whether a lexeme is found in every sequence that says a tree.  Parentheses are
not, and neither is a zero, which a minus sign may stand for.
-/
def Lexeme.isLandmark : Lexeme → Bool
  | .operator .octal | .operator .hexadecimal | .identifier _ => true
  | .digits text => text ≠ "0"
  | .operator (.mark _) | .string _ | .comment _ | .autoComment _ | .tab
  | .finish => false

namespace Expr

/-- The shapes of the leaves of a tree that is read. -/
def Wordlike : Expr → Prop
  | .identifier name => IsWord name
  | .digits text => IsNumber Scan.isHexDigit text
  | .string _ => True
  | .unary _ operand => operand.Wordlike
  | .apply left right | .binary _ left right => left.Wordlike ∧ right.Wordlike

@[simp]
theorem filter_enclosed (needed : Bool) (lexemes : List Lexeme) :
    (enclosed needed lexemes).filter Lexeme.isLandmark =
      lexemes.filter Lexeme.isLandmark := by
  cases needed <;> simp [enclosed, Lexeme.isLandmark]

end Expr

namespace Derives

variable {grammar : Grammar} {phrase : Phrase} {lexemes follow : List Lexeme}
  {expr : Expr}

/-- All sequences that say a tree have the landmarks of its listing. -/
theorem filter_isLandmark (derived : Derives phrase lexemes follow expr) :
    lexemes.filter Lexeme.isLandmark =
      expr.lexemes.filter Lexeme.isLandmark := by
  induction derived with
  | tighter _ _ ih => exact ih
  | joinLeft joins _ _ _ _ ihLeft ihRight
  | joinRight joins _ _ _ _ ihLeft ihRight =>
      simp [Expr.lexemes, Lexeme.isLandmark, ihLeft, ihRight]
  | sign signs _ ih =>
      cases signs <;>
        simp [Expr.lexemes, UnaryOp.operator, List.filter_cons, ih]
  | apply _ _ ihCallee ihArguments =>
      simp [Expr.lexemes, Lexeme.isLandmark, ihCallee, ihArguments]
  | zero => rfl
  | identifier | digits | string => rfl
  | group _ ih => simp [Lexeme.isLandmark, ih]

/-- The leaves of a tree have the shapes of the lexemes that say it. -/
theorem wordlike (derived : Derives phrase lexemes follow expr)
    (shaped : ∀ lexeme ∈ lexemes, lexeme.Wordlike grammar) :
    expr.Wordlike := by
  induction derived with
  | tighter _ _ ih => exact ih shaped
  | joinLeft _ _ _ _ _ ihLeft ihRight
  | joinRight _ _ _ _ _ ihLeft ihRight =>
      simp only [List.forall_mem_append, List.forall_mem_cons] at shaped
      exact ⟨ihLeft shaped.1, ihRight shaped.2.2⟩
  | sign _ _ ih => exact ih (List.forall_mem_cons.1 shaped).2
  | zero => exact ⟨by decide, List.forall_mem_singleton.2 rfl⟩
  | apply _ _ ihCallee ihArguments =>
      simp only [List.forall_mem_append, List.forall_mem_cons] at shaped
      exact ⟨ihCallee shaped.1, ihArguments shaped.2.2.1⟩
  | identifier | digits => exact shaped _ List.mem_cons_self
  | string => trivial
  | group _ ih =>
      simp only [List.forall_mem_append, List.forall_mem_cons] at shaped
      exact ih shaped.2.1

end Derives

/-! ## Leaving the lexemes of a tree -/

namespace Lexer

open Whirlwind.Expr

variable {grammar : Grammar}

/--
In front of a text the lexemes of a sequence are found up to a landmark, and
another landmark in its place.
-/
inductive Departs (grammar : Grammar) (mode : Mode) (text : List Char) :
    List Lexeme → Prop where
  | intro {front behind : List Lexeme} {due found : Lexeme} {onward : Mode}
      {rest : List Char}
      (gives : Gives grammar mode text (front ++ [found]) onward rest)
      (awaited : due.isLandmark = true)
      (met : found.isLandmark = true)
      (other : found ≠ due) :
      Departs grammar mode text (front ++ due :: behind)

/-- Another landmark is found at once. -/
theorem Departs.single {mode onward : Mode} {text rest : List Char}
    {due found : Lexeme} (gives : Gives grammar mode text [found] onward rest)
    (awaited : due.isLandmark = true) (met : found.isLandmark = true)
    (other : found ≠ due) : Departs grammar mode text [due] := by
  have departs : Departs grammar mode text ([] ++ due :: []) :=
    .intro gives awaited met other
  exact departs

theorem Departs.append {mode : Mode} {text : List Char}
    {lexemes : List Lexeme} (departs : Departs grammar mode text lexemes)
    (more : List Lexeme) : Departs grammar mode text (lexemes ++ more) := by
  cases departs with
  | intro gives awaited met other =>
      rw [List.append_assoc, List.cons_append]
      exact .intro gives awaited met other

/-- What is read as given lexemes in front of a place to depart. -/
theorem Gives.departs {mode between : Mode} {text middle : List Char}
    {front back : List Lexeme}
    (first : Gives grammar mode text front between middle)
    (second : Departs grammar between middle back) :
    Departs grammar mode text (front ++ back) := by
  cases second with
  | intro gives awaited met other =>
      have whole := first.trans gives
      rw [← List.append_assoc] at whole ⊢
      exact .intro whole awaited met other

theorem Departs.radixOver {text : List Char} {lexemes : List Lexeme}
    (departs : Departs grammar .start text lexemes) (op : UnaryOp)
    (ended : grammar.Closes text) : Departs grammar op.mode text lexemes := by
  cases departs with
  | @intro front _ _ _ _ _ gives awaited met other =>
      cases front with
      | nil => exact .intro (gives.radixOver op ended) awaited met other
      | cons => exact .intro (gives.radixOver op ended) awaited met other

/-- A text is left by a lexer behind any gap, if its end is seen. -/
def Strays (grammar : Grammar) (text : String) (lexemes : List Lexeme) :
    Prop :=
  ∀ gap rest, grammar.Skips gap → grammar.Closes rest →
    Departs grammar .start (gap ++ (text.toList ++ rest)) lexemes

theorem Strays.parenthesized {text : String} {lexemes : List Lexeme}
    (strays : Strays grammar text lexemes) (needed : Bool) :
    Strays grammar (parenthesized needed text) (enclosed needed lexemes) := by
  intro gap rest gaps closes
  cases needed with
  | false => exact strays gap rest gaps closes
  | true =>
      have inside := strays [] (')' :: rest) grammar.skips_nil
        (grammar.skips_nil.closes grammar.isMark_closing rest)
      have whole := (gives_mark '(' gaps grammar.isMark_opening).departs
        (inside.append [.mark ')'])
      simpa [Expr.parenthesized, enclosed] using whole

/-- A name that starts with a radix mark is not found, but the mark is. -/
theorem strays_identifier {name : String} (words : grammar.hasRuns = false)
    (marked : Scan.startsRadix name.toList = true) :
    Strays grammar name [.identifier name] := by
  intro gap rest gaps _
  rcases UnaryOp.startsRadix_iff.1 marked with ⟨op, radix, tail, written⟩
  rw [written, List.append_assoc]
  refine .single (gives_sign op words gaps) rfl ?_ Lexeme.noConfusion
  cases op <;> first | rfl | cases radix

/-- Where its digits do not count as such, a number is found as a name. -/
theorem Departs.digits {mode onward : Mode} {text : String}
    {written rest : List Char} {isDigit : Char → Bool}
    (gives : Gives grammar mode written
      [Scan.wordLexeme isDigit text.toList] onward rest)
    (decimal : ∀ character : Char, character.isDigit = true →
      isDigit character = true)
    (mixed : ¬∀ character ∈ text.toList, isDigit character = true) :
    Departs grammar mode written [.digits text] := by
  rw [Scan.wordLexeme, if_neg (by simpa using mixed)] at gives
  refine .single gives ?_ rfl Lexeme.noConfusion
  have other : text ≠ "0" := by
    rintro rfl
    exact mixed (List.forall_mem_singleton.2 (decimal '0' rfl))
  exact decide_eq_true other

theorem strays_digits {text : String} (words : grammar.hasRuns = false)
    (shape : IsNumber Scan.isHexDigit text)
    (mixed : ¬IsNumber Char.isDigit text) :
    Strays grammar text [.digits text] := by
  intro gap rest gaps closes
  have gives := gives_word words gaps (by simpa using shape.1)
    (fun character member =>
      Scan.isNameChar_of_isHexDigit (shape.2 character member))
    (Scan.startsRadix_of_hexDigits shape.2) closes
  exact .digits gives (fun _ digit => digit)
    fun digits => mixed ⟨shape.1, digits⟩

/-- A number right behind an operator, whose digits are not of its radix. -/
theorem departs_dueDigits {op : UnaryOp} {text : String} {rest : List Char}
    (radix : op.isRadix = true) (shape : IsNumber Scan.isHexDigit text)
    (mixed : ¬IsNumber op.isDigit text) (closes : grammar.Closes rest) :
    Departs grammar op.mode (text.toList ++ rest) [.digits text] := by
  have gives := gives_dueWord radix (by simpa using shape.1)
    (fun character member =>
      Scan.isNameChar_of_isHexDigit (shape.2 character member)) closes
  refine .digits gives (fun character digit => ?_)
    fun digits => mixed ⟨shape.1, digits⟩
  cases op <;> simp [UnaryOp.isDigit, Scan.isHexDigit, digit]

theorem strays_unary {op : UnaryOp} {operand : Expr}
    (words : grammar.hasRuns = false) (leaves : operand.Wordlike)
    (astray : ¬operand.WellFormedAt op.isDigit)
    (strays : ¬operand.WellFormed →
      Strays grammar operand.listing operand.lexemes) :
    Strays grammar (Expr.unary op operand).listing
      (Expr.unary op operand).lexemes := by
  intro gap rest gaps closes
  cases radix : op.isRadix with
  | false =>
      have plain : ¬operand.WellFormed ∧ op.mode = .start := by
        cases op <;> first | exact ⟨astray, rfl⟩ | cases radix
      have behind := (strays plain.1).parenthesized
        (operand.strength < unaryStrength) [] rest grammar.skips_nil closes
      rw [← plain.2] at behind
      have whole := (gives_sign op words gaps).departs behind
      simpa [listing, lexemes, radix, plain.2] using whole
  | true =>
      cases digits : operand.isDigits with
      | true =>
          obtain ⟨text, rfl⟩ : ∃ text, operand = .digits text := by
            cases operand with
            | digits text => exact ⟨text, rfl⟩
            | _ => cases digits
          have whole := (gives_sign op words gaps).departs
            (departs_dueDigits radix leaves astray closes)
          simpa [listing, lexemes, radix, isDigits, Expr.parenthesized,
            enclosed, strength, atomStrength, unaryStrength] using whole
      | false =>
          have behind := (strays fun shape =>
            astray ((wellFormedAt_iff digits).2 shape)).parenthesized
            (operand.strength < unaryStrength) [' '] rest grammar.skips_blank
            closes
          have ended : grammar.Closes ([' '] ++
              ((Expr.parenthesized (operand.strength < unaryStrength)
                operand.listing).toList ++ rest)) :=
            Grammar.closes_cons.2 (by cases grammar <;> rfl)
          have whole := (gives_sign op words gaps).departs
            (behind.radixOver op ended)
          simpa [listing, lexemes, radix, digits] using whole

theorem Strays.apply {callee : Expr}
    (strays : Strays grammar callee.listing callee.lexemes) (arguments : Expr) :
    Strays grammar (Expr.apply callee arguments).listing
      (Expr.apply callee arguments).lexemes := by
  intro gap rest gaps _
  have front := strays.parenthesized (callee.strength < atomStrength) gap
    ('(' :: (arguments.listing.toList ++ ')' :: rest)) gaps
    (grammar.skips_nil.closes grammar.isMark_opening _)
  have whole := front.append (.mark '(' :: (arguments.lexemes ++ [.mark ')']))
  simpa [listing, lexemes] using whole

theorem Writes.strays_apply {callee arguments : Expr}
    (writes : Writes grammar callee.listing callee.lexemes)
    (strays : Strays grammar arguments.listing arguments.lexemes) :
    Strays grammar (Expr.apply callee arguments).listing
      (Expr.apply callee arguments).lexemes := by
  intro gap rest gaps _
  have front := writes.parenthesized (callee.strength < atomStrength) gap
    ('(' :: (arguments.listing.toList ++ ')' :: rest)) gaps
    (grammar.skips_nil.closes grammar.isMark_opening _)
  have back := strays [] (')' :: rest) grammar.skips_nil
    (grammar.skips_nil.closes grammar.isMark_closing rest)
  have whole := (front.trans (gives_mark '(' grammar.skips_nil
    grammar.isMark_opening)).departs (back.append [.mark ')'])
  simpa [listing, lexemes] using whole

theorem Strays.binary {op : BinaryOp} {left : Expr}
    (strays : Strays grammar left.listing left.lexemes)
    (marked : grammar.isMark op.mark = true) (right : Expr) :
    Strays grammar (Expr.binary op left right).listing
      (Expr.binary op left right).lexemes := by
  intro gap rest gaps _
  rcases spaced_split op grammar with ⟨before, after, split, gapsBefore, _⟩
  have front := strays.parenthesized (leftNeedsParentheses op left) gap
    (before ++ op.mark :: (after ++ ((Expr.parenthesized
      (rightNeedsParentheses op right) right.listing).toList ++ rest)))
    gaps (gapsBefore.closes marked _)
  have whole := front.append (.mark op.mark ::
    enclosed (rightNeedsParentheses op right) right.lexemes)
  simpa [listing, lexemes, split] using whole

theorem Writes.strays_binary {op : BinaryOp} {left right : Expr}
    (writes : Writes grammar left.listing left.lexemes)
    (marked : grammar.isMark op.mark = true)
    (strays : Strays grammar right.listing right.lexemes) :
    Strays grammar (Expr.binary op left right).listing
      (Expr.binary op left right).lexemes := by
  intro gap rest gaps closes
  rcases spaced_split op grammar with
    ⟨before, after, split, gapsBefore, gapsAfter⟩
  have front := writes.parenthesized (leftNeedsParentheses op left) gap
    (before ++ op.mark :: (after ++ ((Expr.parenthesized
      (rightNeedsParentheses op right) right.listing).toList ++ rest)))
    gaps (gapsBefore.closes marked _)
  have back := strays.parenthesized (rightNeedsParentheses op right) after rest
    gapsAfter closes
  have whole := (front.trans
    (gives_mark op.mark gapsBefore marked)).departs back
  simpa [listing, lexemes, split] using whole

/-- The lexer departs from the lexemes of a tree with a leaf out of place. -/
theorem strays_listing {expr : Expr} (lists : grammar.Lists expr)
    (leaves : expr.Wordlike) (astray : ¬expr.WellFormed) :
    Strays grammar expr.listing expr.lexemes := by
  rcases lists with ⟨words, written⟩
  induction expr with
  | identifier name =>
      refine strays_identifier words ?_
      cases marked : Scan.startsRadix name.toList with
      | true => exact marked
      | false => exact absurd (isName_iff_isWord.2 ⟨leaves, marked⟩) astray
  | digits text => exact strays_digits words leaves astray
  | string text => exact absurd trivial astray
  | unary op operand ih =>
      exact strays_unary words leaves astray
        fun inner => ih leaves inner written
  | apply callee arguments ihCallee ihArguments =>
      simp only [hasAssignment, Bool.or_eq_false_iff] at written
      by_cases shape : callee.WellFormed
      · have writes := writes_listing ⟨words, written.imp_right And.left⟩ shape
        exact writes.strays_apply (ihArguments leaves.2
          (fun inner => astray ⟨shape, inner⟩) (written.imp_right And.right))
      · exact (ihCallee leaves.1 shape (written.imp_right And.left)).apply
          arguments
  | binary op left right ihLeft ihRight =>
      simp only [hasAssignment, Bool.or_eq_false_iff, decide_eq_false_iff_not]
        at written
      have marked := isMark_mark words
        (written.imp_right fun free => free.1.1)
      by_cases shape : left.WellFormed
      · have writes := writes_listing
          ⟨words, written.imp_right fun free => free.1.2⟩ shape
        exact writes.strays_binary marked (ihRight leaves.2
          (fun inner => astray ⟨shape, inner⟩) (written.imp_right And.right))
      · exact (ihLeft leaves.1 shape
          (written.imp_right fun free => free.1.2)).binary marked right

/--
A sequence that is read to the finishing token says another tree, if the lexer
departs from the lexemes of the tree.
-/
theorem Departs.not_derives {lexer last : Lexer} {text : List Char}
    {expr : Expr} {lexemes : List Lexeme}
    (departs : Departs grammar .start text expr.lexemes)
    (faces : lexer.Faces grammar .start text)
    (reads : lexer.Reads (lexemes ++ [.finish]) last) :
    ¬Derives .list lexemes [] expr := by
  intro derived
  generalize listed : expr.lexemes = written at departs
  cases departs with
  | @intro front behind due found _ _ gives awaited met other =>
      have built := (expr.derives_list []).builds
      have agrees := derived.filter_isLandmark
      rw [listed] at built agrees
      rcases gives lexer faces with ⟨after, readsFound, _⟩
      have endless : Lexeme.finish ∉ front ++ [found] := by
        intro member
        rcases List.mem_append.1 member with inside | last
        · exact built _ (List.mem_append_left _ inside)
        · rw [← List.mem_singleton.1 last] at met
          cases met
      have shorter : front ++ [found] <+: lexemes := by
        rcases Nat.le_total (front ++ [found]).length
          (lexemes ++ [Lexeme.finish]).length with shorter | longer
        · rcases List.prefix_concat_iff.1
            (readsFound.comparable reads shorter) with same | inside
          · exact absurd (by simp [same]) endless
          · exact inside
        · exact absurd ((reads.comparable readsFound longer).subset (by simp))
            endless
      rcases shorter with ⟨more, rfl⟩
      simp [awaited, met] at agrees
      exact other agrees.1

end Lexer

/-! ## Reading the listing of what has been read -/

namespace Expr

/--
The listing of a tree that has been read is read back as the tree, if and only
if the tree is well-formed.
-/
theorem parse_listing_iff_wellFormed {grammar : Grammar} {text : String}
    {expr : Expr} (words : grammar.hasRuns = false)
    (parsed : parse text grammar = .ok expr) :
    parse expr.listing grammar = .ok expr ↔ expr.WellFormed := by
  rcases derives_of_parse parsed with ⟨lexemes, last, derived, reads⟩
  have shaped : ∀ lexeme ∈ lexemes, lexeme.Wordlike grammar :=
    fun lexeme member =>
      reads.wordlike words lexeme (List.mem_append_left _ member)
  have lists : grammar.Lists expr := by
    refine ⟨words, ?_⟩
    cases grammar with
    | expression => exact .inl rfl
    | assembly | tape => exact .inr (derived.hasAssignment_eq_false shaped rfl)
    | debugger => cases words
  constructor
  · intro again
    by_contra astray
    rcases derives_of_parse again with ⟨found, after, derivedAgain, readsAgain⟩
    have departs := Lexer.strays_listing lists (derived.wordlike shaped) astray
      [] [] grammar.skips_nil grammar.closes_nil
    rw [List.nil_append, List.append_nil] at departs
    exact departs.not_derives (Lexer.faces_ofText expr.listing 1 grammar)
      readsAgain derivedAgain
  · exact parse_listing_of_lists lists

/-- A name behind two radix marks is read as a tree, but not its listing. -/
theorem parse_listing_doubledRadix :
    ∃ expr : Expr,
      parse "0x0o1" .expression = .ok expr ∧ expr.listing = "0x 0o1" ∧
      parse expr.listing .expression ≠ .ok expr := by
  have parsed : parse "0x0o1" .expression =
      .ok (.unary .hexadecimal (.identifier "0o1")) :=
    Except.eq_ok_of_toOption (by decide +kernel)
  exact ⟨_, parsed, by decide +kernel, fun again =>
    absurd ((parse_listing_iff_wellFormed rfl parsed).1 again) (by decide)⟩

end Expr

end Whirlwind
