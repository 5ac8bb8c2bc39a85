import Whirlwind.Token.Scan.Span

/-!
# The shapes of written lexemes

What a scan finds at the start of a text of a known shape.  A word is a run of
letters, digits and underscores.  No such character can end a word, and none is
a blank, a quote or an operator.  A word is read as a number if all of it are
digits, and else as a name, unless its first two characters are a radix mark.
-/

namespace Whirlwind

/-- A lexeme that is a single character. -/
abbrev Lexeme.mark (character : Char) : Lexeme :=
  .operator (.mark character)

namespace Grammar

/-- What follows a word starts with a character that ends it, if there is one. -/
def Closes (grammar : Grammar) (rest : List Char) : Prop :=
  ∀ first ∈ rest.head?, grammar.isTerminator first = true

@[simp]
theorem closes_nil (grammar : Grammar) : grammar.Closes [] :=
  fun _ member => nomatch member

@[simp]
theorem closes_cons {grammar : Grammar} {first : Char} {rest : List Char} :
    grammar.Closes (first :: rest) ↔ grammar.isTerminator first = true := by
  simp [Closes]

/-- The part of a text that is on its first line closes what the text does. -/
theorem Closes.of_prefix {grammar : Grammar} {rest line : List Char}
    (closes : grammar.Closes rest) (start : line <+: rest) :
    grammar.Closes line := by
  cases line with
  | nil => exact grammar.closes_nil
  | cons first line =>
      rcases start with ⟨more, rfl⟩
      exact closes_cons.2 (closes_cons.1 closes)

/-- A text that only separates tokens, if there is any. -/
def Skips (grammar : Grammar) (gap : List Char) : Prop :=
  ∀ character ∈ gap, grammar.isGap character = true

@[simp]
theorem skips_nil (grammar : Grammar) : grammar.Skips [] :=
  fun _ member => nomatch member

theorem skips_append {grammar : Grammar} {front back : List Char}
    (skips : grammar.Skips front) (later : grammar.Skips back) :
    grammar.Skips (front ++ back) :=
  List.forall_mem_append.2 ⟨skips, later⟩

theorem skips_blank (grammar : Grammar) : grammar.Skips [' '] := by
  intro character member
  rw [List.mem_singleton.1 member]
  cases grammar <;> rfl

/-- A gap in front of an operator ends a word, and so does the operator. -/
theorem Skips.closes {grammar : Grammar} {gap : List Char} {mark : Char}
    (gaps : grammar.Skips gap) (marked : grammar.isMark mark = true)
    (rest : List Char) : grammar.Closes (gap ++ mark :: rest) := by
  cases gap with
  | nil => exact closes_cons.2 (by simp [isTerminator, marked])
  | cons first gap =>
      have blank := gaps first List.mem_cons_self
      simp only [isGap, Bool.and_eq_true] at blank
      exact closes_cons.2 (by simp [isTerminator, blank.1])

@[simp]
theorem isMark_opening (grammar : Grammar) : grammar.isMark '(' = true := by
  cases grammar <;> rfl

@[simp]
theorem isMark_closing (grammar : Grammar) : grammar.isMark ')' = true := by
  cases grammar <;> rfl

theorem isNameChar_of_mem_marks (grammar : Grammar) :
    ∀ character ∈ grammar.marks, Scan.isNameChar character = false := by
  have checked :
      grammar.marks.all (fun character => !Scan.isNameChar character) := by
    cases grammar <;> rfl
  simpa using checked

/-- No operator is a gap or the start of a lexeme of another sort. -/
theorem apart_of_mem_marks (grammar : Grammar) :
    ∀ character ∈ grammar.marks, grammar.isGap character = false ∧
      character ≠ '\t' ∧ character ≠ '\n' ∧ character ≠ '"' ∧ character ≠ '@' ∧
      (grammar.hasComments && decide (character = ';')) = false := by
  have checked : grammar.marks.all fun character =>
      decide (grammar.isGap character = false ∧
        character ≠ '\t' ∧ character ≠ '\n' ∧ character ≠ '"' ∧
        character ≠ '@' ∧
        (grammar.hasComments && decide (character = ';')) = false) := by
    cases grammar <;> rfl
  exact fun character member =>
    of_decide_eq_true (List.all_eq_true.1 checked character member)

end Grammar

namespace Scan

/-- The codes of digits, capitals, small letters and the underscore. -/
theorem isNameChar_iff {character : Char} :
    isNameChar character = true ↔
      (48 ≤ character.toNat ∧ character.toNat ≤ 57) ∨
        (65 ≤ character.toNat ∧ character.toNat ≤ 90) ∨
        (97 ≤ character.toNat ∧ character.toNat ≤ 122) ∨
        character.toNat = 95 := by
  show ((decide (character.val ≥ 65 ∧ character.val ≤ 90) ||
      (decide (character.val ≥ 97) && decide (character.val ≤ 122)) ||
      (decide (character.val ≥ 48) && decide (character.val ≤ 57))) ||
    decide (character = '_')) = true ↔ _
  have underscore : character = '_' ↔ character.toNat = 95 := by
    constructor
    · rintro rfl
      rfl
    · exact fun code => Char.toNat_inj.1 code
  simp only [Bool.or_eq_true, Bool.and_eq_true, decide_eq_true_eq,
    ge_iff_le, UInt32.le_iff_toNat_le, underscore]
  show ((65 ≤ character.toNat ∧ character.toNat ≤ 90 ∨
      97 ≤ character.toNat ∧ character.toNat ≤ 122) ∨
    48 ≤ character.toNat ∧ character.toNat ≤ 57) ∨ _ ↔ _
  omega

theorem isBlank_of_isNameChar {character : Char}
    (named : isNameChar character = true) :
    Text.isBlank character = false := by
  have codes := isNameChar_iff.1 named
  simp only [Text.isBlank, Text.spacingCodes, List.contains_cons,
    List.contains_nil, Bool.or_eq_false_iff, Bool.and_eq_false_iff,
    decide_eq_false_iff_not, beq_eq_false_iff_ne, ne_eq, and_true]
  omega

theorem isMark_of_isNameChar {character : Char}
    (named : isNameChar character = true) (grammar : Grammar) :
    grammar.isMark character = false := by
  cases marked : grammar.isMark character with
  | false => rfl
  | true =>
      have other := grammar.isNameChar_of_mem_marks character
        (List.contains_iff_mem.1 marked)
      exact absurd (named.symm.trans other) (by decide)

/-- No character of a word can end a word. -/
theorem isTerminator_of_isNameChar {character : Char}
    (named : isNameChar character = true) (grammar : Grammar) :
    grammar.isTerminator character = false := by
  have semicolon : character ≠ ';' := by
    rintro rfl
    exact absurd named (by decide)
  have atSign : character ≠ '@' := by
    rintro rfl
    exact absurd named (by decide)
  simp [Grammar.isTerminator, isBlank_of_isNameChar named,
    isMark_of_isNameChar named, semicolon, atSign]

/-- What can be part of a name starts one or is a digit. -/
theorem isNameChar_eq (character : Char) :
    isNameChar character = (isNameStart character || character.isDigit) := by
  show ((character.isAlpha || character.isDigit) || _) =
    ((character.isAlpha || _) || character.isDigit)
  exact Bool.or_right_comm _ _ _

theorem isNameChar_of_isDigit {character : Char}
    (digit : character.isDigit = true) : isNameChar character = true := by
  simp [isNameChar, Char.isAlphanum, digit]

theorem isNameChar_of_isHexDigit {character : Char}
    (digit : isHexDigit character = true) : isNameChar character = true := by
  simp only [isHexDigit, Char.isDigit, Bool.or_eq_true, Bool.and_eq_true,
    Char.le_def, decide_eq_true_eq, ge_iff_le, UInt32.le_iff_toNat_le,
    Char.reduceVal, UInt32.reduceToNat] at digit
  simp only [isNameChar_iff, Char.toNat]
  omega

/-- Whether a text starts with a radix mark. -/
def startsRadix : List Char → Bool
  | '0' :: 'o' :: _ | '0' :: 'x' :: _ => true
  | _ => false

theorem head_ne_of_closes {grammar : Grammar} {rest : List Char}
    {first : Char} (closes : grammar.Closes rest)
    (named : isNameChar first = true) : rest.head? ≠ some first := by
  intro starts
  have ends := closes first starts
  rw [isTerminator_of_isNameChar named] at ends
  cases ends

theorem startsRadix_append {grammar : Grammar} {run rest : List Char}
    (visible : run ≠ []) (plain : startsRadix run = false)
    (closes : grammar.Closes rest) : startsRadix (run ++ rest) = false := by
  match run, visible with
  | [first], _ =>
      have noO : rest.head? ≠ some 'o' := head_ne_of_closes closes (by decide)
      have noX : rest.head? ≠ some 'x' := head_ne_of_closes closes (by decide)
      cases rest with
      | nil => simp [startsRadix]
      | cons second rest =>
          simp only [List.head?_cons, ne_eq, Option.some.injEq] at noO noX
          unfold startsRadix
          split <;> simp_all
  | first :: second :: run, _ =>
      unfold startsRadix at *
      split at plain <;> simp_all

/-- The lexeme that a word is. -/
def wordLexeme (isDigit : Char → Bool) (run : List Char) : Lexeme :=
  if run.all isDigit then .digits (String.ofList run)
  else .identifier (String.ofList run)

theorem word_append {grammar : Grammar} {run rest : List Char}
    (isDigit : Char → Bool)
    (named : ∀ character ∈ run, isNameChar character = true)
    (closes : grammar.Closes rest) :
    word grammar isDigit (run ++ rest) =
      .lexeme (wordLexeme isDigit run) run .start := by
  have stops : rest.takeWhile isNameChar = [] ∧
      rest.dropWhile isNameChar = rest := by
    cases rest with
    | nil => exact ⟨rfl, rfl⟩
    | cons next rest =>
        have apart : isNameChar next = false := by
          cases found : isNameChar next with
          | false => rfl
          | true => exact absurd rfl (head_ne_of_closes closes found)
        simp [apart]
  simp only [word, List.takeWhile_append_of_pos named,
    List.dropWhile_append_of_pos named, stops, List.append_nil, wordLexeme]
  cases rest with
  | nil => rfl
  | cons next rest => simp [Grammar.closes_cons.1 closes]

/-- Where a word may stand, a text that starts with one is scanned as it. -/
theorem token_word {grammar : Grammar} {first : Char} {tail rest : List Char}
    (words : grammar.hasRuns = false)
    (named : ∀ character ∈ first :: tail, isNameChar character = true)
    (plain : startsRadix (first :: tail) = false)
    (closes : grammar.Closes rest) :
    token grammar first (tail ++ rest) =
      .lexeme (wordLexeme Char.isDigit (first :: tail)) (first :: tail)
        .start := by
  have starts := named first List.mem_cons_self
  have apart : first ≠ '\t' ∧ first ≠ '"' ∧ first ≠ ';' ∧ first ≠ '@' := by
    refine ⟨?_, ?_, ?_, ?_⟩ <;> rintro rfl <;> exact absurd starts (by decide)
  have scanned := word_append Char.isDigit named closes
  have marked := startsRadix_append (List.cons_ne_nil first tail) plain closes
  rw [List.cons_append] at scanned marked
  simp only [token, apart, decide_false, Bool.and_false, Bool.false_eq_true,
    if_false, isMark_of_isNameChar starts, words, ← scanned]
  split
  · next same => simp [same, startsRadix] at marked
  · next same => simp [same, startsRadix] at marked
  · rfl

theorem token_mark {grammar : Grammar} {character : Char}
    (marked : grammar.isMark character = true) (rest : List Char) :
    token grammar character rest =
      .lexeme (.mark character) [character] .start := by
  rcases grammar.apart_of_mem_marks character (List.contains_iff_mem.1 marked) with
    ⟨_, tab, _, quote, atSign, comment⟩
  simp [token, tab, quote, atSign, comment, marked]

@[simp]
theorem beforeAtSigns?_eq_none_iff {text : List Char} :
    beforeAtSigns? text = none ↔ ¬['@', '@'] <:+: text := by
  fun_induction beforeAtSigns? text with
  | case1 => simp
  | case2 rest => simpa using ⟨[], rest, rfl⟩
  | case3 character rest apart ih =>
      rw [Option.map_eq_none_iff, ih, List.infix_cons_iff, not_or]
      refine ⟨fun absent => ⟨?_, absent⟩, And.right⟩
      rintro ⟨later, same⟩
      rcases List.cons.inj same with ⟨rfl, behind⟩
      exact apart later rfl behind.symm

/-- A text in which no two at signs stand together can be told from them. -/
theorem beforeAtSigns?_append {body : List Char} {last : Char}
    (apart : last ≠ '@') (alone : beforeAtSigns? body = none)
    (rest : List Char) :
    beforeAtSigns? (body ++ last :: '@' :: '@' :: rest) =
      some (body ++ [last]) := by
  fun_induction beforeAtSigns? body with
  | case1 => simp [beforeAtSigns?, apart]
  | case2 => cases alone
  | case3 character body notSigns ih =>
      simp only [Option.map_eq_none_iff] at alone
      rw [List.cons_append, beforeAtSigns?, ih alone]
      · rfl
      · rintro later rfl same
        cases body with
        | nil => simp_all
        | cons next body =>
            rcases List.cons.inj same with ⟨rfl, _⟩
            exact notSigns body rfl rfl

/-- The text in front of two at signs does not depend on what follows them. -/
theorem beforeAtSigns?_found {text body : List Char}
    (found : beforeAtSigns? text = some body) :
    ∃ rest, text = body ++ '@' :: '@' :: rest ∧
      ∀ other, beforeAtSigns? (body ++ '@' :: '@' :: other) = some body := by
  fun_induction beforeAtSigns? text generalizing body with
  | case1 => cases found
  | case2 rest =>
      cases found
      exact ⟨rest, rfl, fun _ => rfl⟩
  | case3 character text apart ih =>
      rcases Option.map_eq_some_iff.1 found with ⟨later, foundLater, rfl⟩
      rcases ih foundLater with ⟨rest, rfl, again⟩
      refine ⟨rest, rfl, fun other => ?_⟩
      rw [List.cons_append, beforeAtSigns?, again]
      · rfl
      · rintro more rfl same
        cases later with
        | nil => exact apart _ rfl rfl
        | cons next later =>
            rcases List.cons.inj same with ⟨rfl, _⟩
            exact apart _ rfl rfl

theorem upToNewline_append {body : List Char} (inLine : '\n' ∉ body)
    (rest : List Char) :
    upToNewline (body ++ rest) = body ++ upToNewline rest := by
  refine List.takeWhile_append_of_pos fun character member => ?_
  have apart : character ≠ '\n' := by
    rintro rfl
    exact inLine member
  simpa using apart

theorem upToNewline_eq_self {body : List Char} (inLine : '\n' ∉ body) :
    upToNewline body = body := by
  have whole := upToNewline_append inLine []
  rwa [List.append_nil, show upToNewline [] = [] from rfl, List.append_nil]
    at whole

end Scan

/-- A text that is read as one name, where a word may stand. -/
def IsName (name : String) : Prop :=
  (∀ character ∈ name.toList, Scan.isNameChar character = true) ∧
    (∃ character ∈ name.toList, character.isDigit = false) ∧
    Scan.startsRadix name.toList = false

instance (name : String) : Decidable (IsName name) :=
  decidable_of_iff
    (name.toList.all Scan.isNameChar ∧
      (name.toList.any fun character => !character.isDigit) ∧
      Scan.startsRadix name.toList = false)
    (by simp [IsName])

/-- A text of at least one digit, and of nothing but digits. -/
def IsNumber (isDigit : Char → Bool) (text : String) : Prop :=
  text ≠ "" ∧ ∀ character ∈ text.toList, isDigit character = true

instance (isDigit : Char → Bool) (text : String) :
    Decidable (IsNumber isDigit text) :=
  decidable_of_iff (text ≠ "" ∧ text.toList.all isDigit)
    (by simp [IsNumber])

end Whirlwind
