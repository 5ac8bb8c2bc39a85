import Whirlwind.Proofs.Token.Alphabet
import Whirlwind.Proofs.Token.Run
import Whirlwind.Proofs.Token.Standing
import Whirlwind.Proofs.Token.Word

/-!
# Digits behind radix marks

Right behind a hexadecimal mark the digits of numbers are hexadecimal, and
everywhere else they are decimal.  A word that is not made of the digits that
count where it stands is a name.  The mode in which a lexer is between two
calls tells it which digits count, and the token that was read last and the
place of the next one tell it to everyone else.
-/

namespace Whirlwind

namespace Lexeme

/-- The digits of a number behind a lexeme. -/
def isDigitBehind : Lexeme → Char → Bool
  | .operator .hexadecimal => Scan.isHexDigit
  | _ => Char.isDigit

/-- The shape of a lexeme where some characters count as digits. -/
def Fits (grammar : Grammar) (isDigit : Char → Bool) : Lexeme → Prop
  | .operator (.mark character) =>
      grammar.isMark character = true ∨ character = '@'
  | .identifier name =>
      (∀ character ∈ name.toList, Scan.isNameChar character = true) ∧
        ∃ character ∈ name.toList, isDigit character = false
  | .digits text => IsNumber isDigit text
  | _ => True

variable {grammar : Grammar} {lexeme : Lexeme} {onward : Mode}

/-- Where no radix mark is in force, decimal digits count. -/
theorem Shaped.fits (shaped : lexeme.Shaped grammar) :
    lexeme.Fits grammar Char.isDigit := by
  cases lexeme with
  | identifier => exact (isName_iff_isWord.1 shaped).1
  | operator sign => cases sign <;> exact shaped
  | digits => exact shaped
  | string | comment | autoComment | tab | finish => trivial

/-- A lexeme that is no word has its shape whatever counts as a digit. -/
theorem Fits.of_apart {isDigit other : Char → Bool}
    (fits : lexeme.Fits grammar isDigit)
    (unnamed : ∀ name, lexeme ≠ .identifier name)
    (unnumbered : ∀ text, lexeme ≠ .digits text) :
    lexeme.Fits grammar other := by
  cases lexeme with
  | identifier name => exact absurd rfl (unnamed name)
  | digits text => exact absurd rfl (unnumbered text)
  | operator sign => cases sign <;> exact fits
  | string | comment | autoComment | tab | finish => trivial

/-- Only behind a radix mark its digits are due. -/
theorem Leaves.eq_radix_iff {sign : Operator} {due : Mode}
    (leaves : lexeme.Leaves onward)
    (radix : (Lexeme.operator sign).Leaves due) (inForce : due ≠ .start) :
    onward = due ↔ lexeme = .operator sign := by
  constructor
  · rintro rfl
    cases sign with
    | mark => exact absurd radix inForce
    | octal | hexadecimal =>
        rcases show onward = _ from radix with rfl
        cases lexeme with
        | operator other =>
            cases other with
            | mark | octal | hexadecimal => first | rfl | cases leaves
        | comment => rcases leaves with same | same <;> cases same
        | identifier | digits | string | autoComment | tab | finish =>
            cases leaves
  · rintro rfl
    cases sign <;> exact leaves.trans radix.symm

/-- Only behind a hexadecimal mark hexadecimal digits are due. -/
theorem Leaves.eq_hexDigits_iff (leaves : lexeme.Leaves onward) :
    onward = .hexDigits ↔ lexeme = .operator .hexadecimal :=
  leaves.eq_radix_iff rfl nofun

/-- In a command no lexeme leaves anything in force. -/
theorem RunShaped.leaves (shaped : lexeme.RunShaped) :
    lexeme.Leaves .start := by
  cases lexeme with
  | operator sign =>
      cases sign with
      | mark => rfl
      | octal | hexadecimal => cases shaped
  | comment => exact Or.inl rfl
  | identifier | digits | string | autoComment | tab | finish => rfl

end Lexeme

/-- A word of the digits that count is a number, and any other one a name. -/
theorem Scan.fits_word {grammar : Grammar} {isDigit : Char → Bool}
    {text span : List Char} {lexeme : Lexeme} {onward : Mode}
    (visible : text.takeWhile isNameChar ≠ [])
    (found : word grammar isDigit text = .lexeme lexeme span onward) :
    lexeme.Fits grammar isDigit ∧ lexeme.Leaves onward := by
  rcases word_found found with ⟨rfl, rfl⟩
  unfold wordLexeme
  split
  · next digits =>
    refine ⟨⟨by simpa using visible, ?_⟩, rfl⟩
    simpa using digits
  · next mixed =>
    refine ⟨⟨?_, ?_⟩, rfl⟩
    · intro character member
      exact List.mem_takeWhile_imp (by simpa using member)
    · simpa using mixed

/-- A token tells in which mode reading goes on. -/
theorem Scan.leaves_token {grammar : Grammar} {first : Char}
    {rest span : List Char} {lexeme : Lexeme} {onward : Mode}
    (apart : grammar.isGap first = false)
    (found : token grammar first rest = .lexeme lexeme span onward) :
    lexeme.Leaves onward := by
  by_cases words : grammar.hasRuns = false
  · exact (shaped_token words apart found).2
  · cases grammar with
    | assembly | tape | expression => exact absurd rfl words
    | debugger =>
        rcases runShaped_token apart found with ⟨shaped, rfl⟩
        exact shaped.leaves

/-- A run of characters of names does not start with the end of a word. -/
theorem Grammar.not_closes_of_named {grammar : Grammar} {run : List Char}
    (filled : run ≠ [])
    (named : ∀ character ∈ run, Scan.isNameChar character = true)
    (rest : List Char) : ¬grammar.Closes (run ++ rest) := by
  rcases List.exists_cons_of_ne_nil filled with ⟨first, more, rfl⟩
  intro closes
  have ends := closes_cons.1 closes
  rw [Scan.isTerminator_of_isNameChar (named first List.mem_cons_self)] at ends
  cases ends

/-- Where the end of a word stands, there is no word. -/
theorem Lexeme.Shaped.apart_of_closes {grammar : Grammar} {lexeme : Lexeme}
    {span rest : List Char} (shaped : lexeme.Shaped grammar)
    (occupies : lexeme.Occupies span rest)
    (closes : grammar.Closes (span ++ rest)) :
    (∀ name, lexeme ≠ .identifier name) ∧ ∀ text, lexeme ≠ .digits text := by
  constructor
  · rintro name rfl
    rcases shaped with ⟨named, ⟨letter, member, _⟩, _⟩
    rw [show span = name.toList from occupies] at closes
    exact Grammar.not_closes_of_named (List.ne_nil_of_mem member) named _ closes
  · rintro text rfl
    rcases shaped with ⟨visible, digits⟩
    rw [show span = text.toList from occupies] at closes
    refine Grammar.not_closes_of_named (by simpa using visible) ?_ _ closes
    exact fun character member =>
      Scan.isNameChar_of_isDigit (digits character member)

/-! ## What a mode finds -/

namespace Finds

variable {grammar : Grammar} {mode next : Mode}
  {gap text span rest : List Char} {lexeme : Lexeme}

/-- A word that is due has a character. -/
theorem visible_of_due {isDigit : Char → Bool}
    (due : ¬grammar.Closes text)
    (found : Scan.word grammar isDigit text = .lexeme lexeme span next) :
    text.takeWhile Scan.isNameChar ≠ [] := by
  rcases text with _ | ⟨first, rest⟩
  · exact absurd grammar.closes_nil due
  · rw [Grammar.closes_cons, Bool.not_eq_true] at due
    exact Scan.word_visible due found

/-- What is found tells in which mode reading goes on. -/
theorem leaves
    (finds : Finds grammar mode gap text (.lexeme lexeme span next)) :
    lexeme.Leaves next := by
  generalize same : Finding.lexeme lexeme span next = finding at finds
  cases finds with
  | token _ _ apart => exact Scan.leaves_token apart same.symm
  | octal due | hexadecimal due =>
      exact (Scan.fits_word (visible_of_due due same.symm) same.symm).2
  | comment =>
      have found : lexeme.Shaped grammar ∧ lexeme.Leaves next :=
        Scan.shaped_autoComment same.symm
      exact found.2

/-- Decimal digits count unless hexadecimal ones are due. -/
theorem fits (words : grammar.hasRuns = false)
    (finds : Finds grammar mode gap text (.lexeme lexeme span next))
    (elsewhere : mode = .hexDigits → gap ≠ []) :
    lexeme.Fits grammar Char.isDigit := by
  generalize same : Finding.lexeme lexeme span next = finding at finds
  cases finds with
  | token _ _ apart => exact (Scan.shaped_token words apart same.symm).1.fits
  | octal due =>
      exact (Scan.fits_word (visible_of_due due same.symm) same.symm).1
  | hexadecimal => exact absurd rfl (elsewhere rfl)
  | comment => exact (Scan.shaped_autoComment same.symm).1.fits

/-- Right behind a hexadecimal mark hexadecimal digits count. -/
theorem fits_hexadecimal (words : grammar.hasRuns = false)
    (finds : Finds grammar .hexDigits [] (span ++ rest)
      (.lexeme lexeme span next)) :
    lexeme.Fits grammar Scan.isHexDigit := by
  generalize split : span ++ rest = text at finds
  generalize same : Finding.lexeme lexeme span next = finding at finds
  cases finds with
  | token fresh _ apart =>
      have shaped := (Scan.shaped_token words apart same.symm).1
      have closes := (fresh.resolve_left nofun).2
      rw [List.nil_append, ← split] at closes
      rcases Scan.occupies_token same.symm split.symm with
        ⟨occupies, _⟩ | ⟨front, _, splits, _⟩
      · rcases shaped.apart_of_closes occupies closes with
          ⟨unnamed, unnumbered⟩
        exact shaped.fits.of_apart unnamed unnumbered
      · rcases splits with ⟨text, rfl, _⟩
        trivial
  | hexadecimal due =>
      exact (Scan.fits_word (visible_of_due due same.symm) same.symm).1

/-- A hexadecimal mark is written in two characters. -/
theorem span_of_hexadecimal
    (finds : Finds grammar mode gap (span ++ rest)
      (.lexeme (.operator .hexadecimal) span next)) : span = ['0', 'x'] := by
  by_cases due : mode = .autoComment
  · rcases due with rfl
    rcases finds.occupies_due with ⟨_, ⟨written, same, _⟩, _⟩
    cases same
  · rcases finds.occupies due with ⟨occupies, _⟩ | ⟨front, _, splits, _⟩
    · exact occupies
    · rcases splits with ⟨text, same, _⟩
      cases same

end Finds

/-! ## Where tokens are -/

namespace Location

variable {firstLine : Nat} {front span gap : List Char}

/-- A span on one line moves the column by its length. -/
theorem behind_append_of_not_mem (firstLine : Nat) (front : List Char)
    (inLine : '\n' ∉ span) :
    behind firstLine (front ++ span) =
      ⟨(behind firstLine front).line,
        (behind firstLine front).column + span.length⟩ := by
  rw [behind, behind, Text.lastLine_append_of_not_mem inLine,
    List.count_append, List.count_eq_zero_of_not_mem inLine,
    List.length_append]
  rfl

/-- Behind a gap is another place than in front of it. -/
theorem eq_nil_of_behind_eq
    (same : behind firstLine (front ++ gap) = behind firstLine front) :
    gap = [] := by
  by_cases inLine : '\n' ∈ gap
  · have lines := congrArg line same
    have counted := List.count_pos_iff.2 inLine
    simp only [behind, List.count_append] at lines
    omega
  · rw [behind_append_of_not_mem firstLine front inLine] at same
    have columns := congrArg column same
    exact List.eq_nil_of_length_eq_zero (Nat.left_eq_add.1 columns.symm)

end Location

/-- A token stands right behind a hexadecimal mark that was answered before. -/
def Token.FollowsMark (token : Token)
    (previous : Option (Except SyntaxError Token)) : Prop :=
  ∃ mark, previous = some (.ok mark) ∧
    mark.lexeme = .operator .hexadecimal ∧
    token.location = ⟨mark.location.line, mark.location.column + 2⟩

namespace Lexer

/-- What a lexer has answered last tells whether hexadecimal digits are due, and
where they would start. -/
inductive Trails (lexer : Lexer) (grammar : Grammar) (firstLine : Nat)
    (previous : Option (Except SyntaxError Token)) : Prop
  | between {mode : Mode} {front rest : List Char}
      (stands : lexer.StandsAt grammar firstLine mode front rest)
      (due : mode = .hexDigits → ∃ mark, previous = some (.ok mark) ∧
        mark.lexeme = .operator .hexadecimal)
      (placed : ∀ mark, previous = some (.ok mark) →
        mark.lexeme = .operator .hexadecimal →
          mode = .hexDigits ∧ Location.behind firstLine front =
            ⟨mark.location.line, mark.location.column + 2⟩)

variable {lexer after : Lexer} {grammar : Grammar} {firstLine count : Nat}
  {previous : Option (Except SyntaxError Token)} {token : Token}

theorem trails_ofText (text : String) (firstLine : Nat) (grammar : Grammar) :
    (ofText text firstLine grammar).Trails grammar (max 1 firstLine) none :=
  .between (standsAt_ofText text firstLine grammar) nofun nofun

/-- A token is of the shape that its place asks for. -/
def FitsBehind (grammar : Grammar)
    (previous : Option (Except SyntaxError Token)) (token : Token) : Prop :=
  (token.FollowsMark previous → token.lexeme.Fits grammar Scan.isHexDigit) ∧
    (¬token.FollowsMark previous → token.lexeme.Fits grammar Char.isDigit)

/-- Behind a call the answer tells what is due, as it did before the call. -/
inductive FitsStep (grammar : Grammar) (firstLine : Nat)
    (previous : Option (Except SyntaxError Token)) :
    EStateM.Result SyntaxError Lexer Token → Prop
  | token {token : Token} {after : Lexer}
      (fits : FitsBehind grammar previous token)
      (trails : after.Trails grammar firstLine (some (.ok token))) :
      FitsStep grammar firstLine previous (.ok token after)
  | error {error : SyntaxError} {after : Lexer}
      (trails : after.Trails grammar firstLine (some (.error error))) :
      FitsStep grammar firstLine previous (.error error after)

theorem Trails.step (trails : lexer.Trails grammar firstLine previous)
    (words : grammar.hasRuns = false) :
    FitsStep grammar firstLine previous lexer.next := by
  rcases trails with @⟨mode, front, rest, stands, due, placed⟩
  have step := stands.step
  generalize lexer.next = result at step
  cases step with
  | finish _ _ finishes behind =>
      refine .token ?_ (.between behind nofun ?_)
      · simp [FitsBehind, finishes, Lexeme.Fits]
      · rintro mark ⟨⟩ hexadecimal
        rw [finishes] at hexadecimal
        cases hexadecimal
  | error _ _ _ behind => exact .error (.between behind nofun nofun)
  | @token gap span later lexeme next after split finds behind =>
      have leaves := finds.leaves
      refine .token ⟨?_, ?_⟩ (.between behind ?_ ?_)
      · -- There is nothing between the mark and a token right behind it.
        rintro ⟨mark, answered, hexadecimal, there⟩
        rcases placed mark answered hexadecimal with ⟨rfl, place⟩
        rcases Location.eq_nil_of_behind_eq (there.trans place.symm) with rfl
        exact finds.fits_hexadecimal words
      · -- Where hexadecimal digits are due, there is something.
        intro elsewhere
        refine finds.fits words ?_
        rintro rfl rfl
        rcases due rfl with ⟨mark, answered, hexadecimal⟩
        refine elsewhere ⟨mark, answered, hexadecimal, ?_⟩
        rw [List.append_nil]
        exact (placed mark answered hexadecimal).2
      · intro hexDigits
        exact ⟨_, rfl, leaves.eq_hexDigits_iff.1 hexDigits⟩
      · rintro mark ⟨⟩ hexadecimal
        refine ⟨leaves.eq_hexDigits_iff.2 hexadecimal, ?_⟩
        rcases show lexeme = .operator .hexadecimal from hexadecimal with rfl
        rcases finds.span_of_hexadecimal with rfl
        exact Location.behind_append_of_not_mem firstLine (front ++ gap)
          (by decide)

/-- Whatever the calls answer, each token is of the shape of its place. -/
theorem Trails.answers (trails : lexer.Trails grammar firstLine previous)
    (words : grammar.hasRuns = false)
    {front behind : List (Except SyntaxError Token)}
    (answered : lexer.answers count = front ++ .ok token :: behind) :
    FitsBehind grammar (front.getLast?.or previous) token := by
  induction front generalizing lexer count previous with
  | nil =>
      have step := trails.step words
      cases count with
      | zero => cases answered
      | succ count =>
          rw [Lexer.answers] at answered
          generalize lexer.next = result at step answered
          cases step with
          | token fits =>
              rcases Except.ok.inj (List.cons.inj answered).1 with rfl
              exact fits
          | error => cases (List.cons.inj answered).1
  | cons first front ih =>
      have step := trails.step words
      have last : (first :: front).getLast?.or previous =
          front.getLast?.or (some first) := by
        rw [List.getLast?_cons]
        cases front.getLast? <;> rfl
      rw [last]
      cases count with
      | zero => cases answered
      | succ count =>
          rw [Lexer.answers] at answered
          generalize lexer.next = result at step answered
          cases step with
          | token _ behind | error behind =>
              rcases (List.cons.inj answered).1 with rfl
              exact ih behind (List.cons.inj answered).2

/-- All tokens of a text are of the shape of their places. -/
theorem fitsBehind_of_answers {text : String} (words : grammar.hasRuns = false)
    {front behind : List (Except SyntaxError Token)}
    (answered : (ofText text firstLine grammar).answers count =
      front ++ .ok token :: behind) :
    FitsBehind grammar front.getLast? token := by
  have fits := (trails_ofText text firstLine grammar).answers words answered
  rwa [Option.or_none] at fits

end Lexer

/-! ## Runs of lexemes -/

/-- Behind anything but a hexadecimal mark decimal digits count. -/
theorem Lexeme.isDigitBehind_eq {lexeme : Lexeme}
    (other : lexeme ≠ .operator .hexadecimal) :
    lexeme.isDigitBehind = Char.isDigit := by
  unfold isDigitBehind
  split
  · exact absurd rfl other
  · rfl

theorem Lexeme.isDigitBehind_of_isDigit (lexeme : Lexeme) {character : Char}
    (digit : character.isDigit = true) :
    lexeme.isDigitBehind character = true := by
  unfold isDigitBehind
  split
  · simp [Scan.isHexDigit, digit]
  · exact digit

theorem IsNumber.mono {isDigit other : Char → Bool} {text : String}
    (number : IsNumber isDigit text)
    (wider : ∀ character, isDigit character = true →
      other character = true) : IsNumber other text :=
  ⟨number.1, fun character member => wider _ (number.2 character member)⟩

/-- The digits that count in a mode. -/
def Mode.isDigit : Mode → Char → Bool
  | .hexDigits => Scan.isHexDigit
  | _ => Char.isDigit

theorem Mode.isDigit_of_ne {mode : Mode} (other : mode ≠ .hexDigits) :
    mode.isDigit = Char.isDigit := by
  cases mode with
  | hexDigits => exact absurd rfl other
  | start | octalDigits | autoComment => rfl

theorem Lexeme.Leaves.isDigit_eq {lexeme : Lexeme} {onward : Mode}
    (leaves : lexeme.Leaves onward) : onward.isDigit = lexeme.isDigitBehind := by
  by_cases due : onward = .hexDigits
  · rw [due, leaves.eq_hexDigits_iff.1 due]
    rfl
  · rw [Mode.isDigit_of_ne due,
      isDigitBehind_eq (mt leaves.eq_hexDigits_iff.2 due)]

namespace Lexeme

/-- The numbers among lexemes are made of the digits that count behind the
lexeme in front of each, which for the first one are given. -/
def DigitsFit (isDigit : Char → Bool) : List Lexeme → Prop
  | [] => True
  | lexeme :: rest =>
      (∀ text, lexeme = .digits text → IsNumber isDigit text) ∧
        DigitsFit lexeme.isDigitBehind rest

/-- The digits that count behind lexemes. -/
def isDigitAfter (isDigit : Char → Bool) : List Lexeme → Char → Bool
  | [] => isDigit
  | lexeme :: rest => isDigitAfter lexeme.isDigitBehind rest

@[simp]
theorem digitsFit_append_iff {isDigit : Char → Bool} {front back : List Lexeme} :
    DigitsFit isDigit (front ++ back) ↔
      DigitsFit isDigit front ∧ DigitsFit (isDigitAfter isDigit front) back := by
  induction front generalizing isDigit with
  | nil => simp [DigitsFit, isDigitAfter]
  | cons lexeme front ih =>
      rw [List.cons_append, DigitsFit, DigitsFit, ih, and_assoc, isDigitAfter]

@[simp]
theorem isDigitAfter_append (isDigit : Char → Bool)
    (front back : List Lexeme) :
    isDigitAfter isDigit (front ++ back) =
      isDigitAfter (isDigitAfter isDigit front) back := by
  induction front generalizing isDigit with
  | nil => rfl
  | cons lexeme front ih => exact ih _

theorem isDigitAfter_append_singleton (isDigit : Char → Bool)
    (front : List Lexeme) (last : Lexeme) :
    isDigitAfter isDigit (front ++ [last]) = last.isDigitBehind :=
  isDigitAfter_append isDigit front [last]

end Lexeme

/-- What a lexer reads in front of a text has the digits that count there. -/
theorem Lexer.Reads.digitsFit {lexer after : Lexer} {lexemes : List Lexeme}
    {grammar : Grammar} {firstLine : Nat} {mode : Mode}
    {front rest : List Char} (reads : lexer.Reads lexemes after)
    (words : grammar.hasRuns = false)
    (stands : lexer.StandsAt grammar firstLine mode front rest) :
    Lexeme.DigitsFit mode.isDigit lexemes := by
  induction reads generalizing mode front rest with
  | done => trivial
  | read first _ ih =>
      have step := stands.step
      rw [first] at step
      cases step with
      | finish _ _ finishes behind =>
          rw [finishes]
          exact ⟨nofun, ih behind⟩
      | @token gap span later lexeme next after split finds behind =>
          refine ⟨?_, (finds.leaves).isDigit_eq ▸ ih behind⟩
          rintro text rfl
          by_cases due : mode = .hexDigits
          · rcases due with rfl
            by_cases direct : gap = []
            · rcases direct with rfl
              exact finds.fits_hexadecimal words
            · have decimal : IsNumber Char.isDigit text :=
                finds.fits words fun _ => direct
              exact decimal.mono fun character digit => by
                simp [Mode.isDigit, Scan.isHexDigit, digit]
          · rw [Mode.isDigit_of_ne due]
            exact finds.fits words fun hexDigits => absurd hexDigits due

namespace TokenStream

/-- Whatever is consumed from a stream, its numbers have the digits that count. -/
def Counts (start : TokenStream) (isDigit : Char → Bool) : Prop :=
  ∀ consumed rest, start.Passes consumed rest →
    Lexeme.DigitsFit isDigit consumed

variable {start rest : TokenStream} {isDigit : Char → Bool}
  {consumed : List Lexeme}

theorem Idle.counts {grammar : Grammar} {firstLine : Nat} {mode : Mode}
    {front text : List Char} (idle : start.Idle)
    (words : grammar.hasRuns = false)
    (stands : start.lexer.StandsAt grammar firstLine mode front text) :
    start.Counts mode.isDigit := by
  intro consumed rest passed
  rcases idle.exists_reads passed with ⟨between, reads⟩
  exact reads.digitsFit words stands

theorem counts_ofText (text : String) (firstLine : Nat) {grammar : Grammar}
    (words : grammar.hasRuns = false) :
    (ofText text firstLine grammar).Counts Char.isDigit :=
  (idle_ofText text firstLine grammar).counts words
    (Lexer.standsAt_ofText text firstLine grammar)

/-- Behind what is consumed the digits that count there do. -/
theorem Counts.passes (counts : start.Counts isDigit)
    (passed : start.Passes consumed rest) :
    rest.Counts (Lexeme.isDigitAfter isDigit consumed) :=
  fun _ last passedLater =>
    (Lexeme.digitsFit_append_iff.1
      (counts _ last (passed.trans passedLater))).2

end TokenStream

end Whirlwind
