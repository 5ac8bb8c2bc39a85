import Whirlwind.Proofs.Token.Pointing

/-!
# Tokens lose nothing

A text that is read to its end without an error is an alternation of gaps, which
are white space, and of its tokens as they are written (`Tiles`).  So no
character is dropped and none is read twice, and every token has the location
of the place where it stands, if the numbers of all lines have 32 bits.
-/

namespace Whirlwind

/--
Behind what has been read, a text consists of gaps and of tokens as they are
written, each token with the location of its first character.  A comment may be
split by two at signs.  The comment that these start comes next, and has the
location behind them.
-/
inductive Tiles (grammar : Grammar) (firstLine : Nat) :
    List Char → List Token → List Char → Prop where
  | finish {front gap : List Char} (blank : grammar.Skips gap) :
      Tiles grammar firstLine front [] gap
  | token {front gap span rest : List Char} {lexeme : Lexeme}
      {tokens : List Token} (blank : grammar.Skips gap)
      (occupies : lexeme.Occupies span rest)
      (later : Tiles grammar firstLine (front ++ gap ++ span) tokens rest) :
      Tiles grammar firstLine front
        (⟨lexeme, .behind firstLine (front ++ gap)⟩ :: tokens)
        (gap ++ (span ++ rest))
  | split {front gap opening span rest : List Char} {comment : Lexeme}
      {text : String} {tokens : List Token} (blank : grammar.Skips gap)
      (splits : comment.SplitsAt opening)
      (occupies : (Lexeme.autoComment text).Occupies ('@' :: '@' :: span) rest)
      (later : Tiles grammar firstLine
        (front ++ gap ++ (opening ++ ['@', '@']) ++ span) tokens rest) :
      Tiles grammar firstLine front
        (⟨comment, .behind firstLine (front ++ gap)⟩ ::
          ⟨.autoComment text,
            .behind firstLine (front ++ gap ++ (opening ++ ['@', '@']))⟩ ::
          tokens)
        (gap ++ (opening ++ ['@', '@'] ++ (span ++ rest)))

/-- Behind the at signs of a split comment comes the comment that they start. -/
inductive TilesDue (grammar : Grammar) (firstLine : Nat) :
    List Char → List Token → List Char → Prop where
  | comment (span : List Char) {front rest : List Char} {text : String}
      {tokens : List Token}
      (occupies : (Lexeme.autoComment text).Occupies ('@' :: '@' :: span) rest)
      (later : Tiles grammar firstLine (front ++ span) tokens rest) :
      TilesDue grammar firstLine front
        (⟨.autoComment text, .behind firstLine front⟩ :: tokens) (span ++ rest)

/-- A text without errors is tiled, or what is due of it behind at signs is. -/
theorem Lexes.tiles {grammar : Grammar} {firstLine : Nat} {mode : Mode}
    {front rest : List Char} {tokens : List Token}
    {error : Option SyntaxError}
    (lexes : Lexes grammar firstLine mode front rest tokens error)
    (sound : error = none) :
    (mode ≠ .autoComment → Tiles grammar firstLine front tokens rest) ∧
      (mode = .autoComment → TilesDue grammar firstLine front tokens rest) := by
  induction lexes with
  | finish fresh gaps =>
      refine ⟨fun _ => .finish gaps, fun due => ?_⟩
      simp [due, Mode.IsOver] at fresh
  | @token mode next front gap span rest lexeme tokens error finds _ ih =>
      rcases ih sound with ⟨tiles, tilesDue⟩
      -- A split comment is tiled together with the comment that is due behind.
      constructor
      · intro settled
        rcases finds.occupies settled with
          ⟨occupies, apart⟩ | ⟨opening, rfl, splits, due⟩
        · exact .token finds.skips occupies (tiles apart)
        · cases tilesDue due with
          | comment span occupies later =>
              exact .split finds.skips splits occupies later
      · rintro rfl
        rcases finds.occupies_due with ⟨rfl, ⟨written, rfl, occupies⟩, apart⟩
        have later := tiles apart
        rw [List.append_nil] at later ⊢
        exact .comment span occupies later
  | error => cases sound

namespace Lexer

/-- The first line is numbered one if it was to be numbered zero. -/
theorem tokens_ofText_max (text : String) (firstLine : Nat)
    (grammar : Grammar) :
    (ofText text (max 1 firstLine) grammar).tokens =
      (ofText text firstLine grammar).tokens := by
  refine tokens_ofText_iff.2 ?_
  rw [Nat.max_eq_right (Nat.le_max_left 1 firstLine)]
  exact tokens_ofText_iff.1 rfl

/-- A text that is read without an error consists of gaps and of its tokens,
and their lines have the numbers that they are counted by. -/
theorem tiles_of_tokens {text : String} {firstLine : Nat} {grammar : Grammar}
    {tokens : List Token}
    (fit : Text.NumbersFit (max 1 firstLine) text.toList)
    (read : (ofText text firstLine grammar).tokens = (tokens, none)) :
    Tiles grammar (max 1 firstLine) [] tokens text.toList ∧
      ∀ token ∈ tokens, token.location.line < UInt32.size := by
  have lexes := tokens_ofText_iff.1 read
  have counted := (isIn_ofText text (max 1 firstLine)
    grammar).line_lt_of_tokens (Nat.le_max_left 1 firstLine) fit
  rw [tokens_ofText_max, read] at counted
  exact ⟨(lexes.tiles rfl).1 nofun, counted.1⟩

/-- A text of two lines with a string, a split comment and a radix mark. -/
theorem tiles_of_tokens_split :
    Text.NumbersFit 4 "ca \"\\t\" ;b @@c\r\n  0x1f".toList ∧
    ∃ tokens,
      (ofText "ca \"\\t\" ;b @@c\r\n  0x1f" 4 .assembly).tokens =
        (tokens, none) ∧
      tokens = [⟨.identifier "ca", ⟨4, 0⟩⟩, ⟨.string "\t", ⟨4, 3⟩⟩,
        ⟨.comment "b ", ⟨4, 8⟩⟩, ⟨.autoComment "c", ⟨4, 13⟩⟩,
        ⟨.operator .hexadecimal, ⟨5, 2⟩⟩, ⟨.digits "1f", ⟨5, 4⟩⟩] ∧
      Tiles .assembly 4 [] tokens "ca \"\\t\" ;b @@c\r\n  0x1f".toList := by
  have read : (ofText "ca \"\\t\" ;b @@c\r\n  0x1f" 4 .assembly).tokens =
      ([⟨.identifier "ca", ⟨4, 0⟩⟩, ⟨.string "\t", ⟨4, 3⟩⟩,
        ⟨.comment "b ", ⟨4, 8⟩⟩, ⟨.autoComment "c", ⟨4, 13⟩⟩,
        ⟨.operator .hexadecimal, ⟨5, 2⟩⟩, ⟨.digits "1f", ⟨5, 4⟩⟩], none) := by
    decide +kernel
  have fit : Text.NumbersFit 4 "ca \"\\t\" ;b @@c\r\n  0x1f".toList := by
    decide +kernel
  exact ⟨fit, _, read, rfl, (tiles_of_tokens fit read).1⟩

end Lexer

end Whirlwind
