import Whirlwind.Files.SourceLines
import Whirlwind.Proofs.Source.Facing

/-!
# Lines of an encoded text

In an encoded text a newline is a byte of its own, and that byte is part of no
other character.  So the bytes of a text are cut where the text is cut, and
the lines of its bytes are the bytes of its lines (`Text.lines_encode`).
-/

namespace Whirlwind.Text

/-- The lines of a text, each with the newline that ends it. -/
def textLines (text : String) : List String :=
  (lines '\n' text.toList).map String.ofList

@[simp]
theorem toUTF8_append (first second : String) :
    (first ++ second).toUTF8 = first.toUTF8 ++ second.toUTF8 := by
  simp only [String.toUTF8_eq_toByteArray, String.toByteArray_append]

theorem encode_eq_flatMap (text : String) :
    encode text = text.toList.flatMap String.utf8EncodeChar := by
  have bytes : text.toUTF8 = text.toList.utf8Encode := by
    rw [← String.toByteArray_ofList, String.ofList_toList,
      String.toUTF8_eq_toByteArray]
  rw [encode, bytes, List.utf8Encode, List.data_toByteArray]

theorem encode_ofList (characters : List Char) :
    encode (String.ofList characters) =
      characters.flatMap String.utf8EncodeChar := by
  rw [encode_eq_flatMap, String.toList_ofList]

/-- What a text is encoded as is read as the text. -/
@[simp]
theorem decode?_encode (text : String) : decode? (encode text) = some text := by
  rw [decode?, encode, Array.toArray_toList]
  exact dif_pos text.isValidUTF8

/-- Only a newline has the byte of a newline in its encoding. -/
theorem newline_not_mem_utf8EncodeChar {character : Char}
    (other : character ≠ '\n') :
    Source.newline ∉ String.utf8EncodeChar character := by
  have code : character.toNat ≠ 10 := fun same =>
    other (Char.toNat_inj.1 same)
  unfold String.utf8EncodeChar Source.newline
  dsimp only
  repeat' split
  all_goals
    simp only [Char.toNat_val] at *
    simp only [List.mem_cons, List.not_mem_nil, or_false, not_or,
      ← UInt8.toNat_inj, UInt8.toNat_ofNat', UInt8.reduceToNat]
    omega

theorem lines_flatMap_encode (characters : List Char) :
    lines Source.newline (characters.flatMap String.utf8EncodeChar) =
      (lines '\n' characters).map
        (·.flatMap String.utf8EncodeChar) := by
  induction characters with
  | nil => rfl
  | cons character characters ih =>
      rw [List.flatMap_cons, lines_cons]
      split
      · next same =>
        subst same
        have byte : String.utf8EncodeChar '\n' = [Source.newline] := by decide
        rw [byte, List.singleton_append, lines_cons, if_pos rfl, ih,
          List.map_cons, List.flatMap_singleton, byte]
      · next other =>
        rw [lines_append (newline_not_mem_utf8EncodeChar other), ih]
        cases lines '\n' characters with
        | nil => simp
        | cons line rest => simp

/-- The lines of the bytes of a text are the bytes of its lines. -/
theorem lines_encode (text : String) :
    lines Source.newline (encode text) = (textLines text).map encode := by
  rw [encode_eq_flatMap, lines_flatMap_encode, textLines, List.map_map]
  congr 1
  funext line
  exact (encode_ofList line).symm

/-- Texts that are encoded one after the other are encoded as one text. -/
theorem flatten_map_encode (texts : List String) :
    (texts.map encode).flatten = encode (String.join texts) := by
  induction texts with
  | nil => decide
  | cons text rest ih =>
      rw [List.map_cons, List.flatten_cons, ih, String.join_cons]
      simp only [encode_eq_flatMap, String.toList_append, List.flatMap_append]

/-- A newline ends a line, and stands nowhere else in it. -/
theorem newline_of_mem_lines {text line : List Char}
    (member : line ∈ lines '\n' text) :
    '\n' ∉ line ∨ ∃ body, line = body ++ ['\n'] ∧ '\n' ∉ body := by
  generalize cut : lines '\n' text = all at member
  induction all generalizing text with
  | nil => cases member
  | cons first rest ih =>
      rcases lines_eq_cons cut with
        ⟨body, absent, rfl, later, _, behind⟩ | ⟨absent, _, rfl⟩
      · rcases List.mem_cons.1 member with rfl | inside
        · exact Or.inr ⟨body, rfl, absent⟩
        · exact ih behind inside
      · rcases List.mem_singleton.1 member with rfl
        exact Or.inl absent

theorem dropTerminator_append_newline (body : List Char) :
    dropTerminator (body ++ ['\n']) <+: body := by
  unfold dropTerminator
  rw [List.reverse_append, List.reverse_singleton, List.singleton_append]
  split
  · next rest same =>
    have split := congrArg List.reverse (List.cons.inj same).2
    rw [List.reverse_reverse, List.reverse_cons] at split
    exact split ▸ List.prefix_append _ _
  · next same =>
    have whole := congrArg List.reverse (List.cons.inj same).2
    rw [List.reverse_reverse] at whole
    exact whole ▸ List.prefix_refl _
  · next other => exact absurd rfl (other _)

theorem dropTerminator_of_not_mem {line : List Char} (inLine : '\n' ∉ line) :
    dropTerminator line = line := by
  unfold dropTerminator
  split
  · next same =>
    exact absurd (List.mem_reverse.1 (same ▸ List.mem_cons_self)) inLine
  · next same =>
    exact absurd (List.mem_reverse.1 (same ▸ List.mem_cons_self)) inLine
  · rfl

theorem newline_not_mem_dropTerminator {text line : List Char}
    (member : line ∈ lines '\n' text) : '\n' ∉ dropTerminator line := by
  rcases newline_of_mem_lines member with absent | ⟨body, rfl, absent⟩
  · rwa [dropTerminator_of_not_mem absent]
  · exact fun inside =>
      absent ((dropTerminator_append_newline body).subset inside)

end Whirlwind.Text

namespace Whirlwind.Source

/-- The lines of a text without their terminators. -/
def linesOf (text : String) : List String :=
  (Text.textLines text).map fun line =>
    String.ofList (Text.dropTerminator line.toList)

theorem decodeLines_encode (number : Nat) (lines : List String) :
    decodeLines number (lines.map Text.encode) =
      .ok (lines.map fun line =>
        String.ofList (Text.dropTerminator line.toList)) := by
  induction lines generalizing number with
  | nil => rfl
  | cons line rest ih =>
      rw [List.map_cons, decodeLines, Text.decode?_encode]
      simp only [ih]
      rfl

/-- A file with a text in it is read as the lines of the text. -/
theorem readLines_file (text : String) :
    readLines (.file text.toUTF8) = .ok (linesOf text) := by
  rw [readLines, ← Text.encode, Text.lines_encode, decodeLines_encode, linesOf]

/-- Lines that are read as texts are the bytes of texts. -/
theorem exists_of_decodeLines {number : Nat} {pieces : List (List UInt8)}
    {texts : List String} (read : decodeLines number pieces = .ok texts) :
    ∃ lines : List String, pieces = lines.map Text.encode := by
  induction pieces generalizing number texts with
  | nil => exact ⟨[], rfl⟩
  | cons bytes rest ih =>
      rw [decodeLines] at read
      split at read
      · cases read
      · next text decoded =>
        cases later : decodeLines (number + 1) rest with
        | error error =>
            rw [later] at read
            cases read
        | ok others =>
            rcases ih later with ⟨lines, rfl⟩
            exact ⟨text :: lines,
              congrArg (· :: _) (Text.encode_of_decode? decoded).symm⟩

/-- What is read line by line is a file with a text in it. -/
theorem exists_text_of_readLines {source : Source} {texts : List String}
    (read : source.readLines = .ok texts) :
    ∃ text : String, source = .file text.toUTF8 ∧ texts = linesOf text := by
  cases source with
  | directory => cases read
  | file content =>
      rcases exists_of_decodeLines read with ⟨lines, cut⟩
      have bytes : content.data.toList = Text.encode (String.join lines) := by
        rw [← Text.flatten_map_encode, ← cut, Text.flatten_lines]
      have whole : Source.file content =
          .file (String.join lines).toUTF8 :=
        congrArg Source.file (ByteArray.ext (Array.toList_inj.1 bytes))
      rw [whole, readLines_file] at read
      exact ⟨_, whole, (Except.ok.inj read).symm⟩

/-- No line of a text has a newline in it. -/
theorem newline_not_mem_of_mem_linesOf {text line : String}
    (member : line ∈ linesOf text) : '\n' ∉ line.toList := by
  rcases List.mem_map.1 member with ⟨whole, isLine, rfl⟩
  rcases List.mem_map.1 isLine with ⟨piece, inside, rfl⟩
  simpa using Text.newline_not_mem_dropTerminator inside

end Whirlwind.Source
