import Whirlwind.Proofs.Source.Numbering
import Whirlwind.Proofs.Text.Utf8

/-!
# A cursor as an index

A cursor buffers one line and takes the next one when it is asked for something
that lies beyond it.  None of this shows in what it answers: it answers as an
index into the text does, whatever is asked and in which order
(`Cursor.answers_ofBytes`).  The text is what the bytes encode in front of the
first line that is not UTF-8.
-/

namespace Whirlwind

namespace Text

/-- Lines from the first one on are the lines of what they make up. -/
theorem lines_flatten_of_lines {Element : Type} [DecidableEq Element]
    {newline : Element} {text : List Element}
    {front back : List (List Element)}
    (cut : lines newline text = front ++ back) :
    lines newline front.flatten = front := by
  induction front generalizing text with
  | nil => rfl
  | cons line rest ih =>
      have filled : line ≠ [] := ne_nil_of_mem_lines
        (cut ▸ List.mem_append_left back List.mem_cons_self)
      rcases lines_eq_cons cut with
        ⟨body, absent, rfl, later, _, behind⟩ | ⟨absent, _, ended⟩
      · rw [List.flatten_cons, List.append_assoc, List.singleton_append,
          lines_append absent, lines_cons, if_pos rfl, ih behind]
      · rcases (List.append_eq_nil_iff.1 ended).1 with rfl
        rw [List.flatten_cons, lines_append absent, List.flatten_nil]
        exact if_neg filled

end Text

/-- The place of an index in a text whose first line has a given number. -/
def Location.ofIndex (firstLine : Nat) (text : List Char) (index : Nat) :
    Location :=
  if index < text.length then .behind firstLine (text.take index)
  else .atEnd firstLine text

/-- The place of an index is on a line of the text. -/
theorem Location.line_ofIndex_lt {firstLine : Nat} {text : List Char}
    (fit : Text.NumbersFit firstLine text) (index : Nat) :
    (ofIndex firstLine text index).line < UInt32.size := by
  have some := List.length_pos_iff.2 (Text.numberedLines_ne_nil text)
  rw [Text.NumbersFit] at fit
  rw [ofIndex]
  split
  · next inside =>
    have counted := Text.count_take_lt_length_numberedLines inside
    simp only [behind]
    omega
  · simp only [atEnd]
    omega

namespace Cursor

/-! ## Calls and answers -/

/-- What a cursor is asked for. -/
inductive Call where
  | look
  | locate
  | advance
  | restOfLine
  deriving DecidableEq, Repr

/-- What a cursor answers. -/
inductive Answer where
  | character (found : Option Char)
  | place (location : Location)
  | moved
  | text (line : String)
  deriving DecidableEq, Repr

/-- Ask a cursor. -/
def ask : Call → StateM Cursor Answer
  | .look => .character <$> look
  | .locate => .place <$> locate
  | .advance => (fun _ => .moved) <$> advance
  | .restOfLine => .text <$> restOfLine

/-- What a cursor answers to calls that are made one after the other. -/
def answers (cursor : Cursor) : List Call → List Answer
  | [] => []
  | call :: calls =>
      let (answer, after) := (ask call).run cursor
      answer :: after.answers calls

/-- The line at an index from there on, without its newline. -/
def restFrom (text : List Char) (index : Nat) : List Char :=
  (text.drop index).takeWhile (· != '\n')

/-- What an index into a text answers. -/
def Call.answerAt (firstLine : Nat) (text : List Char) (index : Nat) :
    Call → Answer
  | .look => .character text[index]?
  | .locate => .place (.ofIndex firstLine text index)
  | .advance => .moved
  | .restOfLine =>
      .text (String.ofList (Text.trimReturns (restFrom text index)))

/-- Where an index moves to. -/
def Call.indexAfter (text : List Char) (index : Nat) : Call → Nat
  | .look | .locate => index
  | .advance => if index < text.length then index + 1 else index
  | .restOfLine => index + (restFrom text index).length

/-- What an index answers to calls that are made one after the other. -/
def Call.indexed (firstLine : Nat) (text : List Char) (index : Nat) :
    List Call → List Answer
  | [] => []
  | call :: calls =>
      call.answerAt firstLine text index ::
        indexed firstLine text (call.indexAfter text index) calls

/-! ## One call -/

/-- A cursor stands at an index into a text. -/
structure IsAt (cursor : Cursor) (firstLine : Nat) (text : List Char)
    (index : Nat) : Prop where
  stands : cursor.StandsAt (text.take index) (text.drop index)
  inside : index ≤ text.length
  numbered : cursor.firstLine = firstLine

variable {cursor : Cursor} {firstLine index : Nat}
  {text span more : List Char}

theorem isAt_ofText (text : String) (firstLine : Nat) :
    (ofText text firstLine).IsAt firstLine text.toList 0 :=
  ⟨standsAt_ofText text firstLine, Nat.zero_le _, rfl⟩

theorem IsAt.settle (isAt : cursor.IsAt firstLine text index) :
    cursor.settle.IsAt firstLine text index :=
  ⟨isAt.stands.settle, isAt.inside, by rw [firstLine_settle, isAt.numbered]⟩

/-- Skipping what is ahead moves the index by its length. -/
theorem IsAt.skip (isAt : cursor.IsAt firstLine text index)
    (ahead : cursor.ahead = span ++ more) :
    (cursor.skip span).IsAt firstLine text (index + span.length) := by
  rcases isAt.stands.skip ahead with ⟨later, split, _, stands⟩
  have front : text.take (index + span.length) = text.take index ++ span := by
    rw [List.take_add, split, List.take_left]
  have back : text.drop (index + span.length) = later := by
    rw [← List.drop_drop, split, List.drop_left]
  refine ⟨?_, ?_, isAt.numbered⟩
  · rw [front, back]
    exact stands
  · have lengths := congrArg List.length split
    rw [List.length_drop, List.length_append] at lengths
    have inside := isAt.inside
    omega

/-- A settled cursor has the character at its index ahead. -/
theorem IsAt.head?_settle (isAt : cursor.IsAt firstLine text index) :
    cursor.settle.ahead.head? = text[index]? := by
  rw [isAt.stands.faces.head?_settle, List.head?_drop]

theorem IsAt.ahead_settle_eq_nil_iff
    (isAt : cursor.IsAt firstLine text index) :
    cursor.settle.ahead = [] ↔ text.length ≤ index := by
  rw [← List.head?_eq_none_iff, isAt.head?_settle, List.getElem?_eq_none_iff]

theorem IsAt.location_eq (isAt : cursor.IsAt firstLine text index)
    (counted : 1 ≤ firstLine) :
    cursor.settle.locationHere = .ofIndex firstLine text index := by
  have settled := isAt.settle
  rw [Location.ofIndex]
  split
  · next before =>
    have left : cursor.settle.ahead ≠ [] := by
      rw [Ne, isAt.ahead_settle_eq_nil_iff]
      omega
    rw [settled.stands.locationHere left, settled.numbered,
      Nat.max_eq_right counted]
  · next behind =>
    have none_ahead := isAt.ahead_settle_eq_nil_iff.2 (by omega)
    have none_left := unread_eq_nil_of_settle none_ahead
    have isOn := settled.stands.isOn (by rwa [settled.numbered])
      fun _ => none_left
    rw [List.take_append_drop] at isOn
    rw [isOn.locationHere_eq_atEnd none_ahead none_left, settled.numbered]

/-- A call is answered as the index answers it, and leaves the cursor where the
index moves to. -/
theorem IsAt.ask (isAt : cursor.IsAt firstLine text index)
    (counted : 1 ≤ firstLine) (call : Call) :
    ∃ after, (Cursor.ask call).run cursor =
        (call.answerAt firstLine text index, after) ∧
      after.IsAt firstLine text (call.indexAfter text index) := by
  cases call with
  | look =>
      refine ⟨cursor.settle, ?_, isAt.settle⟩
      rw [Call.answerAt, ← isAt.head?_settle]
      rfl
  | locate =>
      refine ⟨cursor.settle, ?_, isAt.settle⟩
      rw [Call.answerAt, ← isAt.location_eq counted]
      rfl
  | advance =>
      have moved := isAt.settle.skip
        (List.take_append_drop 1 cursor.settle.ahead).symm
      have step : index + (cursor.settle.ahead.take 1).length =
          Call.advance.indexAfter text index := by
        have atEnd := isAt.ahead_settle_eq_nil_iff
        rw [← List.length_eq_zero_iff] at atEnd
        rw [List.length_take, Call.indexAfter]
        split <;> omega
      exact ⟨_, rfl, step ▸ moved⟩
  | restOfLine =>
      have rest : cursor.settle.ahead.takeWhile (· != '\n') =
          restFrom text index := isAt.stands.faces.takeWhile_settle
      have moved := isAt.settle.skip
        (List.takeWhile_append_dropWhile (p := (· != '\n'))).symm
      rw [rest] at moved
      refine ⟨cursor.settle.skip (restFrom text index), ?_, moved⟩
      have run := run_restOfLine cursor
      rw [rest] at run
      exact congrArg (Prod.map Answer.text id) run

/-! ## Runs of calls -/

theorem IsAt.answers_eq (isAt : cursor.IsAt firstLine text index)
    (counted : 1 ≤ firstLine) (calls : List Call) :
    cursor.answers calls = Call.indexed firstLine text index calls := by
  induction calls generalizing cursor index with
  | nil => rfl
  | cons call calls ih =>
      rcases isAt.ask counted call with ⟨after, run, isAtAfter⟩
      rw [answers, run, Call.indexed]
      exact congrArg _ (ih isAtAfter)

/-! ## Bytes -/

/-- Texts are the lines of bytes in front of the first one that is not UTF-8, or
all lines if there is none. -/
def ReadableLines (bytes : List UInt8) (texts : List String) : Prop :=
  ∃ broken,
    Text.lines Source.newline bytes = texts.map Text.encode ++ broken ∧
      ∀ line ∈ broken.head?, Text.decode? line = none

theorem exists_decodeLines (lines : List (List UInt8)) :
    ∃ broken, lines = (decodeLines lines).map Text.encode ++ broken ∧
      ∀ line ∈ broken.head?, Text.decode? line = none := by
  induction lines with
  | nil => exact ⟨[], rfl, nofun⟩
  | cons bytes rest ih =>
      rw [decodeLines]
      split
      · next text decoded =>
        rcases ih with ⟨broken, split, stops⟩
        refine ⟨broken, ?_, stops⟩
        rw [List.map_cons, Text.encode_of_decode? decoded, List.cons_append,
          ← split]
      · next undecoded =>
        refine ⟨bytes :: rest, rfl, fun line first => ?_⟩
        rcases Option.some.inj first with rfl
        exact undecoded

/-- Bytes that are decoded line by line have the lines of the text that they
make up, since no other character has the byte of a newline. -/
theorem lines_join_of_lines {bytes : List UInt8} {texts : List String}
    {broken : List (List UInt8)}
    (cut : Text.lines Source.newline bytes =
      texts.map Text.encode ++ broken) :
    Text.lines '\n' (String.join texts).toList = texts.map String.toList := by
  have encoded : (Text.textLines (String.join texts)).map Text.encode =
      texts.map Text.encode := by
    rw [← Text.lines_encode, ← Text.flatten_map_encode]
    exact Text.lines_flatten_of_lines cut
  have same : Text.textLines (String.join texts) = texts := by
    simpa [List.filterMap_map, Function.comp_def] using
      congrArg (List.filterMap Text.decode?) encoded
  have characters : (Text.textLines (String.join texts)).map String.toList =
      Text.lines '\n' (String.join texts).toList := by
    simp only [Text.textLines, List.map_map, Function.comp_def,
      String.toList_ofList, List.map_id']
  rw [← characters, same]

/-- Lines are decoded up to the first one that is not UTF-8. -/
theorem decodeLines_append (texts : List String) {broken : List (List UInt8)}
    (stops : ∀ line ∈ broken.head?, Text.decode? line = none) :
    decodeLines (texts.map Text.encode ++ broken) = texts := by
  induction texts with
  | nil =>
      cases broken with
      | nil => rfl
      | cons line rest =>
          rw [List.map_nil, List.nil_append, decodeLines, stops line rfl]
  | cons text texts ih =>
      rw [List.map_cons, List.cons_append, decodeLines, Text.decode?_encode, ih]

theorem ofBytes_eq_ofText {bytes : List UInt8} {texts : List String}
    (readable : ReadableLines bytes texts) (firstLine : Nat) :
    ofBytes bytes firstLine = ofText (String.join texts) firstLine := by
  rcases readable with ⟨broken, cut, stops⟩
  have decoded : decodeLines (Text.lines 10 bytes) = texts :=
    (congrArg decodeLines cut).trans (decodeLines_append texts stops)
  simp only [ofBytes, ofText, decoded, lines_join_of_lines cut]

/-- The answers of an index are on lines of its text. -/
theorem Call.line_lt_of_mem_indexed {location : Location}
    (fit : Text.NumbersFit firstLine text) {calls : List Call}
    (member : .place location ∈ indexed firstLine text index calls) :
    location.line < UInt32.size := by
  induction calls generalizing index with
  | nil => cases member
  | cons call calls ih =>
      rcases List.mem_cons.1 member with here | later
      · cases call with
        | look | advance | restOfLine => cases here
        | locate =>
            rcases Answer.place.inj here with rfl
            exact Location.line_ofIndex_lt fit index
      · exact ih later

/--
A cursor over bytes is an index into the text of the lines in front of the first
one that is not UTF-8.  It starts at zero, and whatever calls are made it answers
as the index does.  The lines are to have numbers of 32 bits, and then so have
all places.
-/
theorem answers_ofBytes (bytes : List UInt8) {firstLine : Nat}
    (counted : 1 ≤ firstLine) :
    (∃ texts, ReadableLines bytes texts) ∧
    ∀ texts, ReadableLines bytes texts →
      Text.NumbersFit firstLine (String.join texts).toList →
        ∀ calls, (ofBytes bytes firstLine).answers calls =
            Call.indexed firstLine (String.join texts).toList 0 calls ∧
          ∀ location, .place location ∈ (ofBytes bytes firstLine).answers calls →
            location.line < UInt32.size := by
  refine ⟨⟨_, exists_decodeLines _⟩, fun texts readable fit calls => ?_⟩
  have answered :=
    (isAt_ofText (String.join texts) firstLine).answers_eq counted calls
  rw [ofBytes_eq_ofText readable]
  refine ⟨answered, fun location member => ?_⟩
  rw [answered] at member
  exact Call.line_lt_of_mem_indexed fit member

/-- Looking around on lines that end in different ways, the last of which is in
front of one that is no text. -/
theorem answers_ofBytes_broken :
    let bytes := Text.encode "ab\r\n\nc\r\n" ++ [0xFF, 0x0A, 0x64]
    let texts := ["ab\r\n", "\n", "c\r\n"]
    let calls : List Call :=
      [.advance, .restOfLine, .locate, .advance, .locate, .advance, .look,
        .restOfLine, .restOfLine, .advance, .look, .locate]
    1 ≤ 7 ∧ ReadableLines bytes texts ∧
      Text.NumbersFit 7 (String.join texts).toList ∧
      (ofBytes bytes 7).answers calls =
        Call.indexed 7 "ab\r\n\nc\r\n".toList 0 calls ∧
      (ofBytes bytes 7).answers calls =
        [.moved, .text "b", .place ⟨7, 3⟩, .moved, .place ⟨8, 0⟩, .moved,
          .character (some 'c'), .text "c", .text "", .moved, .character none,
          .place ⟨9, 1⟩] := by
  intro bytes texts calls
  have readable : ReadableLines bytes texts :=
    ⟨[[0xFF, 0x0A], [0x64]], by decide +kernel, by decide +kernel⟩
  have fit : Text.NumbersFit 7 (String.join texts).toList := by decide +kernel
  exact ⟨by decide, readable, fit,
    ((answers_ofBytes bytes (by decide)).2 texts readable fit calls).1,
    by decide +kernel⟩

end Cursor

end Whirlwind
