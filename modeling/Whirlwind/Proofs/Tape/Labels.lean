import Mathlib.Data.List.Nodup
import Whirlwind.Line.Sequence
import Whirlwind.Proofs.Tape.Reference

/-!
# Labels of their own

Rebuilt source labels a word by its offset and the name of its section.  There
are no letters in a number, and such a name starts with one, so a label is taken
apart in one way only (`wordLabel_inj`).  In a listing that opens each section
once, two words have the same label only if they are in one section and count as
having the same offset (`labelsOnce_of_apart`).  A word that states no offset
counts as having zero.
-/

namespace Whirlwind

/-! ## Numbers in front of names -/

namespace Text

/-- A text is cut in one way only where a test is passed in front and fails
behind. -/
theorem append_inj_of_test {test : Char → Bool}
    {front rest other others : List Char}
    (same : front ++ rest = other ++ others)
    (passes : ∀ character ∈ front, test character = true)
    (stops : ∀ character ∈ rest.head?, test character = false)
    (passesOther : ∀ character ∈ other, test character = true)
    (stopsOthers : ∀ character ∈ others.head?, test character = false) :
    front = other ∧ rest = others := by
  have stopped {behind : List Char}
      (stops : ∀ character ∈ behind.head?, test character = false) :
      behind.takeWhile test = [] := by
    cases behind with
    | nil => rfl
    | cons first tail => simp [stops first rfl]
  have front_eq := congrArg (List.takeWhile test) same
  rw [List.takeWhile_append_of_pos passes,
    List.takeWhile_append_of_pos passesOther, stopped stops,
    stopped stopsOthers, List.append_nil, List.append_nil] at front_eq
  subst front_eq
  exact ⟨rfl, List.append_cancel_left same⟩

end Text

namespace Tape

/-- A name starts with a letter, or is that of no section at all. -/
def Lettered (inside : String) : Prop :=
  ∀ first ∈ inside.toList.head?, first.isAlpha = true

/-- The label of a word says its section and its offset. -/
theorem wordLabel_inj {inside other : String} {offset second : Option Int64}
    (lettered : Lettered inside) (letteredOther : Lettered other)
    (same : wordLabel inside offset = wordLabel other second) :
    inside = other ∧ offset.getD 0 = second.getD 0 := by
  have unlettered (number : Int64) :
      ∀ character ∈ (Text.decimal number).toList,
        (!character.isAlpha) = true := by
    intro character member
    rw [Bool.not_eq_true']
    rcases Text.isDigit_or_sign_of_mem_decimal member with digit | rfl
    · rw [← Bool.not_eq_true]
      exact fun letter =>
        absurd digit (by rw [Text.isDigit_of_isAlpha letter]; decide)
    · decide
  have written := congrArg String.toList same
  simp only [wordLabel, String.toList_append] at written
  have parts := Text.append_inj_of_test written (unlettered _)
    (fun first initial => by simp [lettered first initial]) (unlettered _)
    (fun first initial => by simp [letteredOther first initial])
  exact ⟨String.toList_inj.1 parts.2,
    Text.decimal_injective (String.toList_inj.1 parts.1)⟩

/-! ## Labels that are written -/

/-- Whether a line of source is an instruction. -/
def RebuiltLine.isInstruction : RebuiltLine → Bool
  | .instruction _ => true
  | .heading _ | .comment _ => false

/-- The text of a line is labelled by what stands in front of its first colon,
unless it starts with a blank. -/
structure RebuiltLine.IsLabelled (source : List RebuiltLine)
    (line : RebuiltLine) (label : String) : Prop where
  text : ∃ behind, (line.text source).toList = label.toList ++ ':' :: behind
  first : ':' ∉ label.toList
  visible : label.toList.head? ≠ some ' '

/-- No label is written in front of two instructions of a source. -/
def LabelsOnce (source : List RebuiltLine) : Prop :=
  (source.filter RebuiltLine.isInstruction).Pairwise fun line other =>
    ∀ label, line.IsLabelled source label → ¬other.IsLabelled source label

/-- A listing opens each section once, by a name that starts with a letter, and
its instructions are all in sections. -/
structure Sectioned (records : List Line) : Prop where
  named : ∀ record ∈ records, opensSection record = true →
    ∃ name, record.operand = some (.identifier name) ∧ IsName name ∧
      ∃ first ∈ name.toList.head?, first.isAlpha = true
  once : ((records.filter opensSection).map headingName).Nodup
  opened : ∀ record ∈ records.takeWhile (!opensSection ·),
    record.hasInstruction = false

/-- The records between the lines that open sections.  The first ones are in
none. -/
def sections (records : List Line) : List (List Line) :=
  records.splitOnP opensSection

variable {records : List Line} {place : Place} {label : String}

namespace Place

theorem isInstruction_rebuilt (place : Place) :
    place.rebuilt.isInstruction = place.isWord := by
  rcases place.rebuilt_cases with ⟨absent, rebuilt⟩ | ⟨opens, rebuilt⟩ | word
  · simp [rebuilt, RebuiltLine.isInstruction, isWord, Line.hasInstruction,
      absent]
  · simp [rebuilt, RebuiltLine.isInstruction, isWord, opens]
  · rcases exists_of_isWord word with ⟨stated, _, rebuilt⟩
    rw [rebuilt, word]
    rfl

/-- The label that is written in front of an instruction is its own. -/
theorem eq_label_of_isLabelled (word : place.isWord = true)
    (plain : ':' ∉ place.inside.toList)
    (labelled : place.rebuilt.IsLabelled (RebuiltLine.ofLines records) label) :
    label = place.label := by
  rcases labelled with ⟨⟨behind, text⟩, first, visible⟩
  by_cases refers : Refers records place.label
  · rcases exists_text_of_refers word refers with ⟨rest, own⟩
    have colonless : ':' ∉ place.label.toList := by
      rw [Place.label, wordLabel, String.toList_append, List.mem_append]
      rintro (number | name)
      · exact absurd (Text.isDigit_or_sign_of_mem_decimal number) (by decide)
      · exact plain name
    have beforeColon {text : List Char} (absent : ':' ∉ text) :
        ∀ character ∈ text, (character != ':') = true := by
      intro character member
      exact bne_iff_ne.2 fun same => absent (same ▸ member)
    rw [text] at own
    have parts := Text.append_inj_of_test own (beforeColon first) (by simp)
      (beforeColon colonless) (by simp)
    exact String.toList_inj.1 parts.1
  · rcases exists_text_of_not_refers word refers with ⟨rest, blank⟩
    rw [text] at blank
    cases written : label.toList with
    | nil =>
        rw [written] at blank
        exact absurd (List.cons.inj blank).1 (by decide)
    | cons initial others =>
        rw [written] at blank visible
        exact absurd (congrArg some (List.cons.inj blank).1) visible

end Place

theorem filter_isInstruction_ofLines (records : List Line) :
    (RebuiltLine.ofLines records).filter RebuiltLine.isInstruction =
      ((places records).filter Place.isWord).map Place.rebuilt := by
  rw [RebuiltLine.ofLines_eq, List.filter_map, List.filter_filter]
  congr 1
  refine List.filter_congr fun place _ => ?_
  rw [Function.comp_apply, place.isInstruction_rebuilt, Place.isWritten]
  cases word : place.isWord with
  | false => rfl
  | true => rw [Place.hasInstruction_of_isWord word]; rfl

/-! ## Sections -/

/-- What stands in front of all sections is in the first stretch. -/
theorem prefix_of_splitOnP {front first : List Line}
    {others : List (List Line)} (start : front <+: records)
    (closed : front.any opensSection = false)
    (split : records.splitOnP opensSection = first :: others) :
    front <+: first := by
  induction records generalizing front first others with
  | nil =>
      rw [List.prefix_nil.1 start]
      exact List.nil_prefix
  | cons record rest ih =>
      cases front with
      | nil => exact List.nil_prefix
      | cons head tail =>
          rcases List.cons_prefix_cons.1 start with ⟨rfl, behind⟩
          simp only [List.any_cons, Bool.or_eq_false_iff] at closed
          rcases List.exists_cons_of_ne_nil
            (List.splitOnP_ne_nil opensSection rest) with ⟨next, more, splitRest⟩
          rw [List.splitOnP_cons_eq_if_modifyHead, closed.1, splitRest] at split
          rcases List.cons.inj split with ⟨rfl, _⟩
          exact List.cons_prefix_cons.2 ⟨rfl, ih behind closed.2 splitRest⟩

/-- A word has a label of its own if its section is not opened again and no word
behind it in the section counts as having its offset. -/
theorem label_not_mem {inside : String} {record : Line} {first : List Line}
    {others : List (List Line)} (lettered : Lettered inside)
    (named : ∀ heading ∈ records, opensSection heading = true →
      Lettered (headingName heading))
    (fresh : inside ∉ (records.filter opensSection).map headingName)
    (split : records.splitOnP opensSection = first :: others)
    (apart : record.offset.getD 0 ∉
      (first.filter Line.hasInstruction).map fun word =>
        word.offset.getD 0) :
    wordLabel inside record.offset ∉
      ((placesFrom inside records).filter Place.isWord).map Place.label := by
  intro among
  rcases List.mem_map.1 among with ⟨other, found, same⟩
  rcases List.mem_filter.1 found with ⟨member, word⟩
  rcases mem_placesFrom member with
    ⟨heading, isIn, opens, name⟩ | ⟨here, front, start, isIn, closed⟩
  · have parts := wordLabel_inj (name ▸ named heading isIn opens) lettered same
    exact fresh (List.mem_map.2 ⟨heading, List.mem_filter.2 ⟨isIn, opens⟩,
      name.trans parts.1⟩)
  · have parts := wordLabel_inj (here.symm ▸ lettered) lettered same
    have inFirst := (prefix_of_splitOnP start closed split).subset isIn
    exact apart (List.mem_map.2 ⟨other.record, List.mem_filter.2
      ⟨inFirst, Place.hasInstruction_of_isWord word⟩, parts.2⟩)

/-- All words have labels of their own. -/
theorem nodup_labels {inside : String} (lettered : Lettered inside)
    (named : ∀ record ∈ records, opensSection record = true →
      Lettered (headingName record))
    (once : (inside :: (records.filter opensSection).map headingName).Nodup)
    (apart : ∀ words ∈ sections records,
      ((words.filter Line.hasInstruction).map fun word =>
        word.offset.getD 0).Nodup) :
    (((placesFrom inside records).filter Place.isWord).map
      Place.label).Nodup := by
  rw [sections] at apart
  induction records generalizing inside with
  | nil => exact List.nodup_nil
  | cons record rest ih =>
      rcases List.forall_mem_cons.1 named with ⟨namedHere, namedRest⟩
      cases opens : opensSection record with
      | true =>
          rw [List.splitOnP_cons_eq_if_modifyHead, if_pos opens] at apart
          rw [List.filter_cons_of_pos opens, List.map_cons] at once
          simp only [placesFrom, opens, if_true]
          rw [List.filter_cons_of_neg (by simp [Place.isWord, opens])]
          exact ih (namedHere opens) namedRest (List.nodup_cons.1 once).2
            (List.forall_mem_cons.1 apart).2
      | false =>
          rcases List.exists_cons_of_ne_nil
            (List.splitOnP_ne_nil opensSection rest) with ⟨first, others, split⟩
          rw [List.splitOnP_cons_eq_if_modifyHead, if_neg (by simp [opens]),
            split, List.modifyHead_cons, List.forall_mem_cons] at apart
          rw [List.filter_cons_of_neg (by simp [opens])] at once
          rcases apart with ⟨apartHere, apartOthers⟩
          have apartRest := ih lettered namedRest once (by
            rw [split]
            refine List.forall_mem_cons.2 ⟨?_, apartOthers⟩
            exact apartHere.sublist
              (((List.sublist_cons_self _ _).filter _).map _))
          simp only [placesFrom, opens, Bool.false_eq_true, if_false]
          cases word : (Place.mk inside record).isWord with
          | false =>
              rw [List.filter_cons_of_neg (by simp [word])]
              exact apartRest
          | true =>
              rw [List.filter_cons_of_pos (Place.hasInstruction_of_isWord word),
                List.map_cons, List.nodup_cons] at apartHere
              rw [List.filter_cons_of_pos word, List.map_cons]
              exact List.nodup_cons.2 ⟨label_not_mem lettered namedRest
                (List.nodup_cons.1 once).1 split apartHere.1, apartRest⟩

theorem Sectioned.heading (sectioned : Sectioned records) {record : Line}
    (member : record ∈ records) (opens : opensSection record = true) :
    IsName (headingName record) ∧ Lettered (headingName record) := by
  rcases sectioned.named record member opens with
    ⟨name, operand, named, first, initial, letter⟩
  have same : headingName record = name := by
    simp [headingName, operand, Expr.listing]
  rw [same]
  refine ⟨named, fun other found => ?_⟩
  rwa [Option.mem_unique found initial]

/-- There is no colon in the name of a section. -/
theorem Sectioned.colon_not_mem (sectioned : Sectioned records)
    (member : place ∈ places records) : ':' ∉ place.inside.toList := by
  rcases mem_placesFrom member with ⟨heading, isIn, opens, same⟩ | ⟨none, _⟩
  · rw [← same]
    intro colon
    exact absurd ((sectioned.heading isIn opens).1.1 _ colon) (by decide)
  · rw [none]
    exact List.not_mem_nil

/-- If the words of each section count as having different offsets, no label is
written twice. -/
theorem labelsOnce_of_apart (sectioned : Sectioned records)
    (apart : ∀ words ∈ sections records,
      ((words.filter Line.hasInstruction).map fun word =>
        word.offset.getD 0).Nodup) :
    LabelsOnce (RebuiltLine.ofLines records) := by
  have once : ("" :: (records.filter opensSection).map headingName).Nodup := by
    refine List.nodup_cons.2 ⟨fun among => ?_, sectioned.once⟩
    rcases List.mem_map.1 among with ⟨heading, found, unnamed⟩
    rcases List.mem_filter.1 found with ⟨member, opens⟩
    exact absurd (unnamed ▸ (sectioned.heading member opens).1) (by decide)
  have lettered : Lettered "" := nofun
  have labels := nodup_labels lettered
    (fun record member opens => (sectioned.heading member opens).2) once apart
  rw [LabelsOnce, filter_isInstruction_ofLines, List.pairwise_map]
  refine (List.pairwise_map.1 labels).imp_of_mem
    fun {place other} found foundOther differ label here there => differ ?_
  rcases List.mem_filter.1 found with ⟨member, word⟩
  rcases List.mem_filter.1 foundOther with ⟨memberOther, wordOther⟩
  rw [← place.eq_label_of_isLabelled word (sectioned.colon_not_mem member) here,
    ← other.eq_label_of_isLabelled wordOther
      (sectioned.colon_not_mem memberOther) there]

/-- Offsets may be the same in two sections, and one may be left out. -/
theorem labelsOnce_of_apart_two :
    ∃ records : List Line,
      LineSequence.parse
          ["\t\tsection main", "\t0\tsp 1r", "\t1\tsp 0r",
            "\t\tsection next", "\t\tsp 0r"] .tape =
        { lines := records } ∧
      sourceText (RebuiltLine.ofLines records) =
        "main:\n0main:    sp 1main\n1main:    sp 0main\n" ++
          "next:\n0next:    sp 0next\n" ∧
      LabelsOnce (RebuiltLine.ofLines records) := by
  let heading (number : Nat) (name : String) : Line :=
    { rawText := "\t\tsection " ++ name, lineNumber := number
      instruction := some ⟨"section", false⟩
      operand := some (.identifier name) }
  let word (rawText : String) (number : Nat) (offset : Option Int64)
      (target : String) : Line :=
    { rawText := rawText, lineNumber := number
      offset := offset
      instruction := some ⟨"sp", false⟩
      operand := some (.identifier target) }
  let records : List Line :=
    [heading 1 "main", word "\t0\tsp 1r" 2 (some 0) "1r",
      word "\t1\tsp 0r" 3 (some 1) "0r", heading 4 "next",
      word "\t\tsp 0r" 5 none "0r"]
  refine ⟨records, by decide +kernel, by decide +kernel, ?_⟩
  refine labelsOnce_of_apart ?_ (by decide +kernel)
  constructor
  · have named : ∀ record ∈ records.filter opensSection,
        record = heading 1 "main" ∨ record = heading 4 "next" := by
      decide +kernel
    intro record member opens
    rcases named record (List.mem_filter.2 ⟨member, opens⟩) with rfl | rfl
    · exact ⟨"main", rfl, by decide, 'm', by decide, by decide⟩
    · exact ⟨"next", rfl, by decide, 'n', by decide, by decide⟩
  · decide +kernel
  · decide +kernel

/-- Two words have the same label if one of them states the offset zero and the
other one none, though no two state the same offset. -/
theorem not_labelsOnce_of_unstated :
    ∃ records : List Line,
      LineSequence.parse
          ["\t\tsection main", "\t0\tsp 0r", "\t\tsi 0"] .tape =
        { lines := records } ∧
      Sectioned records ∧
      (∀ words ∈ sections records,
        ((words.filter Line.hasInstruction).filterMap Line.offset).Nodup) ∧
      sourceText (RebuiltLine.ofLines records) =
        "main:\n0main:    sp 0main\n0main:    si 0\n" ∧
      ¬LabelsOnce (RebuiltLine.ofLines records) := by
  let heading : Line :=
    { rawText := "\t\tsection main", lineNumber := 1
      instruction := some ⟨"section", false⟩
      operand := some (.identifier "main") }
  let records : List Line :=
    [heading,
      { rawText := "\t0\tsp 0r", lineNumber := 2
        offset := some 0
        instruction := some ⟨"sp", false⟩
        operand := some (.identifier "0r") },
      { rawText := "\t\tsi 0", lineNumber := 3
        instruction := some ⟨"si", false⟩
        operand := some (.digits "0") }]
  refine ⟨records, by decide +kernel, ?_, by decide +kernel,
    by decide +kernel, fun once => ?_⟩
  · constructor
    · have named : ∀ record ∈ records.filter opensSection,
          record = heading := by decide +kernel
      intro record member opens
      rcases named record (List.mem_filter.2 ⟨member, opens⟩) with rfl
      exact ⟨"main", rfl, by decide, 'm', by decide, by decide⟩
    · decide +kernel
    · decide +kernel
  · have apart := (List.pairwise_cons.1 once).1 _ List.mem_cons_self "0main"
    refine apart ⟨⟨"    sp 0main".toList, ?_⟩, by decide, by decide⟩
      ⟨⟨"    si 0".toList, ?_⟩, by decide, by decide⟩
    · decide +kernel
    · decide +kernel

end Tape

end Whirlwind
