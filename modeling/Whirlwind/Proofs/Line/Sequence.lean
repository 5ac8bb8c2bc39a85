import Whirlwind.Line.Sequence
import Whirlwind.Proofs.Line.Pointing
import Whirlwind.Report.Line

/-!
# Lines that are read one by one

A sequence of texts is read as the lines of those that can be read, in their
order, and the errors of the others, in theirs.  The error of a text without a
newline is on the line with the number that the text was given.
-/

namespace Whirlwind

/-! ## The place of an error -/

namespace TokenStream

/-- The error of a text that is read as a line points into the text. -/
theorem pointsInto_of_parse {text : String} {firstLine : Nat}
    {grammar : Grammar} {error : ParseError} (counts : 1 ≤ firstLine)
    (failed : Line.parse text firstLine grammar = .error error) :
    ∃ found, error = .malformed found ∧
      found.PointsInto firstLine text.toList := by
  have agrees := (isIn_ofText text firstLine grammar).agrees counts
  have respects := LineSimulation.respects_line grammar
    { rawText := String.ofList (Text.trimLineEnd text.toList)
      lineNumber := firstLine } agrees (respects_nextField counts)
  rcases Reading.answer_eq_error failed with ⟨after, run⟩
  exact ((isIn_of_respects respects).2 run).2

end TokenStream

theorem Text.numberedLines_of_not_mem {text : List Char}
    (inLine : '\n' ∉ text) : numberedLines text = [text] := by
  unfold numberedLines
  split
  · next empty => rw [empty]
  · next filled =>
    have alone := lines_append inLine []
    rw [List.append_nil] at alone
    rw [alone, show lines '\n' ([] : List Char) = [] from rfl]
    simp [filled]

/-- The error of a text without a newline is on the line of the text. -/
theorem ParseError.lineNumber_of_parse {text : String} {number : Nat}
    {grammar : Grammar} {error : ParseError} (counts : 1 ≤ number)
    (inLine : '\n' ∉ text.toList)
    (failed : Line.parse text number grammar = .error error) :
    error.lineNumber = number := by
  rcases TokenStream.pointsInto_of_parse counts failed with
    ⟨found, rfl, points⟩
  have line := points.line
  have least := points.numbered
  rw [Text.numberedLines_of_not_mem inLine] at line
  have inside : found.location.line - number = 0 := by
    cases place : found.location.line - number with
    | zero => rfl
    | succ later =>
        rw [place] at line
        cases line
  show found.location.line = number
  omega

/-! ## What becomes of each line -/

namespace LineSequence

/-- The line that a numbered text is, if it can be read. -/
def line? (grammar : Grammar) (numbered : String × Nat) : Option Line :=
  match Line.parse numbered.1 numbered.2 grammar with
  | .ok (_, line) => some line
  | .error _ => none

/-- The error of a numbered text and its number, if it cannot be read. -/
def failure? (grammar : Grammar) (numbered : String × Nat) :
    Option (Nat × ParseError) :=
  match Line.parse numbered.1 numbered.2 grammar with
  | .ok _ => none
  | .error error => some (numbered.2, error)

/-- Each text becomes a line or an error, and the order is kept. -/
theorem parseFrom_eq (grammar : Grammar) (number : Nat)
    (texts : List String) :
    parseFrom grammar number texts =
      { lines := (texts.zipIdx number).filterMap (line? grammar)
        errors := ((texts.zipIdx number).filterMap
          (failure? grammar)).map Prod.snd } := by
  induction texts generalizing number with
  | nil => rfl
  | cons text rest ih =>
      rw [parseFrom, ih, List.zipIdx_cons, List.filterMap_cons,
        List.filterMap_cons, line?, failure?]
      cases Line.parse text number grammar <;> rfl

/-- The report on a text that cannot be read has the number of the text. -/
theorem report_of_failure {grammar : Grammar} {texts : List String}
    {number first : Nat} {error : ParseError} (counts : 1 ≤ first)
    (inLine : ∀ text ∈ texts, '\n' ∉ text.toList)
    (member : (number, error) ∈
      (texts.zipIdx first).filterMap (failure? grammar)) :
    error.report = reportOnLine number error.diagnostic := by
  rcases List.mem_filterMap.1 member with ⟨⟨text, place⟩, inside, failed⟩
  rcases List.mem_zipIdx inside with ⟨least, _, same⟩
  unfold failure? at failed
  split at failed
  · cases failed
  · next parsed =>
    rcases Prod.mk.inj (Option.some.inj failed) with ⟨rfl, rfl⟩
    have isText : text ∈ texts := same ▸ List.getElem_mem _
    rw [ParseError.report, ParseError.lineNumber_of_parse
      (Nat.le_trans counts least) (inLine text isText) parsed]

end LineSequence

end Whirlwind
