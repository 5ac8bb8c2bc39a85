import Whirlwind.Check.Run
import Whirlwind.Proofs.Files.Writing
import Whirlwind.Proofs.Text.Utf8
import Whirlwind.Proofs.Token.Action

/-!
# Failures and the limit to them

A run that checks line by line says something of each line, and of a line that
fails it writes a report.  What it says of a line does not depend on the lines
before it.  A limit to the failures changes nothing as long as it is not
exceeded, and otherwise ends the run right behind the report of the first line
that exceeds it (`Check.run_counts`).
-/

namespace Whirlwind

open TokenStream Reading

/-- In a notation of lines a line that is accepted has something to act on if
it has an instruction. -/
theorem Line.hasInstruction_of_parse {text : String} {lineNumber : Nat}
    {grammar : Grammar} {has : Bool} {line : Line}
    (lined : grammar ≠ .expression)
    (parsed : Line.parse text lineNumber grammar = .ok (has, line)) :
    line.hasInstruction = has := by
  rcases answer_eq_ok parsed with ⟨last, run⟩
  cases grammar with
  | expression => exact absurd rfl lined
  | assembly =>
      have answers : (assemblyLine _).Answers _ (has, line) last := run
      rcases answers.bind with ⟨address, _, _, more⟩
      rcases more.bind with ⟨⟨condition, label, statement⟩, _, _, more⟩
      rcases more.bind with ⟨⟨trailing, auto⟩, _, _, more⟩
      rcases more.bind with ⟨_, _, _, answered⟩
      cases answered.pure.1
      exact Option.isSome_map
  | tape =>
      have answers : (tapeLine _).Answers _ (has, line) last := run
      rcases answers.bind with ⟨field, _, _, more⟩
      rcases more.bind with ⟨token, _, _, more⟩
      split at more
      · cases more.pure.1
        rfl
      · rcases more.bind with ⟨offset, _, _, more⟩
        rcases more.bind with ⟨statement, _, _, more⟩
        rcases more.bind with ⟨comment, _, _, answered⟩
        cases answered.pure.1
        exact Option.isSome_map
      · cases more
  | debugger =>
      have answers : (debuggerLine _).Answers _ (has, line) last := run
      rcases answers.bind with ⟨token, _, _, more⟩
      split at more
      · cases more.pure.1
        rfl
      · rcases more.bind with ⟨operand, _, _, more⟩
        rcases more.bind with ⟨_, _, _, answered⟩
        cases answered.pure.1
        rfl
      · cases more

namespace Check

/-! ## What is said of a line -/

/-- What a run writes of a line: its report, if it fails, and what stands in
front of that and behind it. -/
structure Saying where
  front : String := ""
  report : String := ""
  back : String := ""
  deriving DecidableEq, Repr

namespace Saying

/-- What is written up to the end of the report. -/
def reported (saying : Saying) : String :=
  saying.front ++ saying.report

/-- All that is written. -/
def whole (saying : Saying) : String :=
  saying.reported ++ saying.back

end Saying

/-- What a run says of the value of an operand. -/
def sayValue (operand : Expr) (lineText : String) : Saying :=
  match operand.evaluate { symbols := {} } with
  | .ok value =>
      { front := "    " ++ operand.listing ++ " => " ++ value.toText ++ "\n" }
  | .error error => { report := reportOnValue error lineText }

/-- What a run says of a line that is accepted, if it is to show all. -/
def sayLine (parsed : Line) : Saying :=
  let outline := reportOnLine parsed.lineNumber parsed.outline ++ "\n"
  match parsed.operand with
  | some operand =>
      { sayValue operand parsed.rawText with
        front := outline ++ (sayValue operand parsed.rawText).front }
  | none => { front := outline }

/-- What a run says of a line with its number. -/
def say (options : Options) (line : String × Nat) : Saying :=
  match Line.parse line.1 line.2 options.grammar with
  | .error error => { report := reportOnLine line.2 error.diagnostic }
  | .ok (_, parsed) =>
      { (if options.verbose then sayLine parsed else {}) with
        back := if options.reformat then parsed.listing ++ "\n" else "" }

/-- Whether an operand has no value. -/
def lacksValue (operand : Expr) : Bool :=
  !(operand.evaluate { symbols := {} }).isOk

/-- Whether a line fails: it is not accepted, or the value of its operand is to
be shown and it has none. -/
def fails (options : Options) (line : String × Nat) : Bool :=
  match Line.parse line.1 line.2 options.grammar with
  | .error _ => true
  | .ok (_, parsed) => options.verbose && parsed.operand.any lacksValue

/-- Whether a line carries an instruction. -/
def instructs (options : Options) (line : String × Nat) : Bool :=
  match Line.parse line.1 line.2 options.grammar with
  | .error _ => false
  | .ok (_, parsed) => parsed.hasInstruction

/-- What a run writes of lines. -/
def transcript (options : Options) (lines : List (String × Nat)) : String :=
  String.join (lines.map fun line => (say options line).whole)

/-- What a run counts of lines. -/
def tally (options : Options) (lines : List (String × Nat)) : Summary where
  lines := lines.length
  instructions := lines.countP (instructs options)
  failures := lines.countP (fails options)

/-! ## Steps that do not fail -/

/-- A run that has counted something, with its output. -/
def progressOf (summary : Summary) (output : Sink) : Progress where
  output := output
  summary := summary

/-- A step writes a text and counts something, whatever has been before. -/
def Says (action : Checking PUnit) (counts : Summary → Summary)
    (text : String) : Prop :=
  ∀ summary, ComesTo progressOf action summary (.ok ⟨⟩) (counts summary)
    text.toUTF8

variable {options : Options} {line : String × Nat} {summary : Summary}
  {action rest : Checking PUnit} {counts countsRest : Summary → Summary}
  {text textRest : String}

theorem says_pure : Says (pure ⟨⟩) id "" :=
  comesTo_pure PUnit.unit

theorem says_write (text : String) : Says (write text) id text := by
  intro summary sink room
  rw [EStateM.run, write, progressOf, Sink.run_write_of_hasRoom room]
  rfl

theorem says_count (step : Summary → Summary) : Says (count step) step "" :=
  fun _ => comesTo_of_silent fun _ => rfl

theorem Says.bind (speaks : Says action counts text)
    (later : Says rest countsRest textRest) :
    Says (action >>= fun _ => rest) (countsRest ∘ counts)
      (text ++ textRest) := by
  intro summary
  rw [Text.toUTF8_append]
  exact (speaks summary).andThen (later (counts summary))

theorem says_write_if (condition : Bool) (text : String) :
    Says (if condition then write text else pure ⟨⟩) id
      (if condition then text else "") := by
  cases condition with
  | true => exact says_write text
  | false => exact says_pure

/-! ## Lines that fail -/

theorem comesTo_giveUpBeyond {limit : Option Nat} (summary : Summary)
    (stands : ∀ most, limit = some most → summary.failures ≤ most) :
    ComesTo progressOf (giveUpBeyond limit) summary (.ok ⟨⟩) summary
      .empty := by
  cases limit with
  | none => exact comesTo_pure PUnit.unit summary
  | some most =>
      have few : ¬most < summary.failures := Nat.not_lt.2 (stands most rfl)
      refine comesTo_of_silent fun sink => ?_
      simp [giveUpBeyond, EStateM.run_bind, progressOf, few, ended]

theorem comesTo_giveUpBeyond_of_lt {most : Nat}
    (exceeded : most < summary.failures) :
    ComesTo progressOf (giveUpBeyond (some most)) summary
      (.error (.tooManyErrors summary.failures)) summary .empty := by
  refine comesTo_of_silent fun sink => ?_
  simp [giveUpBeyond, EStateM.run_bind, progressOf, exceeded, ended]

/-- A failure is counted and reported before the run is given up. -/
theorem comesTo_fail {outcome : Except Failure PUnit} (report : String)
    (gives : ComesTo progressOf (giveUpBeyond options.maxErrors)
      { summary with failures := summary.failures + 1 } outcome
      { summary with failures := summary.failures + 1 } .empty) :
    ComesTo progressOf (fail options report) summary outcome
      { summary with failures := summary.failures + 1 } report.toUTF8 := by
  have written := (says_write report _).andThen gives
  rw [ByteArray.append_empty] at written
  exact (says_count _ summary).andThen written

/-- A step writes something and then reports a failure, if there is one. -/
def Reports (options : Options) (action : Checking PUnit) (failed : Bool)
    (saying : Saying) : Prop :=
  (failed = false → saying.report = "") ∧
    ∃ first, Says first id saying.front ∧
      action = (do
        first
        if failed then fail options saying.report)

theorem reports_showValue (options : Options) (operand : Expr)
    (lineText : String) :
    Reports options (showValue options operand lineText) (lacksValue operand)
      (sayValue operand lineText) := by
  unfold showValue lacksValue sayValue
  cases operand.evaluate { symbols := {} } with
  | ok value => exact ⟨fun _ => rfl, _, says_write _, (bind_pure _).symm⟩
  | error error => exact ⟨nofun, _, says_pure, (pure_bind _ _).symm⟩

theorem reports_showLine (options : Options) (parsed : Line) :
    Reports options (showLine options parsed) (parsed.operand.any lacksValue)
      (sayLine parsed) := by
  unfold showLine sayLine
  cases parsed.operand with
  | none => exact ⟨fun _ => rfl, _, says_write _, rfl⟩
  | some operand =>
      rcases reports_showValue options operand parsed.rawText with
        ⟨silent, first, speaks, same⟩
      refine ⟨silent, _, (says_write _).bind speaks, ?_⟩
      simp only [same, bind_assoc]
      rfl

/-- The counts of a line that is read. -/
def countsOf (options : Options) (line : String × Nat) (summary : Summary) :
    Summary :=
  { summary with
    lines := summary.lines + 1
    instructions :=
      summary.instructions + if instructs options line then 1 else 0 }

theorem says_countLine (has : Bool) :
    Says (do
        countLine
        if has then countInstruction)
      (fun summary =>
        { summary with
          lines := summary.lines + 1
          instructions := summary.instructions + if has then 1 else 0 })
      "" := by
  intro summary
  refine comesTo_of_silent fun sink => ?_
  cases has <;> rfl

/-- A line that fails is reported behind what is said in front of the report,
and what is behind it follows. -/
theorem exists_checkLine_eq (lined : options.grammar ≠ .expression)
    (line : String × Nat) :
    (fails options line = false → (say options line).report = "") ∧
    ∃ first rest,
      Says first (countsOf options line) (say options line).front ∧
      Says rest id (say options line).back ∧
      checkLine options line.2 line.1 = (do
        first
        if fails options line then fail options (say options line).report
        rest) := by
  unfold checkLine fails countsOf instructs say
  cases parsed : Line.parse line.1 line.2 options.grammar with
  | error error =>
      exact ⟨nofun, _, _, says_count _, says_pure, (bind_pure _).symm⟩
  | ok answer =>
      rcases answer with ⟨has, said⟩
      have acts := Line.hasInstruction_of_parse lined parsed
      have formats := says_write_if options.reformat (said.listing ++ "\n")
      rcases reports_showLine options said with ⟨silent, first, speaks, same⟩
      simp only [same, acts]
      cases verbose : options.verbose with
      | false =>
          refine ⟨fun _ => rfl, _, _, says_countLine has, formats, ?_⟩
          cases has <;> simp
      | true =>
          refine ⟨silent, _, _, (says_countLine has).bind speaks, formats, ?_⟩
          cases has <;> cases said.operand.any lacksValue <;> simp

/-! ## All lines -/

/-- The next line is counted with those before it. -/
theorem tally_append_of_succeeds (past : List (String × Nat))
    (succeeds : fails options line = false) :
    tally options (past ++ [line]) =
      countsOf options line (tally options past) := by
  simp [tally, countsOf, List.countP_append, List.countP_singleton, succeeds]

theorem tally_append_of_fails (past : List (String × Nat))
    (failed : fails options line = true) :
    tally options (past ++ [line]) =
      { countsOf options line (tally options past) with
        failures := (tally options past).failures + 1 } := by
  simp [tally, countsOf, List.countP_append, List.countP_singleton, failed]

@[simp]
theorem transcript_cons (line : String × Nat) (lines : List (String × Nat)) :
    transcript options (line :: lines) =
      (say options line).whole ++ transcript options lines :=
  String.join_cons

/-- A run does not exceed its limit, if it has one. -/
def Options.Stands (options : Options) (lines : List (String × Nat)) : Prop :=
  ∀ limit, options.maxErrors = some limit →
    lines.countP (fails options) ≤ limit

theorem Options.Stands.of_append {past lines : List (String × Nat)}
    (stands : options.Stands (past ++ lines)) : options.Stands past := by
  intro limit limited
  have few := stands limit limited
  rw [List.countP_append] at few
  exact Nat.le_of_add_right_le few

/-- A run goes on behind a line, if it stands the failures so far. -/
theorem comesTo_checkLine (lined : options.grammar ≠ .expression)
    {past : List (String × Nat)} (stands : options.Stands (past ++ [line])) :
    ComesTo progressOf (checkLine options line.2 line.1) (tally options past)
      (.ok ⟨⟩) (tally options (past ++ [line]))
      (say options line).whole.toUTF8 := by
  rcases exists_checkLine_eq lined line with
    ⟨silent, first, rest, speaks, later, same⟩
  rw [same, Saying.whole, Saying.reported]
  cases failed : fails options line with
  | false =>
      rw [tally_append_of_succeeds past failed, silent failed,
        String.append_empty]
      exact (speaks.bind later) (tally options past)
  | true =>
      have gives := comesTo_giveUpBeyond (tally options (past ++ [line])) stands
      rw [tally_append_of_fails past failed] at gives ⊢
      rw [String.append_assoc, Text.toUTF8_append, Text.toUTF8_append]
      exact (speaks _).andThen ((comesTo_fail _ gives).andThen (later _))

/-- A line that fails when the limit has been reached ends the run, right
behind its report. -/
theorem comesTo_checkLine_of_limit (lined : options.grammar ≠ .expression)
    {past : List (String × Nat)} {limit : Nat}
    (limited : options.maxErrors = some limit)
    (reached : past.countP (fails options) = limit)
    (failed : fails options line = true) :
    ComesTo progressOf (checkLine options line.2 line.1) (tally options past)
      (.error (.tooManyErrors (limit + 1))) (tally options (past ++ [line]))
      (say options line).reported.toUTF8 := by
  rcases exists_checkLine_eq lined line with
    ⟨silent, first, rest, speaks, later, same⟩
  have counted := tally_append_of_fails past failed
  have exceeded : limit < (tally options (past ++ [line])).failures := by
    rw [counted, ← reached]
    exact Nat.lt_succ_self _
  have gives := comesTo_giveUpBeyond_of_lt exceeded
  rw [← limited, counted] at gives
  rw [same, failed, Saying.reported, counted, Text.toUTF8_append, ← reached]
  exact (speaks _).andThen (comesTo_fail _ gives).bind_of_error

/-- Check lines that have numbers. -/
def checkNumbered (options : Options) (lines : List (String × Nat)) :
    Checking PUnit :=
  lines.forM fun line => checkLine options line.2 line.1

theorem checkLinesFrom_eq (options : Options) (number : Nat)
    (texts : List String) :
    checkLinesFrom options number texts =
      checkNumbered options (texts.zipIdx number) := by
  induction texts generalizing number with
  | nil => rfl
  | cons text rest ih =>
      rw [checkLinesFrom, ih, checkNumbered, List.zipIdx_cons]
      rfl

theorem comesTo_checkNumbered (lined : options.grammar ≠ .expression)
    (lines past : List (String × Nat))
    (stands : options.Stands (past ++ lines)) :
    ComesTo progressOf (checkNumbered options lines) (tally options past)
      (.ok ⟨⟩) (tally options (past ++ lines))
      (transcript options lines).toUTF8 := by
  induction lines generalizing past with
  | nil =>
      rw [List.append_nil]
      exact says_pure (tally options past)
  | cons line rest ih =>
      rw [List.append_cons] at stands ⊢
      rw [transcript_cons, Text.toUTF8_append]
      exact (comesTo_checkLine lined stands.of_append).andThen
        (ih (past ++ [line]) stands)

/-- Where more lines fail than the limit, the run ends at the first line that
exceeds it. -/
theorem comesTo_checkNumbered_of_limit (lined : options.grammar ≠ .expression)
    {limit : Nat} (limited : options.maxErrors = some limit)
    (lines past : List (String × Nat))
    (few : past.countP (fails options) ≤ limit)
    (many : limit < (past ++ lines).countP (fails options)) :
    ∃ front cut behind, lines = front ++ cut :: behind ∧
      (past ++ front).countP (fails options) = limit ∧
      fails options cut = true ∧
      ComesTo progressOf (checkNumbered options lines) (tally options past)
        (.error (.tooManyErrors (limit + 1)))
        (tally options (past ++ front ++ [cut]))
        (transcript options front ++ (say options cut).reported).toUTF8 := by
  induction lines generalizing past with
  | nil =>
      rw [List.append_nil] at many
      exact absurd few (Nat.not_le.2 many)
  | cons line rest ih =>
      by_cases cuts : past.countP (fails options) = limit ∧
          fails options line = true
      · rcases cuts with ⟨reached, failed⟩
        refine ⟨[], line, rest, rfl, ?_, failed, ?_⟩
        · rwa [List.append_nil]
        · rw [List.append_nil]
          exact (comesTo_checkLine_of_limit lined limited reached
            failed).bind_of_error
      · have still : (past ++ [line]).countP (fails options) ≤ limit := by
          rw [List.countP_append, List.countP_singleton]
          split
          · next failed =>
            exact Nat.lt_of_le_of_ne few fun reached =>
              cuts ⟨reached, failed⟩
          · exact few
        have stands : options.Stands (past ++ [line]) := by
          intro most given
          rw [limited] at given
          cases given
          exact still
        rw [List.append_cons] at many
        rcases ih (past ++ [line]) still many with
          ⟨front, cut, behind, same, reached, failed, comes⟩
        refine ⟨line :: front, cut, behind, congrArg (line :: ·) same, ?_,
          failed, ?_⟩
        · rwa [List.append_cons]
        · rw [List.append_cons past line front, transcript_cons,
            String.append_assoc, Text.toUTF8_append]
          exact (comesTo_checkLine lined stands).andThen comes

/-! ## Whole runs -/

theorem checkOpened_file (lined : options.grammar ≠ .expression)
    (name : FileName) (text : String) :
    checkOpened options name (.ok (.file text.toUTF8)) =
      checkNumbered options ((Source.linesOf text).zipIdx 1) := by
  rw [← checkLinesFrom_eq]
  unfold checkOpened
  cases grammar : options.grammar with
  | expression => exact absurd grammar lined
  | assembly | tape | debugger =>
      simp only [inputLines, Source.readLines_file]

/-- What a run answers when all has been checked. -/
def verdictOf (summary : Summary) : Except Failure Summary :=
  if 0 < summary.failures then .error (.linesFailed summary.failures)
  else .ok summary

theorem comesTo_conclude (summary : Summary) :
    ComesTo progressOf conclude summary (verdictOf summary) summary
      .empty := by
  refine comesTo_of_silent fun sink => ?_
  unfold verdictOf
  by_cases failed : 0 < summary.failures
  · simp only [conclude, EStateM.run_bind, EStateM.run_get, progressOf,
      if_pos failed]
    rfl
  · simp only [conclude, EStateM.run_bind, EStateM.run_get, progressOf,
      if_neg failed]
    rfl

/-- A run that stands all failures says what there is to say of each line. -/
theorem comesTo_run (lined : options.grammar ≠ .expression) (name : FileName)
    (text : String)
    (stands : options.Stands ((Source.linesOf text).zipIdx 1)) :
    ComesTo progressOf (run options name (.ok (.file text.toUTF8))) {}
      (verdictOf (tally options ((Source.linesOf text).zipIdx 1)))
      (tally options ((Source.linesOf text).zipIdx 1))
      (transcript options ((Source.linesOf text).zipIdx 1)).toUTF8 := by
  have checked := comesTo_checkNumbered lined _ [] stands
  have comes := checked.andThen (comesTo_conclude _)
  rwa [ByteArray.append_empty, ← checkOpened_file lined name] at comes

/--
How a run that checks line by line turns out for a file with a text in it, if
there is room for what it writes.  The run without a limit writes what there is
to say of each line.  If more lines fail than the limit, the run ends behind the
report of the line that is one too many; otherwise the limit makes no
difference.
-/
theorem run_counts (options : Options)
    (lined : options.grammar ≠ .expression) (name : FileName)
    (text : String) :
    let source : Except IoError Source := .ok (.file text.toUTF8)
    let lines := (Source.linesOf text).zipIdx 1
    let failures := lines.countP (fails options)
    let verdict : Except Failure Summary :=
      if 0 < failures then .error (.linesFailed failures)
      else .ok
        { lines := lines.length
          instructions := lines.countP (instructs options)
          failures := 0 }
    ComesTo progressOf (run { options with maxErrors := none } name source)
        {} verdict (tally options lines) (transcript options lines).toUTF8 ∧
      (∀ limit, options.maxErrors = some limit → limit < failures →
        ∃ front cut behind, lines = front ++ cut :: behind ∧
          front.countP (fails options) = limit ∧ fails options cut = true ∧
          ComesTo progressOf (run options name source) {}
            (.error (.tooManyErrors (limit + 1)))
            (tally options (front ++ [cut]))
            (transcript options front ++ (say options cut).reported).toUTF8) ∧
      ((∀ limit, options.maxErrors = some limit → failures ≤ limit) →
        ComesTo progressOf (run options name source) {} verdict
          (tally options lines) (transcript options lines).toUTF8) := by
  intro source lines failures verdict
  have answered : verdictOf (tally options lines) = verdict := by
    by_cases some : 0 < failures
    · exact (if_pos some).trans (if_pos some).symm
    · have zero : failures = 0 := Nat.eq_zero_of_not_pos some
      refine (if_neg some).trans (Eq.trans ?_ (if_neg some).symm)
      rw [← zero]
      rfl
  rw [← answered]
  refine ⟨?_, ?_, comesTo_run lined name text⟩
  · have linewise :
        ({ options with maxErrors := none } : Options).grammar ≠
          .expression := lined
    exact comesTo_run linewise name text fun _ => nofun
  · intro limit limited many
    rcases comesTo_checkNumbered_of_limit lined limited lines [] (Nat.zero_le _)
      many with ⟨front, cut, behind, same, reached, failed, comes⟩
    refine ⟨front, cut, behind, same, reached, failed, ?_⟩
    rw [run, checkOpened_file lined]
    exact comes.bind_of_error

/-- Of four lines two are not accepted, and one has an operand without a
value.  A limit of one is exceeded at the second failure, a limit of three is
not. -/
theorem run_counts_three :
    let text := "ca (\nca 0o9\nca 1\nca )\n"
    let source : Except IoError Source := .ok (.file text.toUTF8)
    let strict : Options := { verbose := true, maxErrors := some 1 }
    let lenient : Options := { verbose := true, maxErrors := some 3 }
    (∃ last, (run strict [] source).run {} =
      .error (.tooManyErrors 2) last) ∧
    ∃ output, (run lenient [] source).run {} =
      .error (.linesFailed 3)
        (progressOf { lines := 4, instructions := 2, failures := 3 }
          output) := by
  intro text source strict lenient
  have counted : tally lenient ((Source.linesOf text).zipIdx 1) =
      { lines := 4, instructions := 2, failures := 3 } := by
    decide +kernel
  have three : ((Source.linesOf text).zipIdx 1).countP (fails lenient) = 3 :=
    congrArg Summary.failures counted
  constructor
  · have many : 1 < ((Source.linesOf text).zipIdx 1).countP (fails strict) :=
      three ▸ by decide
    rcases (run_counts strict nofun [] text).2.1 1 rfl many with
      ⟨front, cut, behind, _, _, _, comes⟩
    exact ⟨_, comes {} (Sink.hasRoom_of_unlimited rfl _)⟩
  · have few : ∀ limit, lenient.maxErrors = some limit →
        ((Source.linesOf text).zipIdx 1).countP (fails lenient) ≤ limit := by
      rintro _ ⟨⟩
      exact Nat.le_of_eq three
    have comes := (run_counts lenient nofun [] text).2.2 few
    simp only [three, counted] at comes
    exact ⟨_, comes {} (Sink.hasRoom_of_unlimited rfl _)⟩

end Check

end Whirlwind
