import Whirlwind.Proofs.Files.Directory
import Whirlwind.Proofs.Files.Writing
import Whirlwind.Proofs.Line.Sequence
import Whirlwind.Proofs.Text.Utf8
import Whirlwind.Rebuild.Run

/-!
# What rebuilding changes

A listing is read to its end, and its failing lines are reported, before the
target is touched.  So the target is the only file that rebuilding can change,
and it changes it only if nothing has gone wrong before: neither with the input
nor with the writer of the diagnostics, whatever that does.  The target is then
emptied and grows line by line, so that a run that fails by then leaves a part
of the source behind.
-/

namespace Whirlwind

/-! ## Writers of diagnostics -/

/-- A writer of diagnostics takes what it is given behind what it has taken,
unless it fails, and does nothing else. -/
structure Diagnoses
    (diagnose : ByteArray → StateM Workspace (Except IoError PUnit)) :
    Prop where
  directory : ∀ {bytes workspace answer after},
    (diagnose bytes).run workspace = (answer, after) →
      after.directory = workspace.directory
  output : ∀ {bytes workspace answer after},
    (diagnose bytes).run workspace = (answer, after) →
      after.output = workspace.output
  accepted : ∀ {bytes workspace after},
    (diagnose bytes).run workspace = (.ok ⟨⟩, after) →
      after.diagnostics.accepted = workspace.diagnostics.accepted ++ bytes

namespace Workspace

/-- A workspace with a writer of its own for the diagnostics. -/
def hostWith (diagnose : ByteArray → StateM Workspace (Except IoError PUnit)) :
    Host (StateM Workspace) :=
  { host with writeDiagnostics := diagnose }

theorem writeDiagnostics_cases {bytes : ByteArray} {workspace after : Workspace}
    {answer : Except IoError PUnit}
    (wrote : (writeDiagnostics bytes).run workspace = (answer, after)) :
    ∃ sink, after = { workspace with diagnostics := sink } ∧
      (answer = .ok ⟨⟩ →
        sink.accepted = workspace.diagnostics.accepted ++ bytes) := by
  unfold writeDiagnostics StateT.run at wrote
  dsimp only at wrote
  split at wrote
  · next sink taken =>
    rcases Prod.mk.inj wrote with ⟨_, rfl⟩
    exact ⟨sink, rfl, fun _ => Sink.accepted_of_writeBytes taken⟩
  · next sink _ =>
    rcases Prod.mk.inj wrote with ⟨rfl, rfl⟩
    exact ⟨sink, rfl, nofun⟩

/-- The diagnostics of a workspace go to a sink, which may get full. -/
theorem diagnoses_writeDiagnostics : Diagnoses writeDiagnostics where
  directory wrote := by
    rcases writeDiagnostics_cases wrote with ⟨_, rfl, _⟩
    rfl
  output wrote := by
    rcases writeDiagnostics_cases wrote with ⟨_, rfl, _⟩
    rfl
  accepted wrote := by
    rcases writeDiagnostics_cases wrote with ⟨_, rfl, accepted⟩
    exact accepted rfl

end Workspace

/-! ## Steps of a run -/

section

variable {Before Result : Type} {start last : Workspace}
  {action : ExceptT Failure (StateM Workspace) Before}
  {proceed : Before → ExceptT Failure (StateM Workspace) Result}
  {result : Except Failure Result}

/-- A run goes on behind a step that succeeds, and ends with one that fails. -/
theorem run_bind_cases
    (ran : (action >>= proceed).run.run start = (result, last)) :
    (∃ value between, action.run.run start = (.ok value, between) ∧
      (proceed value).run.run between = (result, last)) ∨
    ∃ failure, action.run.run start = (.error failure, last) ∧
      result = .error failure := by
  rw [ExceptT.run_bind, StateT.run_bind] at ran
  rcases stepped : action.run.run start with ⟨answer, between⟩
  rw [stepped] at ran
  cases answer with
  | ok value => exact Or.inl ⟨value, between, rfl, ran⟩
  | error failure =>
      rcases Prod.mk.inj ran with ⟨rfl, rfl⟩
      exact Or.inr ⟨failure, rfl, rfl⟩

end

/-- An attempt does its action, and fails if that fails. -/
theorem attempt_cases {Result : Type} {failure : IoError → Failure}
    {action : StateM Workspace (Except IoError Result)}
    {answer : Except Failure Result} {start last : Workspace}
    (ran : (attempt failure action).run.run start = (answer, last)) :
    (∃ result, answer = .ok result ∧
      action.run start = (.ok result, last)) ∨
    ∃ error, answer = .error (failure error) ∧
      action.run start = (.error error, last) := by
  rcases run_bind_cases ran with
    ⟨outcome, between, step, later⟩ | ⟨found, step, _⟩
  · have acted : action.run start = (outcome, between) := by
      rcases Prod.mk.inj step with ⟨same, rfl⟩
      exact Prod.ext (Except.ok.inj same) rfl
    cases outcome with
    | ok result =>
        rcases Prod.mk.inj later with ⟨rfl, rfl⟩
        exact Or.inl ⟨result, rfl, acted⟩
    | error error =>
        rcases Prod.mk.inj later with ⟨rfl, rfl⟩
        exact Or.inr ⟨error, rfl, acted⟩
  · cases (Prod.mk.inj step).1

/-- Lines are those of a source that was opened. -/
theorem exists_of_inputLines {name : FileName}
    {opened : Except IoError Source} {texts : List String}
    (read : inputLines name opened = .ok texts) :
    ∃ source, opened = .ok source ∧ source.readLines = .ok texts := by
  unfold inputLines at read
  split at read
  · cases read
  · next source =>
    split at read
    · cases read
    · next lines found =>
      rcases Except.ok.inj read with rfl
      exact ⟨source, rfl, found⟩

/-- Where there are no lines, it is the input that has failed. -/
theorem failure_of_inputLines {name : FileName}
    {opened : Except IoError Source} {failure : Failure}
    (failed : inputLines name opened = .error failure) :
    ∃ error line, failure = .input name error line := by
  unfold inputLines at failed
  split at failed
  · exact ⟨_, _, (Except.error.inj failed).symm⟩
  · split at failed
    · exact ⟨_, _, (Except.error.inj failed).symm⟩
    · cases failed

namespace Rebuild

variable {diagnose : ByteArray → StateM Workspace (Except IoError PUnit)}
  {workspace after : Workspace} {name target : FileName}
  {result : Except Failure PUnit}

/-- What a run comes to, from the number of its failing lines. -/
def verdict (failed : Nat) : Except Failure PUnit :=
  if failed = 0 then .ok ⟨⟩ else .error (.linesFailed failed)

/-- The source that is rebuilt from the lines of a listing. -/
def rebuiltSource (texts : List String) : ByteArray :=
  (Tape.sourceText (Tape.RebuiltLine.ofLines
    (LineSequence.parse texts .tape).lines)).toUTF8

/-- The reports on the lines of a listing that fail, each headed by its line's
number, counted from one. -/
def failureReports (texts : List String) : ByteArray :=
  (String.join (((texts.zipIdx 1).filterMap
    (LineSequence.failure? .tape)).map fun failure =>
      "Line " ++ toString failure.1 ++ ": " ++ failure.2.diagnostic)).toUTF8

/-! ## Writing texts one after the other -/

section

variable {failure : IoError → Failure}
  {write : ByteArray → StateM Workspace (Except IoError PUnit)}
  {done : ByteArray} {start last : Workspace} {answer : Except Failure PUnit}

/-- What each write keeps holds of all that is written, or of a part in front of
the rest if a write fails. -/
theorem writeAll_cases (Has Partly : ByteArray → Workspace → Prop)
    (step : ∀ {done bytes before answer after}, Has done before →
      (write bytes).run before = (answer, after) →
        answer = .ok ⟨⟩ ∧ Has (done ++ bytes) after ∨
          ∃ error part rest, answer = .error error ∧ part ++ rest = bytes ∧
            Partly (done ++ part) after)
    (texts : List String) (has : Has done start)
    (ran : (writeAll failure write texts).run.run start = (answer, last)) :
    answer = .ok ⟨⟩ ∧ Has (done ++ (String.join texts).toUTF8) last ∨
      ∃ error part rest, answer = .error (failure error) ∧
        part ++ rest = (String.join texts).toUTF8 ∧
          Partly (done ++ part) last := by
  induction texts generalizing done start with
  | nil =>
      rcases Prod.mk.inj ran with ⟨rfl, rfl⟩
      exact Or.inl ⟨rfl, by rwa [show (String.join []).toUTF8 = .empty from rfl,
        ByteArray.append_empty]⟩
  | cons text rest ih =>
      rw [String.join_cons, Text.toUTF8_append]
      rcases run_bind_cases ran with
        ⟨_, between, tried, later⟩ | ⟨found, tried, rfl⟩
      · rcases attempt_cases tried with ⟨_, _, wrote⟩ | ⟨_, same, _⟩
        case inr => cases same
        rcases step has wrote with ⟨_, now⟩ | ⟨_, _, _, same, _⟩
        case inr => cases same
        rcases ih now later with
          ⟨ended, all⟩ | ⟨error, part, left, same, parts, some⟩
        · exact Or.inl ⟨ended, by rwa [← ByteArray.append_assoc]⟩
        · refine Or.inr ⟨error, text.toUTF8 ++ part, left, same, ?_, ?_⟩
          · rw [ByteArray.append_assoc, parts]
          · rwa [← ByteArray.append_assoc]
      · rcases attempt_cases tried with ⟨_, same, _⟩ | ⟨error, same, wrote⟩
        case inl => cases same
        rcases step has wrote with ⟨ended, _⟩ | ⟨_, part, left, _, parts, some⟩
        case inl => cases ended
        refine Or.inr ⟨error, part, left ++ (String.join rest).toUTF8, same, ?_,
          some⟩
        rw [← ByteArray.append_assoc, parts]

/-- Nothing was changed but the diagnostics. -/
structure OnlyReports (start last : Workspace) : Prop where
  directory : last.directory = start.directory
  output : last.output = start.output

/-- Bytes were reported, and nothing else was done. -/
structure Reports (start : Workspace) (bytes : ByteArray)
    (last : Workspace) : Prop extends OnlyReports start last where
  accepted : last.diagnostics.accepted = start.diagnostics.accepted ++ bytes

/-- One report more is taken, or else nothing is changed but the diagnostics. -/
theorem Reports.andThen (diagnoses : Diagnoses diagnose) {bytes : ByteArray}
    {before : Workspace} {outcome : Except IoError PUnit}
    (reports : Reports start done before)
    (ran : (diagnose bytes).run before = (outcome, last)) :
    OnlyReports start last ∧
      (outcome = .ok ⟨⟩ → Reports start (done ++ bytes) last) := by
  have only : OnlyReports start last :=
    ⟨(diagnoses.directory ran).trans reports.directory,
      (diagnoses.output ran).trans reports.output⟩
  refine ⟨only, ?_⟩
  rintro rfl
  refine ⟨only, ?_⟩
  rw [diagnoses.accepted ran, reports.accepted, ByteArray.append_assoc]

/-- Reports are taken one after the other, and nothing else is done. -/
theorem writeAll_diagnose (diagnoses : Diagnoses diagnose) (texts : List String)
    (ran : (writeAll failure diagnose texts).run.run start = (answer, last)) :
    answer = .ok ⟨⟩ ∧ Reports start (String.join texts).toUTF8 last ∨
      ∃ error, answer = .error (failure error) ∧ OnlyReports start last := by
  have nothing : Reports start .empty start :=
    ⟨⟨rfl, rfl⟩, ByteArray.append_empty.symm⟩
  have cases := writeAll_cases (Reports start) (fun _ => OnlyReports start)
    (fun {_ bytes _ outcome _} reports wrote => ?_) texts nothing ran
  · rcases cases with ⟨ended, reports⟩ | ⟨error, _, _, same, _, only⟩
    · rw [ByteArray.empty_append] at reports
      exact Or.inl ⟨ended, reports⟩
    · exact Or.inr ⟨error, same, only⟩
  · rcases reports.andThen diagnoses wrote with ⟨only, taken⟩
    cases outcome with
    | ok done => exact Or.inl ⟨rfl, taken rfl⟩
    | error error =>
        exact Or.inr ⟨error, .empty, bytes, rfl, ByteArray.empty_append, only⟩

/-- A file grows by all texts, or else by a part of them. -/
theorem writeAll_writeFile {entry : FileName} (texts : List String)
    (ran : (writeAll failure (Workspace.writeFile entry) texts).run.run start =
      (answer, last)) :
    answer = .ok ⟨⟩ ∧ start.Grows entry (String.join texts).toUTF8 last ∨
      ∃ error part rest, answer = .error (failure error) ∧
        part ++ rest = (String.join texts).toUTF8 ∧
          start.Grows entry part last := by
  have cases := writeAll_cases (start.Grows entry) (start.Grows entry)
    (fun has wrote => ?_) texts (.refl start entry) ran
  · simpa only [ByteArray.empty_append] using cases
  · rcases Workspace.grows_of_writeFile wrote with
      ⟨ended, all⟩ | ⟨error, part, rest, same, parts, some⟩
    · exact Or.inl ⟨ended, has.trans all⟩
    · exact Or.inr ⟨error, part, rest, same, parts, has.trans some⟩

/-- The file that a target names holds just what was written. -/
structure Fills (start : Workspace) (target : FileName) (written : ByteArray)
    (last : Workspace) : Prop where
  placed : ∃ entry, start.directory.locateForWriting target =
    .ok (.entry entry) ∧ start.directory.Rewrites entry written last.directory
  output : last.output = start.output
  diagnostics : last.diagnostics = start.diagnostics

/-- A file that was made holds what it has grown by. -/
theorem fills_of_create {directory : Directory} {target entry : FileName}
    {written : ByteArray}
    (made : start.directory.create target = .ok (entry, directory))
    (grows : { start with directory := directory }.Grows entry written last) :
    Fills start target written last := by
  rcases Directory.rewrites_of_create made with ⟨located, emptied⟩
  have grown := grows.directory .empty emptied.written
  rw [ByteArray.empty_append] at grown
  exact ⟨⟨entry, located, emptied.trans grown⟩, grows.output, grows.diagnostics⟩

/-- Either the file of a target is not made, or it holds all texts, or a part of
them. -/
theorem writeTarget_cases {target : FileName} (texts : List String)
    (ran : (writeTarget (Workspace.hostWith diagnose) texts
      (.file target)).run.run start = (answer, last)) :
    answer = .ok ⟨⟩ ∧ Fills start target (String.join texts).toUTF8 last ∨
      ∃ error, answer = .error (.outputFile target error) ∧
        (last = start ∨ ∃ part rest,
          part ++ rest = (String.join texts).toUTF8 ∧
            Fills start target part last) := by
  rcases run_bind_cases ran with
    ⟨handle, between, tried, later⟩ | ⟨failure, tried, rfl⟩
  · rcases attempt_cases tried with ⟨_, same, created⟩ | ⟨_, same, _⟩
    case inr => cases same
    rcases Except.ok.inj same with rfl
    rcases Workspace.createFile_cases created with
      ⟨entry, directory, same, made, rfl⟩ | ⟨_, same, _⟩
    case inr => cases same
    rcases Except.ok.inj same with rfl
    rcases writeAll_writeFile texts later with
      ⟨ended, all⟩ | ⟨error, part, rest, same, parts, some⟩
    · exact Or.inl ⟨ended, fills_of_create made all⟩
    · exact Or.inr ⟨error, same, Or.inr ⟨part, rest, parts,
        fills_of_create made some⟩⟩
  · rcases attempt_cases tried with ⟨_, same, _⟩ | ⟨error, same, created⟩
    case inl => cases same
    rcases Workspace.createFile_cases created with
      ⟨_, _, same', _⟩ | ⟨_, _, rfl⟩
    case inl => cases same'
    rcases Except.error.inj same with rfl
    exact Or.inr ⟨error, rfl, Or.inl rfl⟩

end

/-! ## A whole run -/

/-- A listing was read, its failing lines were reported, and then bytes were
written to the target, in this order. -/
structure Writes (workspace : Workspace) (name target : FileName)
    (texts : List String) (written : ByteArray) (after : Workspace) : Prop where
  opened : ∃ source, workspace.directory.openFile name = .ok source ∧
    source.readLines = .ok texts
  placed : ∃ entry,
    workspace.directory.locateForWriting target = .ok (.entry entry) ∧
      workspace.directory.Rewrites entry written after.directory
  reported : after.diagnostics.accepted =
    workspace.diagnostics.accepted ++ failureReports texts
  output : after.output = workspace.output

/-- A target that is filled behind the reports is written. -/
theorem Fills.writes {between : Workspace} {source : Source}
    {texts : List String} {written : ByteArray}
    (fills : Fills between target written after)
    (opened : workspace.directory.openFile name = .ok source)
    (read : source.readLines = .ok texts)
    (reports : Reports workspace (failureReports texts) between) :
    Writes workspace name target texts written after where
  opened := ⟨source, opened, read⟩
  placed := by
    rw [← reports.directory]
    exact fills.placed
  reported := by rw [fills.diagnostics, reports.accepted]
  output := fills.output.trans reports.output

/-- How rebuilding into a file goes.  Either it is refused and leaves all files
alone, or a part of the source is written before it fails, or all of the source
is and the verdict is on the lines. -/
inductive Steps (workspace : Workspace) (name target : FileName) :
    Except Failure PUnit → Workspace → Prop
  | refused {failure : Failure} {after : Workspace}
      (kept : after.directory = workspace.directory)
      (whole : ∀ count, failure ≠ .linesFailed count) :
      Steps workspace name target (.error failure) after
  | stopped {texts : List String} {part rest : ByteArray} {error : IoError}
      {after : Workspace} (parts : part ++ rest = rebuiltSource texts)
      (writes : Writes workspace name target texts part after) :
      Steps workspace name target (.error (.outputFile target error)) after
  | finished {texts : List String} {after : Workspace}
      (writes : Writes workspace name target texts (rebuiltSource texts) after) :
      Steps workspace name target
        (verdict (LineSequence.parse texts .tape).errors.length) after

/-- The reports on the failing lines of a source, each with its line's number. -/
theorem join_reports_eq {source : Source} {texts : List String}
    (read : source.readLines = .ok texts) :
    (String.join ((LineSequence.parse texts .tape).errors.map
      ParseError.report)).toUTF8 = failureReports texts := by
  rcases Source.exists_text_of_readLines read with ⟨text, _, rfl⟩
  have inLine : ∀ line ∈ Source.linesOf text, '\n' ∉ line.toList :=
    fun line member => Source.newline_not_mem_of_mem_linesOf member
  rw [failureReports, LineSequence.parse, LineSequence.parseFrom_eq, List.map_map]
  refine congrArg (String.toUTF8 ∘ String.join)
    (List.map_congr_left fun failure member => ?_)
  exact LineSequence.report_of_failure (Nat.le_refl 1) inLine member

/-- Rebuilding goes in one of these three ways. -/
theorem steps_of_run (diagnoses : Diagnoses diagnose)
    (ran : (run (Workspace.hostWith diagnose) name (.file target)).run.run
      workspace = (result, after)) :
    Steps workspace name target result after := by
  unfold run at ran
  rcases run_bind_cases ran with
    ⟨opened, start, step, ranOpened⟩ | ⟨failure, step, _⟩
  case inr => cases step
  rcases Prod.mk.inj step with ⟨same, rfl⟩
  rcases Except.ok.inj same with rfl
  rcases run_bind_cases ranOpened with
    ⟨texts, start, step, ranRead⟩ | ⟨failure, step, rfl⟩
  case inr =>
    rcases Prod.mk.inj step with ⟨failed, rfl⟩
    rcases failure_of_inputLines failed with ⟨error, line, rfl⟩
    exact .refused rfl nofun
  rcases Prod.mk.inj step with ⟨lines, rfl⟩
  rcases exists_of_inputLines lines with ⟨source, opened, read⟩
  rcases run_bind_cases ranRead with
    ⟨_, between, step, ranReported⟩ | ⟨failure, step, rfl⟩
  case inr =>
    rcases writeAll_diagnose diagnoses _ step with
      ⟨ended, _⟩ | ⟨error, same, only⟩
    · cases ended
    · rcases Except.error.inj same with rfl
      exact .refused only.directory nofun
  rcases writeAll_diagnose diagnoses _ step with ⟨_, reports⟩ | ⟨_, same, _⟩
  case inr => cases same
  rw [join_reports_eq read] at reports
  rcases run_bind_cases ranReported with
    ⟨_, last, step, concluded⟩ | ⟨failure, step, rfl⟩
  case inr =>
    rcases writeTarget_cases _ step with
      ⟨ended, _⟩ | ⟨error, same, rfl | ⟨part, rest, parts, fills⟩⟩
    · cases ended
    · rcases Except.error.inj same with rfl
      exact .refused reports.directory nofun
    · rcases Except.error.inj same with rfl
      exact .stopped parts (fills.writes opened read reports)
  rcases writeTarget_cases _ step with ⟨_, fills⟩ | ⟨_, same, _⟩
  case inr => cases same
  have finished :=
    Steps.finished (fills.writes opened read reports)
  generalize (LineSequence.parse texts .tape).errors.length = count at *
  cases count with
  | zero | succ count =>
      rcases Prod.mk.inj concluded with ⟨rfl, rfl⟩
      exact finished

/-- What rebuilding has done when it has come to its end. -/
inductive Rebuilds (workspace : Workspace) (name target : FileName)
    (failed : Nat) (after : Workspace) : Prop
  | intro {source : Source} {texts : List String} {entry : FileName}
      (opened : workspace.directory.openFile name = .ok source)
      (read : source.readLines = .ok texts)
      (located : workspace.directory.locateForWriting target =
        .ok (.entry entry))
      (rewrites : workspace.directory.Rewrites entry
        (Tape.sourceText (Tape.RebuiltLine.ofLines ((texts.zipIdx 1).filterMap
          (LineSequence.line? .tape)))).toUTF8 after.directory)
      (counted : failed = ((texts.zipIdx 1).filterMap
        (LineSequence.failure? .tape)).length)
      (reported : after.diagnostics.accepted =
        workspace.diagnostics.accepted ++
          (String.join (((texts.zipIdx 1).filterMap
            (LineSequence.failure? .tape)).map fun failure =>
              "Line " ++ toString failure.1 ++ ": " ++
                failure.2.diagnostic)).toUTF8)
      (output : after.output = workspace.output)

/-- Diagnostics first and the target afterwards: that is a rebuilding. -/
theorem Writes.rebuilds {texts : List String}
    (writes : Writes workspace name target texts (rebuiltSource texts) after) :
    Rebuilds workspace name target
      (LineSequence.parse texts .tape).errors.length after := by
  rcases writes.opened with ⟨source, opened, read⟩
  rcases writes.placed with ⟨entry, located, rewrites⟩
  rw [rebuiltSource, LineSequence.parse, LineSequence.parseFrom_eq] at rewrites
  rw [LineSequence.parse, LineSequence.parseFrom_eq]
  exact .intro opened read located rewrites (List.length_map _) writes.reported
    writes.output

/--
Rebuilding a listing into a file touches nothing but the file, and that only at
the end.  If the input fails or the diagnostics do, no file is changed.  If the
run succeeds, or fails because of single lines, then just the target has been
written, with the source that is rebuilt from the lines that can be read; each
of the other lines has been reported in its turn, under its number; and the
run succeeds if there are none of them, and fails with their number otherwise.
-/
theorem run_rebuilds (diagnoses : Diagnoses diagnose)
    (ran : (run (Workspace.hostWith diagnose) name (.file target)).run.run
      workspace = (result, after)) :
    (∀ error, result = .error (.output error) →
      after.directory = workspace.directory) ∧
    (∀ file error line, result = .error (.input file error line) →
      after.directory = workspace.directory) ∧
    (result = .ok ⟨⟩ → Rebuilds workspace name target 0 after) ∧
    ∀ count, result = .error (.linesFailed count) →
      0 < count ∧ Rebuilds workspace name target count after := by
  cases steps_of_run diagnoses ran with
  | refused kept whole =>
      refine ⟨fun _ _ => kept, fun _ _ _ _ => kept, nofun, ?_⟩
      intro count same
      exact absurd (Except.error.inj same) (whole count)
  | stopped parts writes => exact ⟨nofun, nofun, nofun, nofun⟩
  | finished writes =>
      have rebuilds := writes.rebuilds
      unfold verdict
      split
      · next none_failed =>
        rw [none_failed] at rebuilds
        exact ⟨nofun, nofun, fun _ => rebuilds, nofun⟩
      · next some_failed =>
        refine ⟨nofun, nofun, nofun, fun count same => ?_⟩
        rcases Failure.linesFailed.inj (Except.error.inj same) with rfl
        exact ⟨Nat.pos_of_ne_zero some_failed, rebuilds⟩

/-- A listing whose second line fails, beside a file that there is. -/
def failingListing : Workspace where
  directory := ⟨[(FileName.ofString "in",
      .file "note\n\t+\n\t\tca a\t\n".toUTF8),
    (FileName.ofString "out", .file "old".toUTF8)]⟩
  diagnostics := { room := some 200 }

/-- The listing is rebuilt over the file, and its second line reported. -/
theorem run_rebuilds_failing :
    ∃ after, (run (Workspace.hostWith Workspace.writeDiagnostics)
        (FileName.ofString "in") (.file (FileName.ofString "out"))).run.run
          failingListing = (.error (.linesFailed 1), after) ∧
      Rebuilds failingListing (FileName.ofString "in")
        (FileName.ofString "out") 1 after := by
  let outcome := (run (Workspace.hostWith Workspace.writeDiagnostics)
    (FileName.ofString "in") (.file (FileName.ofString "out"))).run.run
      failingListing
  have failed : outcome.1 = .error (.linesFailed 1) :=
    Except.eq_error_of_error? (by decide +kernel)
  have ran : outcome = (.error (.linesFailed 1), outcome.2) :=
    Prod.ext failed rfl
  exact ⟨outcome.2, ran, ((run_rebuilds
    Workspace.diagnoses_writeDiagnostics ran).2.2.2 1 rfl).2⟩

end Rebuild

end Whirlwind
