import Whirlwind.Proofs.Files.Directory
import Whirlwind.Proofs.Files.FileName
import Whirlwind.Proofs.Source.Facing

/-!
# Where a path leads

A path that a file is opened by leads to a directory and names the file there by
its last part.  Another path with the same parts in front leads to the same
directory and names another entry there, so that it leads to another file unless
there is a link.
-/

namespace Whirlwind.Directory

open FileName (slash dot IsCut)

variable {directory before after : Directory} {place reached : Place}
  {path front part other name entry : List UInt8}
  {content old kept : ByteArray}

/-! ## Parts -/

/-- The last part of a path stands behind those in front of it. -/
theorem parts_of_isCut (cut : IsCut path front part) :
    parts path = parts front ++ [part] := by
  have whole : part.filter (· != slash) = part :=
    List.filter_eq_self.2 fun byte member => by
      rw [bne_iff_ne]
      rintro rfl
      exact cut.slash_not_mem member
  have alone : Text.lines slash part = [part] := by
    have line := Text.lines_append cut.slash_not_mem []
    rw [List.append_nil] at line
    rw [line]
    exact if_neg cut.filled
  have lines : Text.lines slash path = Text.lines slash front ++ [part] := by
    rw [cut.joined]
    rcases List.eq_nil_or_concat front with rfl | ⟨initial, last, rfl⟩
    · exact alone
    · rcases cut.front_ends last (by simp) with rfl
      rw [List.concat_eq_append, List.append_assoc, List.singleton_append,
        Text.lines_append_newline, alone]
  obtain ⟨byte, rest, rfl⟩ := List.exists_cons_of_ne_nil cut.filled
  rw [parts, lines, List.filterMap_append, ← parts, List.filterMap_cons, whole]
  rfl

/-- A path is followed part by part, unless it can be none. -/
@[simp]
theorem walk_eq_ok_iff {parts : List (List UInt8)} :
    directory.walk path parts = .ok reached ↔
      0 ∉ path ∧ path ≠ [] ∧ path.length ≤ pathLimit ∧
        parts.foldlM directory.step (start path) = .ok reached := by
  simp only [walk, List.contains_iff_mem]
  split
  · next zero => simp [zero]
  split
  · next empty => simp [empty]
  split
  · next long => simp [Nat.not_le_of_lt long]
  · next zero empty short => simp [zero, empty, Nat.le_of_not_lt short]

/-- The parts of a path lead to a place. -/
def LeadsTo (directory : Directory) (path : FileName) (place : Place) : Prop :=
  (parts path).foldlM directory.step (start path) = .ok place

/-- The last part of a path is looked up where the others lead. -/
theorem exists_step_of_walk (cut : IsCut path front part)
    (walked : directory.walk path (parts path) = .ok reached) :
    ∃ place, directory.LeadsTo front place ∧
      directory.step place part = .ok reached := by
  have starts : start path = start front := by
    have head : path.head? = some slash ↔ front.head? = some slash := by
      rw [cut.joined]
      rcases front with _ | ⟨byte, rest⟩
      · simp only [List.nil_append, List.head?_nil, reduceCtorEq, iff_false]
        exact fun first => cut.slash_not_mem (List.mem_of_head? first)
      · simp
    simp only [start, head]
  rcases walk_eq_ok_iff.1 walked with ⟨_, _, _, walked⟩
  rw [starts, parts_of_isCut cut, List.foldlM_append] at walked
  rcases ahead : (parts front).foldlM directory.step (start front) with
    error | place
  · rw [ahead] at walked
    cases walked
  · rw [ahead] at walked
    refine ⟨place, ahead, ?_⟩
    change directory.step place part >>= pure = _ at walked
    rwa [bind_pure] at walked

/-! ## Steps -/

@[simp]
theorem enter_entry_iff :
    directory.enter (.entry path) = .ok ⟨⟩ ↔
      directory.get? path = some .directory := by
  rw [enter]
  split <;> simp_all

/-- Different names in a directory are those of different entries. -/
@[simp]
theorem Place.inside_inj :
    place.inside part = place.inside other ↔ part = other := by
  cases place with
  | base front => simp [Place.inside]
  | entry path => simp [Place.inside]

/-- A link is left behind at once, and any other entry is where its path
leads. -/
theorem follow_cases (followed : directory.follow path = .ok reached) :
    (∃ place, directory.get? path = some (.link place) ∧ reached = place ∧
      directory.enter place.outer = .ok ⟨⟩) ∨
    reached = .entry path ∧ ∀ place, directory.get? path ≠ some (.link place) := by
  unfold follow at followed
  split at followed
  · next place found =>
    rcases entered : directory.enter place.outer with error | done
    · rw [entered] at followed
      cases followed
    · rw [entered] at followed
      rcases Except.ok.inj followed with rfl
      exact Or.inl ⟨place, found, rfl, entered⟩
  · next other =>
    rcases Except.ok.inj followed with rfl
    exact Or.inr ⟨rfl, other⟩

/-- Where one part of a path leads: back to the place, out of it, or to an entry
in it. -/
inductive Steps (directory : Directory) (place : Place) (part : List UInt8)
    (reached : Place) : Prop
  | stays (dots : part = [dot]) (here : place = reached)
  | climbs (dots : part = [dot, dot]) (out : place.outer = reached)
      (entered : directory.enter reached = .ok ⟨⟩)
  | goes (notDot : part ≠ [dot]) (notDots : part ≠ [dot, dot])
      (short : ¬ nameLimit < part.length)
      (followed : directory.follow (place.inside part) = .ok reached)

theorem step_eq_ok_iff :
    directory.step place part = .ok reached ↔
      directory.enter place = .ok ⟨⟩ ∧
        Steps directory place part reached := by
  unfold step
  dsimp only [bind, Except.bind]
  constructor
  · intro reaches
    split at reaches
    · cases reaches
    next entered =>
    refine ⟨entered, ?_⟩
    split at reaches
    · next dots => exact .stays dots (Except.ok.inj reaches)
    split at reaches
    · next dots =>
      split at reaches
      · cases reaches
      · next climbed =>
        have out := Except.ok.inj reaches
        rw [out] at climbed
        exact .climbs dots out climbed
    split at reaches
    · cases reaches
    · next notDot notDots short => exact .goes notDot notDots short reaches
  · rintro ⟨entered, steps⟩
    rw [entered]
    cases steps with
    | stays dots here =>
        rw [here]
        exact if_pos dots
    | climbs dots out climbed =>
        dsimp only
        rw [if_neg (by simp [dots]), if_pos dots, out, climbed]
        rfl
    | goes notDot notDots short followed =>
        dsimp only
        rwa [if_neg notDot, if_neg notDots, if_neg short]

/-- An entry that is reached is no directory only if the part names it. -/
theorem follow_of_step (stepped : directory.step place part = .ok (.entry name))
    (notDirectory : directory.get? name ≠ some .directory) :
    part ≠ [dot] ∧ part ≠ [dot, dot] ∧
      directory.follow (place.inside part) = .ok (.entry name) := by
  rcases step_eq_ok_iff.1 stepped with ⟨entered, steps⟩
  cases steps with
  | stays dots here =>
      rw [here] at entered
      exact absurd (enter_entry_iff.1 entered) notDirectory
  | climbs dots out climbed =>
      exact absurd (enter_entry_iff.1 climbed) notDirectory
  | goes notDot notDots short followed => exact ⟨notDot, notDots, followed⟩

/-! ## Files -/

/-- What is opened where a path leads to an entry is that entry. -/
theorem openFile_of_locate (located : directory.locate path = .ok (.entry name)) :
    directory.openFile path =
      match directory.get? name with
      | none => .error .notFound
      | some (.link _) => .error .tooManyLinks
      | some .directory => .ok .directory
      | some (.file content) =>
          if endsInSlash path then .error .notDirectory
          else .ok (.file content) := by
  rw [openFile, located]
  rfl

/-- A file that is opened is an entry, and its path does not end in a slash. -/
@[simp]
theorem openFile_eq_file_iff :
    directory.openFile path = .ok (.file content) ↔
      ∃ name, directory.locate path = .ok (.entry name) ∧
        directory.get? name = some (.file content) ∧
          endsInSlash path = false := by
  constructor
  · intro opened
    rcases located : directory.locate path with error | place
    · rw [openFile, located] at opened
      cases opened
    cases place with
    | base front =>
        rw [openFile, located] at opened
        cases opened
    | entry name =>
        rw [openFile_of_locate located] at opened
        split at opened
        · cases opened
        · cases opened
        · cases opened
        · next found =>
          split at opened
          · cases opened
          · next open_ended =>
            rcases Except.ok.inj opened with ⟨rfl⟩
            exact ⟨name, rfl, found, by simpa using open_ended⟩
  · rintro ⟨name, located, found, open_ended⟩
    rw [openFile_of_locate located, found]
    exact if_neg (by simp [open_ended])

/-- A file is opened by the last part of its path, in the directory that the
others lead to. -/
theorem exists_isCut_of_openFile
    (opened : directory.openFile path = .ok (.file content)) :
    ∃ front part place name, IsCut path front part ∧
      part ≠ [dot] ∧ part ≠ [dot, dot] ∧ directory.LeadsTo front place ∧
        directory.follow (place.inside part) = .ok (.entry name) ∧
          directory.locate path = .ok (.entry name) ∧
            directory.get? name = some (.file content) := by
  rcases openFile_eq_file_iff.1 opened with
    ⟨name, located, found, open_ended⟩
  have filled : path ≠ [] := by
    rintro rfl
    cases located
  have last : path.getLast? ≠ some slash := by
    simpa [endsInSlash] using open_ended
  rcases FileName.exists_isCut filled last with ⟨front, part, cut⟩
  rcases exists_step_of_walk cut located with ⟨place, ahead, stepped⟩
  rcases follow_of_step stepped (by simp [found]) with
    ⟨notDot, notDots, followed⟩
  exact ⟨front, part, place, name, cut, notDot, notDots, ahead, followed,
    located, found⟩

/-- A file beside another one is written where the last part of its own path
leads. -/
theorem follow_of_locateForWriting (cut : IsCut path front part)
    (ahead : directory.LeadsTo front place)
    (located : directory.locateForWriting path = .ok (.entry entry))
    (notDirectory : directory.get? entry ≠ some .directory) :
    directory.follow (place.inside part) = .ok (.entry entry) := by
  have open_ended : endsInSlash path = false := by
    simpa [endsInSlash] using cut.getLast?_ne_slash
  rw [locateForWriting, open_ended] at located
  rcases exists_step_of_walk cut located with ⟨reached, leads, stepped⟩
  rcases Except.ok.inj (ahead.symm.trans leads) with rfl
  exact (follow_of_step stepped notDirectory).2.2

/-- No link leads to the file that a path leads to. -/
def KnownByOneName (directory : Directory) (path : FileName) : Prop :=
  ∀ name, directory.locate path = .ok (.entry name) →
    ∀ other, directory.get? other ≠ some (.link (.entry name))

/-- Without links, different names in a directory lead to different files. -/
theorem entry_ne_of_follow
    (unlinked : ∀ other, directory.get? other ≠ some (.link (.entry name)))
    (apart : part ≠ other)
    (followed : directory.follow (place.inside part) = .ok (.entry name))
    (beside : directory.follow (place.inside other) = .ok (.entry entry)) :
    entry ≠ name := by
  rintro rfl
  rcases follow_cases followed with ⟨_, found, rfl, _⟩ | ⟨here, _⟩
  · exact unlinked _ found
  rcases follow_cases beside with ⟨_, found, rfl, _⟩ | ⟨there, _⟩
  · exact unlinked _ found
  · have same := Place.entry.inj (here.symm.trans there)
    exact apart (Place.inside_inj.1 same)

/-! ## Behind a write -/

variable (rewrites : before.Rewrites entry content after)

include rewrites

/-- A link or a directory is not what has been written. -/
theorem Rewrites.get?_eq {found : Entry} (known : before.get? name = some found)
    (other : ∀ old, found ≠ .file old) : after.get? name = some found := by
  rw [rewrites.others name, known]
  rintro rfl
  rcases rewrites.replaced _ known with ⟨old, rfl⟩
  exact other old rfl

theorem enter_of_rewrites (entered : before.enter place = .ok ⟨⟩) :
    after.enter place = .ok ⟨⟩ := by
  cases place with
  | base front => rfl
  | entry path =>
      rw [enter_entry_iff] at entered ⊢
      exact rewrites.get?_eq entered nofun

theorem follow_of_rewrites (followed : before.follow path = .ok reached) :
    after.follow path = .ok reached := by
  rcases follow_cases followed with ⟨place, found, rfl, entered⟩ | ⟨rfl, others⟩
  · rw [follow, rewrites.get?_eq found nofun]
    dsimp only
    rw [enter_of_rewrites rewrites entered]
    rfl
  · rw [follow]
    split
    · next place linked =>
      by_cases same : path = entry
      · rcases same with rfl
        rw [rewrites.written] at linked
        cases linked
      · rw [rewrites.others path same] at linked
        exact absurd linked (others place)
    · rfl

/-- What is reached stays reached when a file is written. -/
theorem step_of_rewrites (stepped : before.step place part = .ok reached) :
    after.step place part = .ok reached := by
  rw [step_eq_ok_iff] at stepped ⊢
  refine ⟨enter_of_rewrites rewrites stepped.1, ?_⟩
  cases stepped.2 with
  | stays dots here => exact .stays dots here
  | climbs dots out climbed =>
      exact .climbs dots out (enter_of_rewrites rewrites climbed)
  | goes notDot notDots short followed =>
      exact .goes notDot notDots short (follow_of_rewrites rewrites followed)

/-- What parts lead to they lead to when a file is written. -/
theorem foldlM_step_of_rewrites {parts : List (List UInt8)}
    (walked : parts.foldlM before.step place = .ok reached) :
    parts.foldlM after.step place = .ok reached := by
  induction parts generalizing place with
  | nil => exact walked
  | cons part parts ih =>
      rw [List.foldlM_cons] at walked ⊢
      rcases stepped : before.step place part with error | next
      · rw [stepped] at walked
        cases walked
      · rw [stepped] at walked
        rw [step_of_rewrites rewrites stepped]
        exact ih walked

theorem locate_of_rewrites (located : before.locate path = .ok reached) :
    after.locate path = .ok reached := by
  rw [locate, walk_eq_ok_iff] at located ⊢
  exact located.imp_right <| And.imp_right <| And.imp_right
    (foldlM_step_of_rewrites rewrites)

/-- Behind a write a file is opened as what its entry holds by then. -/
theorem openFile_of_rewrites
    (opened : before.openFile path = .ok (.file old))
    (located : before.locate path = .ok (.entry name))
    (found : after.get? name = some (.file kept)) :
    after.openFile path = .ok (.file kept) := by
  rcases openFile_eq_file_iff.1 opened with ⟨_, _, _, open_ended⟩
  exact openFile_eq_file_iff.2
    ⟨name, locate_of_rewrites rewrites located, found, open_ended⟩

/-- A file that is written under the name of another one, with an extension, is
another file, unless the name has the extension by itself or there is a link. -/
theorem openFile_of_rewrites_withExtension {extension : List UInt8}
    (inPart : slash ∉ extension) (plain : dot ∉ extension)
    (opened : before.openFile path = .ok (.file old))
    (located : before.locateForWriting
      (FileName.withExtension extension path) = .ok (.entry entry)) :
    (¬ FileName.HasExtension extension path → before.KnownByOneName path →
      after.openFile path = .ok (.file old)) ∧
    (FileName.HasExtension extension path →
      after.openFile path = .ok (.file content)) := by
  rcases exists_isCut_of_openFile opened with
    ⟨front, part, place, name, cut, notDot, notDots, ahead, followed, leads,
      found⟩
  have notDirectory : before.get? entry ≠ some .directory := by
    intro known
    rcases rewrites.replaced _ known with ⟨old, same⟩
    cases same
  constructor
  · intro others unlinked
    rcases cut.exists_isCut_withExtension notDot notDots inPart others with
      ⟨final, cutTarget, apart⟩
    have beside :=
      follow_of_locateForWriting cutTarget ahead located notDirectory
    have differs := entry_ne_of_follow (unlinked name leads) (Ne.symm apart)
      followed beside
    refine openFile_of_rewrites rewrites opened leads ?_
    rw [rewrites.others name (Ne.symm differs)]
    exact found
  · intro has
    rw [FileName.withExtension_of_hasExtension plain has] at located
    have again := follow_of_locateForWriting cut ahead located notDirectory
    rcases Except.ok.inj (followed.symm.trans again) with ⟨rfl⟩
    exact openFile_of_rewrites rewrites opened leads rewrites.written

end Whirlwind.Directory
