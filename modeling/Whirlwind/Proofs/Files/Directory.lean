import Whirlwind.Files.Host
import Whirlwind.Proofs.Files.Writing

/-!
# What writing a file changes

A file that is made or grows is one entry of its directory.  Every other entry
is what it was before, and if the file cannot be made, nothing changes at all.
-/

namespace Whirlwind

namespace Directory

variable {name other path : FileName} {entry : Entry}
  {before between after : Directory} {content first : ByteArray}

/-- An entry that was put is found. -/
@[simp]
theorem lookup_put_self (name : FileName) (entry : Entry)
    (entries : List (FileName × Entry)) :
    (put name entry entries).lookup name = some entry := by
  induction entries with
  | nil => simp [put]
  | cons other rest ih =>
      rw [put]
      split
      · simp
      · next apart =>
        rw [List.lookup_cons, beq_false_of_ne (Ne.symm apart)]
        exact ih

/-- Putting an entry leaves the others alone. -/
theorem lookup_put_of_ne (apart : other ≠ name) (entry : Entry)
    (entries : List (FileName × Entry)) :
    (put name entry entries).lookup other = entries.lookup other := by
  induction entries with
  | nil => simp [put, List.lookup_cons, beq_false_of_ne apart]
  | cons found rest ih =>
      rcases found with ⟨key, kept⟩
      rw [put]
      split
      · next same =>
        rcases (show key = name from same) with rfl
        simp [List.lookup_cons, beq_false_of_ne apart]
      · rw [List.lookup_cons, List.lookup_cons, ih]

/-- What a file holds is its content. -/
theorem content_of_get? (found : before.get? name = some (.file content)) :
    before.content name = content := by
  rw [Directory.content, found]

/-- A file was written as an entry that was a file or nothing, and no other
entry was changed. -/
structure Rewrites (before : Directory) (name : FileName)
    (content : ByteArray) (after : Directory) : Prop where
  replaced : ∀ entry, before.get? name = some entry →
    ∃ old, entry = .file old
  written : after.get? name = some (.file content)
  others : ∀ other, other ≠ name → after.get? other = before.get? other

/-- Where a file can be written, filling it writes it. -/
theorem rewrites_fill
    (replaced : ∀ entry, before.get? name = some entry →
      ∃ old, entry = .file old) (content : ByteArray) :
    before.Rewrites name content (before.fill name content) where
  replaced := replaced
  written := lookup_put_self _ _ _
  others := fun _ apart => lookup_put_of_ne apart _ _

/-- A file that is written over and over was written at last. -/
theorem Rewrites.trans (now : before.Rewrites name first between)
    (later : between.Rewrites name content after) :
    before.Rewrites name content after where
  replaced := now.replaced
  written := later.written
  others := fun other apart =>
    (later.others other apart).trans (now.others other apart)

/-- A file that is made is the entry that its path leads to, and is empty. -/
theorem rewrites_of_create (created : before.create path = .ok (name, after)) :
    before.locateForWriting path = .ok (.entry name) ∧
      before.Rewrites name .empty after := by
  unfold create at created
  rcases located : before.locateForWriting path with error | place
  · rw [located] at created
    cases created
  rw [located] at created
  cases place with
  | base front => cases created
  | entry entry =>
      dsimp only [bind, Except.bind] at created
      split at created
      · cases created
      · cases created
      · next notDirectory notLink =>
        rcases Except.ok.inj created with ⟨rfl, rfl⟩
        refine ⟨rfl, rewrites_fill (fun found known => ?_) _⟩
        cases found with
        | file old => exact ⟨old, rfl⟩
        | directory => exact absurd known notDirectory
        | link place => exact absurd known (notLink place)

/-- A whole file is written where its path leads. -/
theorem rewrites_of_writeFile
    (wrote : before.writeFile path content = .ok after) :
    ∃ name, before.locateForWriting path = .ok (.entry name) ∧
      before.Rewrites name content after := by
  unfold writeFile at wrote
  rcases created : before.create path with error | ⟨name, between⟩
  · rw [created] at wrote
    cases wrote
  rw [created] at wrote
  rcases Except.ok.inj wrote with rfl
  rcases rewrites_of_create created with ⟨located, emptied⟩
  refine ⟨name, located, emptied.trans (rewrites_fill (fun found known => ?_) _)⟩
  exact ⟨.empty, Option.some.inj (known.symm.trans emptied.written)⟩

end Directory

namespace Workspace

variable {workspace between after : Workspace} {entry : FileName}
  {bytes first second : ByteArray}

/-- Bytes were written behind what a file held, and nothing else was changed but
the room on the disk. -/
structure Grows (workspace : Workspace) (entry : FileName) (bytes : ByteArray)
    (after : Workspace) : Prop where
  directory : ∀ old, workspace.directory.get? entry = some (.file old) →
    workspace.directory.Rewrites entry (old ++ bytes) after.directory
  output : after.output = workspace.output
  diagnostics : after.diagnostics = workspace.diagnostics

/-- Nothing needs to be done to write nothing. -/
theorem Grows.refl (workspace : Workspace) (entry : FileName) :
    workspace.Grows entry .empty workspace where
  directory := fun old found => by
    rw [ByteArray.append_empty]
    refine ⟨fun other known => ⟨old, ?_⟩, found, fun _ _ => rfl⟩
    exact Option.some.inj (known.symm.trans found)
  output := rfl
  diagnostics := rfl

/-- A file that grows twice grows by all that is written. -/
theorem Grows.trans (now : workspace.Grows entry first between)
    (later : between.Grows entry second after) :
    workspace.Grows entry (first ++ second) after where
  directory := fun old found => by
    have grown := now.directory old found
    rw [← ByteArray.append_assoc]
    exact grown.trans (later.directory _ grown.written)
  output := later.output.trans now.output
  diagnostics := later.diagnostics.trans now.diagnostics

/-- A file grows by all bytes that are written, or else by those in front. -/
theorem grows_of_writeFile {answer : Except IoError PUnit}
    (wrote : (writeFile entry bytes).run workspace = (answer, after)) :
    answer = .ok ⟨⟩ ∧ workspace.Grows entry bytes after ∨
      ∃ error part rest, answer = .error error ∧ part ++ rest = bytes ∧
        workspace.Grows entry part after := by
  have grows (sink : Sink) (part : ByteArray)
      (accepted : sink.accepted =
        workspace.directory.content entry ++ part) :
      workspace.Grows entry part
        { workspace with
          directory := workspace.directory.fill entry sink.accepted
          disk := sink.room } := by
    refine ⟨fun old found => ?_, rfl, rfl⟩
    rw [accepted, Directory.content_of_get? found]
    refine Directory.rewrites_fill (fun other known => ⟨old, ?_⟩) _
    exact Option.some.inj (known.symm.trans found)
  unfold writeFile StateT.run at wrote
  dsimp only at wrote
  split at wrote
  · next sink taken =>
    rcases Prod.mk.inj wrote with ⟨rfl, rfl⟩
    exact Or.inl ⟨rfl, grows sink bytes (Sink.accepted_of_writeBytes taken)⟩
  · next sink refused =>
    rcases Prod.mk.inj wrote with ⟨rfl, rfl⟩
    rcases Sink.accepted_of_writeBytes_error refused with
      ⟨part, rest, parts, accepted⟩
    exact Or.inr ⟨_, part, rest, rfl, parts, grows sink part accepted⟩

/-- Making a file empties it or changes nothing. -/
theorem createFile_cases {name : FileName} {answer : Except IoError FileName}
    (created : (createFile name).run workspace = (answer, after)) :
    (∃ entry directory, answer = .ok entry ∧
      workspace.directory.create name = .ok (entry, directory) ∧
        after = { workspace with directory := directory }) ∨
    ∃ error, answer = .error error ∧ after = workspace := by
  unfold createFile StateT.run at created
  dsimp only at created
  split at created
  · rcases Prod.mk.inj created with ⟨rfl, rfl⟩
    exact Or.inr ⟨_, rfl, rfl⟩
  · next entry directory made =>
    rcases Prod.mk.inj created with ⟨rfl, rfl⟩
    exact Or.inl ⟨entry, directory, rfl, made, rfl⟩

end Workspace

end Whirlwind
