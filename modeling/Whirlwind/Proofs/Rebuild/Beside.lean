import Whirlwind.Proofs.Files.Path
import Whirlwind.Proofs.Rebuild.Frame
import Whirlwind.Rebuild.Target

/-!
# Rebuilding beside a listing

Unless a target is given, rebuilt source goes to the name of the listing with
another extension.  That is the name of another file, so that the listing is
kept, unless the listing has just this extension itself: then the rebuilt
source, or as much of it as could be written, stands in its place.  A link from
the one name to the other has the same effect.
-/

namespace Whirlwind.Rebuild

open FileName (HasExtension)

variable {diagnose : ByteArray → StateM Workspace (Except IoError PUnit)}
  {workspace after : Workspace} {name : FileName}
  {result : Except Failure PUnit}

/-- The extension of rebuilt source. -/
def sourceExtension : List UInt8 :=
  FileName.ofString "ww"

theorem slash_not_mem_sourceExtension : FileName.slash ∉ sourceExtension := by
  decide

theorem dot_not_mem_sourceExtension : FileName.dot ∉ sourceExtension := by
  decide

/-- What is written beside a listing goes to another file, unless its name has
the extension of rebuilt source or there is a link. -/
theorem Writes.openFile {texts : List String} {written : ByteArray}
    (writes : Writes workspace name (name.withExtension sourceExtension) texts
      written after) :
    ∃ content, workspace.directory.openFile name = .ok (.file content) ∧
      (Source.file content).readLines = .ok texts ∧
      (¬ HasExtension sourceExtension name →
        workspace.directory.KnownByOneName name →
          after.directory.openFile name = .ok (.file content)) ∧
      (HasExtension sourceExtension name →
        after.directory.openFile name = .ok (.file written)) := by
  rcases writes.opened with ⟨source, opened, read⟩
  rcases writes.placed with ⟨entry, located, rewrites⟩
  cases source with
  | directory => cases read
  | file content =>
      exact ⟨content, opened, read,
        Directory.openFile_of_rewrites_withExtension rewrites
          slash_not_mem_sourceExtension dot_not_mem_sourceExtension opened
          located⟩

end Whirlwind.Rebuild
