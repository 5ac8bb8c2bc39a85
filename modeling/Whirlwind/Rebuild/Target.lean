import Whirlwind.Files.FileName

/-!
# Output targets

Rebuilt source is written to a file or shown to the user.  A hyphen stands for
the latter.  Unless a target is given the source is written beside the listing,
under the same name with another extension.
-/

namespace Whirlwind.Rebuild

/-- Where rebuilt source is written. -/
inductive Target where
  | standardOutput
  | file (name : FileName)
  deriving DecidableEq, Repr

/-- The target that a name stands for. -/
def Target.ofName (name : FileName) : Target :=
  if name = FileName.ofString "-" then .standardOutput else .file name

/-- The file beside a listing, which is written unless a target is given. -/
def Target.beside (listing : FileName) : Target :=
  .file (listing.withExtension (FileName.ofString "ww"))

end Whirlwind.Rebuild
