import Whirlwind.Files.FileName
import Whirlwind.Files.IoError

/-!
# Directories

The files that can be named from a working directory, and what a path leads to.
A path starts at the working directory or at the root.  It can climb out of a
directory as well as go into one, and a name on it may be a link: then the path
goes on where the link leads to.
-/

namespace Whirlwind

/-- What can be read behind a name: the bytes of a file, or nothing at all. -/
inductive Source where
  | file (content : ByteArray)
  /-- A directory can be opened, but not read. -/
  | directory

/-- Files are equal if their bytes are. -/
instance : DecidableEq Source
  | .file left, .file right =>
      decidable_of_iff (left.data = right.data)
        ⟨fun same => congrArg Source.file (ByteArray.ext same),
          fun same => congrArg ByteArray.data (Source.file.inj same)⟩
  | .directory, .directory => isTrue rfl
  | .file _, .directory => isFalse nofun
  | .directory, .file _ => isFalse nofun

namespace Directory

/-- Where a path leads. -/
inductive Place where
  /-- The working directory, one that this is in, or the root.  The name of an
  entry there stands behind `front`. -/
  | base (front : FileName)
  /-- An entry, which need not exist. -/
  | entry (path : FileName)
  deriving DecidableEq, Repr

end Directory

/-- What there is under a name in a directory. -/
inductive Entry where
  | file (content : ByteArray)
  | directory
  /-- Another name for what is at a place, where no link is. -/
  | link (place : Directory.Place)

/-- Entries are equal if their bytes or their places are. -/
instance : DecidableEq Entry
  | .file left, .file right =>
      decidable_of_iff (left.data = right.data)
        ⟨fun same => congrArg Entry.file (ByteArray.ext same),
          fun same => congrArg ByteArray.data (Entry.file.inj same)⟩
  | .directory, .directory => isTrue rfl
  | .link left, .link right =>
      decidable_of_iff (left = right)
        ⟨congrArg Entry.link, Entry.link.inj⟩
  | .file _, .directory => isFalse nofun
  | .file _, .link _ => isFalse nofun
  | .directory, .file _ => isFalse nofun
  | .directory, .link _ => isFalse nofun
  | .link _, .file _ => isFalse nofun
  | .link _, .directory => isFalse nofun

/-- All entries by their paths, which start at the working directory or at the
root and have no parts that stand for a place themselves, except that they may
climb at their start. -/
structure Directory where
  entries : List (FileName × Entry) := []
  deriving DecidableEq

namespace Directory

open FileName (slash dot)

/-- The entry with a path. -/
def get? (directory : Directory) (path : FileName) : Option Entry :=
  directory.entries.lookup path

/-- The greatest number of bytes in the name of an entry. -/
def nameLimit : Nat :=
  255

/-- The greatest number of bytes in a path. -/
def pathLimit : Nat :=
  4095

/-! ## Places -/

/-- Whether a path climbs out of the working directory and goes nowhere else. -/
def climbs : FileName → Bool
  | [] => true
  | 46 :: 46 :: 47 :: rest => climbs rest
  | _ => false

/-- The path of an entry with a name in the directory at a place. -/
def Place.inside (part : List UInt8) : Place → FileName
  | .base front => front ++ part
  | .entry path => path ++ slash :: part

/-- The directory that a place is in.  The root is in itself. -/
def Place.outer : Place → Place
  | .base front =>
      if front = [slash] then .base front
      else .base (front ++ [dot, dot, slash])
  | .entry path =>
      let front := (path.reverse.dropWhile (· != slash)).reverse
      if front = [slash] || climbs front then .base front
      else .entry front.dropLast

/-- Whether there is a directory at a place, and why there is none. -/
def enter (directory : Directory) : Place → Except IoError Unit
  | .base _ => .ok ⟨⟩
  | .entry path =>
      match directory.get? path with
      | none => .error .notFound
      | some (.file _) => .error .notDirectory
      | some .directory => .ok ⟨⟩
      | some (.link _) => .error .tooManyLinks

/-- Where the path of an entry leads: to the entry, unless it is a link. -/
def follow (directory : Directory) (path : FileName) : Except IoError Place :=
  match directory.get? path with
  | some (.link place) => do
      directory.enter place.outer
      return place
  | _ => .ok (.entry path)

/-- Go on from a place, where there has to be a directory, by one part of a
path. -/
def step (directory : Directory) (place : Place) (part : List UInt8) :
    Except IoError Place := do
  directory.enter place
  if part = [dot] then return place
  else if part = [dot, dot] then
    directory.enter place.outer
    return place.outer
  else if nameLimit < part.length then throw .nameTooLong
  else directory.follow (place.inside part)

/-! ## Paths -/

/-- The parts of a path, without the slashes between them. -/
def parts (path : FileName) : List (List UInt8) :=
  (Text.lines slash path).filterMap fun piece =>
    match piece.filter (· != slash) with
    | [] => none
    | part => some part

/-- Whether a path ends in a slash, so that it has to lead to a directory. -/
def endsInSlash (path : FileName) : Bool :=
  path.getLast? = some slash

/-- Where the first part of a path is looked up. -/
def start (path : FileName) : Place :=
  if path.head? = some slash then .base [slash] else .base []

/-- Where the parts of a path lead, if the path itself can be one. -/
def walk (directory : Directory) (path : FileName)
    (parts : List (List UInt8)) : Except IoError Place :=
  if path.contains 0 then .error .zeroInName
  else if path = [] then .error .notFound
  else if pathLimit < path.length then .error .nameTooLong
  else parts.foldlM (step directory) (start path)

/-- Where a path leads. -/
def locate (directory : Directory) (path : FileName) : Except IoError Place :=
  directory.walk path (parts path)

/--
Where a file that is to be written belongs.  A path with a slash at its end
leads to no file, whatever its last part is; only the parts before that one
are looked up.
-/
def locateForWriting (directory : Directory) (path : FileName) :
    Except IoError Place :=
  directory.walk path
    (if endsInSlash path then (parts path).dropLast ++ [[dot]]
    else parts path)

/-! ## Files -/

/-- Open what a path leads to for reading. -/
def openFile (directory : Directory) (path : FileName) :
    Except IoError Source := do
  match ← directory.locate path with
  | .base _ => return .directory
  | .entry name =>
      match directory.get? name with
      | none => throw .notFound
      | some (.link _) => throw .tooManyLinks
      | some .directory => return .directory
      | some (.file content) =>
          if endsInSlash path then throw .notDirectory
          else return .file content

/-- Replace the entry with a path, or add it behind the others. -/
def put (path : FileName) (entry : Entry) :
    List (FileName × Entry) → List (FileName × Entry)
  | [] => [(path, entry)]
  | other :: rest =>
      if other.1 = path then (path, entry) :: rest
      else other :: put path entry rest

/-- Let the entry with a path be a file with a content. -/
def fill (directory : Directory) (name : FileName) (content : ByteArray) :
    Directory :=
  ⟨put name (.file content) directory.entries⟩

/-- What the file with a path holds. -/
def content (directory : Directory) (name : FileName) : ByteArray :=
  match directory.get? name with
  | some (.file content) => content
  | _ => .empty

/-- Open a file for writing, with the path of its entry.  The file is empty
then, whether there has been one before or not. -/
def create (directory : Directory) (path : FileName) :
    Except IoError (FileName × Directory) := do
  match ← directory.locateForWriting path with
  | .base _ => throw .isDirectory
  | .entry name =>
      match directory.get? name with
      | some .directory => throw .isDirectory
      | some (.link _) => throw .tooManyLinks
      | _ => return (name, directory.fill name .empty)

/-- Write a whole file, which is made if it does not exist. -/
def writeFile (directory : Directory) (path : FileName) (content : ByteArray) :
    Except IoError Directory := do
  let (name, created) ← directory.create path
  return created.fill name content

end Directory

end Whirlwind
