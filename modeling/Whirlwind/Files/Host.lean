import Whirlwind.Files.Directory
import Whirlwind.Files.Sink

/-!
# Hosts

A tool runs on a host, which opens and writes files and takes what the tool
writes to the user.  A workspace is a host by itself: a directory, a disk that
its files are on and two sinks.
-/

namespace Whirlwind

/-- What a tool can do outside itself, each with an effect. -/
structure Host (Effect : Type → Type) where
  openFile : FileName → Effect (Except IoError Source)
  /-- A file that has been opened for writing. -/
  Handle : Type
  /-- Make a file, or empty the one that there is. -/
  createFile : FileName → Effect (Except IoError Handle)
  /-- Write behind what has been written to a file. -/
  writeFile : Handle → ByteArray → Effect (Except IoError PUnit)
  writeOutput : ByteArray → Effect (Except IoError PUnit)
  writeDiagnostics : ByteArray → Effect (Except IoError PUnit)

/-- A directory, and what has been written for the user to see. -/
structure Workspace where
  directory : Directory := {}
  output : Sink := {}
  diagnostics : Sink := {}
  /-- How many bytes more files can take.  There is no limit if this is
  missing. -/
  disk : Option Nat := none
  deriving DecidableEq

namespace Workspace

/-- Open a file in the directory for writing. -/
def createFile (name : FileName) :
    StateM Workspace (Except IoError FileName) := fun workspace =>
  match workspace.directory.create name with
  | .error error => (.error error, workspace)
  | .ok (entry, directory) =>
      (.ok entry, { workspace with directory := directory })

/-- Write behind what a file holds.  What fits on the disk is written, even if
not all does. -/
def writeFile (entry : FileName) (bytes : ByteArray) :
    StateM Workspace (Except IoError PUnit) := fun workspace =>
  let file : Sink :=
    { accepted := workspace.directory.content entry
      room := workspace.disk }
  let grown (sink : Sink) : Workspace :=
    { workspace with
      directory := workspace.directory.fill entry sink.accepted
      disk := sink.room }
  match (Sink.writeBytes bytes).run file with
  | .ok _ sink => (.ok ⟨⟩, grown sink)
  | .error _ sink => (.error .noSpace, grown sink)

/-- Write to the output. -/
def writeOutput (bytes : ByteArray) :
    StateM Workspace (Except IoError PUnit) := fun workspace =>
  match (Sink.writeBytes bytes).run workspace.output with
  | .ok _ output => (.ok ⟨⟩, { workspace with output := output })
  | .error error output => (.error error, { workspace with output := output })

/-- Write to the diagnostics. -/
def writeDiagnostics (bytes : ByteArray) :
    StateM Workspace (Except IoError PUnit) := fun workspace =>
  match (Sink.writeBytes bytes).run workspace.diagnostics with
  | .ok _ diagnostics =>
      (.ok ⟨⟩, { workspace with diagnostics := diagnostics })
  | .error error diagnostics =>
      (.error error, { workspace with diagnostics := diagnostics })

/-- A workspace as a host. -/
def host : Host (StateM Workspace) where
  openFile := fun name => do return (← get).directory.openFile name
  Handle := FileName
  createFile := createFile
  writeFile := writeFile
  writeOutput := writeOutput
  writeDiagnostics := writeDiagnostics

end Workspace

end Whirlwind
