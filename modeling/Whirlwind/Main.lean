import Whirlwind.CommandLine.Run

/-!
# The tools

The program behind both tools.  Its first argument names the tool, and the
others are the tool's command line.
-/

namespace Whirlwind

/-- Why the system refused something. -/
def systemError : IO.Error → IoError
  | .noFileOrDirectory .. => .notFound
  | other => .other (toString other)

/-- Do something in the system. -/
def withSystem {Result : Type} (action : IO Result) :
    IO (Except IoError Result) := do
  match ← action.toBaseIO with
  | .ok result => return .ok result
  | .error error => return .error (systemError error)

/-- Open a file and take what can be read of it. -/
def openSystemFile (name : FileName) : IO (Except IoError Source) :=
  withSystem do
    let handle ← IO.FS.Handle.mk name.toText .read
    match ← handle.readBinToEnd.toBaseIO with
    | .ok content => return .file content
    | .error _ => return .directory

/-- Write to a stream. -/
def writeStream (stream : IO.FS.Stream) (bytes : ByteArray) :
    IO (Except IoError PUnit) :=
  withSystem do
    stream.write bytes
    stream.flush

/-- The system as a host. -/
def systemHost : Host IO where
  openFile := openSystemFile
  Handle := IO.FS.Handle
  createFile := fun name => withSystem (IO.FS.Handle.mk name.toText .write)
  writeFile := fun handle bytes =>
    withSystem do
      handle.write bytes
      handle.flush
  writeOutput := fun bytes => do writeStream (← IO.getStdout) bytes
  writeDiagnostics := fun bytes => do writeStream (← IO.getStderr) bytes

/-- The tool with a name. -/
def tool? : String → Option CommandLine.Tool
  | "check" => some .check
  | "rebuild" => some .rebuild
  | _ => none

end Whirlwind

def main (arguments : List String) : IO UInt32 := do
  match arguments with
  | name :: rest =>
      match Whirlwind.tool? name with
      | some tool =>
          let exit ← Whirlwind.CommandLine.run Whirlwind.systemHost tool
            (rest.map Whirlwind.Text.encode)
          return exit.code
      | none => return Whirlwind.CommandLine.Exit.misused.code
  | [] => return Whirlwind.CommandLine.Exit.misused.code
