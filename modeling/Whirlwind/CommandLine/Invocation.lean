import Whirlwind.Check.Basic
import Whirlwind.CommandLine.Options
import Whirlwind.Machine.Integer
import Whirlwind.Rebuild.Target

/-!
# Invocations

What the command lines of the two tools ask for.  Each takes one input file.
No option may be given twice.
-/

namespace Whirlwind.CommandLine

/-- A tool. -/
inductive Tool where
  /-- Checks a source. -/
  | check
  /-- Rebuilds assembly source from a tape listing. -/
  | rebuild
  deriving DecidableEq, Repr

/-- The options of the tools. -/
inductive OptionName where
  | grammar
  | verbose
  | reformat
  | maxErrors
  | output
  | help
  | version
  deriving DecidableEq, Repr

/-- The options that a tool has. -/
def Tool.forms : Tool → List (OptionForm OptionName)
  | .check =>
      [{ name := .grammar, long := "grammar", takesValue := true },
        { name := .verbose, long := "verbose", letter := some 118 },
        { name := .reformat, long := "reformat" },
        { name := .maxErrors, long := "max-errors", takesValue := true },
        { name := .help, long := "help", letter := some 104 },
        { name := .version, long := "version", letter := some 86 }]
  | .rebuild =>
      [{ name := .output, long := "output", letter := some 111,
          takesValue := true },
        { name := .help, long := "help", letter := some 104 },
        { name := .version, long := "version", letter := some 86 }]

/-- The values that the options of a command line set. -/
structure Settings where
  input : Option FileName := none
  grammar : Option Grammar := none
  verbose : Bool := false
  reformat : Bool := false
  maxErrors : Option Nat := none
  output : Option FileName := none
  deriving DecidableEq, Repr

/-- Why a command line asks for nothing that is to be done. -/
inductive Refusal where
  /-- It is not well formed. -/
  | usage
  /-- It asks about the tool. -/
  | information
  deriving DecidableEq, Repr

/-- The notation with a name. -/
def grammar? (name : Argument) : Option Grammar :=
  match Text.decode? name with
  | some "assembly" => some .assembly
  | some "tape" => some .tape
  | some "expression" => some .expression
  | some "debugger" => some .debugger
  | _ => none

/-- The greatest count that can be given. -/
def greatestCount : Nat :=
  0xffffffffffffffff

/-- The count that digits stand for, which may have a plus in front. -/
def count? (digits : Argument) : Option Nat := do
  let text ← Text.decode? digits
  let digits := match text.toList with
    | '+' :: digits => digits
    | digits => digits
  let number ← Integer.numeral? 10 digits
  if number ≤ greatestCount then some number else none

/-- Set something that has not been set before. -/
def setOnce {Value : Type} (current found : Option Value)
    (store : Value → Settings) : Except Refusal Settings :=
  match current, found with
  | none, some value => .ok (store value)
  | _, _ => .error .usage

/-- Set a flag that has not been set before. -/
def setFlag (current : Bool) (changed : Settings) : Except Refusal Settings :=
  if current then .error .usage else .ok changed

namespace Settings

/-- Apply an item of a command line. -/
def apply (settings : Settings) : Item OptionName → Except Refusal Settings
  | .positional name =>
      setOnce settings.input (some name) fun name =>
        { settings with input := some name }
  | .setting .grammar value =>
      setOnce settings.grammar (grammar? value) fun grammar =>
        { settings with grammar := some grammar }
  | .setting .maxErrors value =>
      setOnce settings.maxErrors (count? value) fun count =>
        { settings with maxErrors := some count }
  | .setting .output value =>
      setOnce settings.output (some value) fun name =>
        { settings with output := some name }
  | .flag .verbose =>
      setFlag settings.verbose { settings with verbose := true }
  | .flag .reformat =>
      setFlag settings.reformat { settings with reformat := true }
  | .flag .help | .flag .version => .error .information
  | .flag _ | .setting _ _ | .unusable => .error .usage

end Settings

/-- What a command line asks for. -/
inductive Invocation where
  | check (options : Check.Options) (input : FileName)
  | rebuild (input : FileName) (target : Rebuild.Target)
  deriving DecidableEq, Repr

/-- The target that settings ask for. -/
def Settings.target (settings : Settings) (input : FileName) :
    Rebuild.Target :=
  match settings.output with
  | some name => .ofName name
  | none => .beside input

/-- What the arguments of a tool ask for. -/
def Invocation.ofArguments (tool : Tool) (arguments : List Argument) :
    Except Refusal Invocation := do
  let settings ← (items tool.forms arguments).foldlM Settings.apply {}
  match settings.input, tool with
  | none, _ => throw .usage
  | some input, .check =>
      return .check
        { grammar := settings.grammar.getD .assembly
          verbose := settings.verbose
          reformat := settings.reformat
          maxErrors := settings.maxErrors }
        input
  | some input, .rebuild => return .rebuild input (settings.target input)

end Whirlwind.CommandLine
