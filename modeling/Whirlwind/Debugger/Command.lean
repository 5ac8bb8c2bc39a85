/-!
# Debugger commands

The commands that can be typed at the prompt, the names that they go by, and
what the help says of them.
-/

namespace Whirlwind

/-- A debugger command. -/
inductive Command where
  | print
  | printBlock
  | run
  | step
  | restart
  | setBreakpoints
  | deleteBreakpoints
  | listBreakpoints
  | help
  | quit
  deriving DecidableEq, Repr

namespace Command

/-- All commands, in the order in which the help lists them. -/
def all : List Command :=
  [.print, .printBlock, .run, .step, .restart, .setBreakpoints,
    .deleteBreakpoints, .listBreakpoints, .help, .quit]

/-- The names of a command.  Quitting has no short name, which would be typed
too easily. -/
def names : Command → List String
  | .print => ["p"]
  | .printBlock => ["pb"]
  | .run => ["r"]
  | .step => ["s"]
  | .restart => ["rs"]
  | .setBreakpoints => ["b"]
  | .deleteBreakpoints => ["bd"]
  | .listBreakpoints => ["bl"]
  | .help => ["h", "help"]
  | .quit => ["quit"]

/-- What the help says of a command. -/
def helpText : Command → String
  | .print =>
      "p\t<expr> [, format]\twhere format = o: octal, d: decimal, " ++
        "fr: fraction, i: instruction\n\t\tprint an address and its " ++
        "contents, or just the value if a register is specified"
  | .printBlock =>
      "pb\t<addr>, <nwords> [, format]\n" ++
        "\t\tprint a block of <nwords> starting at <addr>"
  | .run => "r\trun program from current pc"
  | .step => "s\tstep program one instruction"
  | .restart => "rs\trestart program"
  | .setBreakpoints =>
      "b\t<addr>1,...,<addr>N\n\t\tdefine a breakpoint for each given " ++
        "address. Prints breakpoint id and corresponding address"
  | .deleteBreakpoints =>
      "bd\t<bkptid>1,...,<bkptid>N\n" ++
        "\t\tdelete breakpoint defined by each given id"
  | .listBreakpoints => "bl\tlist breakpoints"
  | .help => "h\tprint help"
  | .quit => "quit\texit debugger and simulator"

/--
The positions, from zero, of the arguments where a bare name stands for itself
and is not looked up.
-/
def literalArguments : Command → List Nat
  | .print => [1]
  | .printBlock => [2]
  | _ => []

/-- The command that goes by a name. -/
def ofName? (name : String) : Option Command :=
  all.find? fun command => command.names.contains name

end Command

end Whirlwind
