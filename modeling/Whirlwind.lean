import Whirlwind.Check.Basic
import Whirlwind.Check.Run
import Whirlwind.CommandLine.Invocation
import Whirlwind.CommandLine.Options
import Whirlwind.CommandLine.Run
import Whirlwind.Debugger.Basic
import Whirlwind.Debugger.Breakpoints
import Whirlwind.Debugger.Command
import Whirlwind.Debugger.Display
import Whirlwind.Debugger.Error
import Whirlwind.Debugger.Execute
import Whirlwind.Debugger.Machine
import Whirlwind.Debugger.Print
import Whirlwind.Debugger.Prompt
import Whirlwind.Eval.Basic
import Whirlwind.Eval.Symbols
import Whirlwind.Eval.Value
import Whirlwind.Expr.Basic
import Whirlwind.Expr.Listing
import Whirlwind.Expr.Parser
import Whirlwind.Files.Directory
import Whirlwind.Files.FileName
import Whirlwind.Files.Host
import Whirlwind.Files.IoError
import Whirlwind.Files.Sink
import Whirlwind.Files.SourceLines
import Whirlwind.Fraction.Basic
import Whirlwind.Fraction.Shortest
import Whirlwind.Grammar
import Whirlwind.Line.Basic
import Whirlwind.Line.Parser
import Whirlwind.Line.Sequence
import Whirlwind.Machine.Address
import Whirlwind.Machine.Integer
import Whirlwind.Machine.RangeError
import Whirlwind.Machine.Word
import Whirlwind.Main
import Whirlwind.OrderedMap
import Whirlwind.Proofs.Expr.Acceptance
import Whirlwind.Proofs.Expr.Alphabet
import Whirlwind.Proofs.Expr.Completeness
import Whirlwind.Proofs.Expr.Grammar
import Whirlwind.Proofs.Expr.Listing
import Whirlwind.Proofs.Expr.Outcome
import Whirlwind.Proofs.Expr.Relisting
import Whirlwind.Proofs.Expr.Shape
import Whirlwind.Proofs.Expr.Soundness
import Whirlwind.Proofs.Line.Acceptance
import Whirlwind.Proofs.Line.Listing
import Whirlwind.Proofs.Line.Reading
import Whirlwind.Proofs.Line.Reformat
import Whirlwind.Proofs.Source.Facing
import Whirlwind.Proofs.Text.Decimal
import Whirlwind.Proofs.Text.Trim
import Whirlwind.Proofs.Token.Action
import Whirlwind.Proofs.Token.Alphabet
import Whirlwind.Proofs.Token.Finding
import Whirlwind.Proofs.Token.Lexing
import Whirlwind.Proofs.Token.Passage
import Whirlwind.Proofs.Token.Shape
import Whirlwind.Proofs.Token.Word
import Whirlwind.Rebuild.Run
import Whirlwind.Rebuild.Target
import Whirlwind.Report.Attempt
import Whirlwind.Report.Failure
import Whirlwind.Report.Input
import Whirlwind.Report.Line
import Whirlwind.Source.Cursor
import Whirlwind.Source.Location
import Whirlwind.Source.SyntaxError
import Whirlwind.Tape.Naming
import Whirlwind.Tape.Rebuilt
import Whirlwind.Text.Blank
import Whirlwind.Text.Lines
import Whirlwind.Text.Numeral
import Whirlwind.Text.Printable
import Whirlwind.Text.Quoted
import Whirlwind.Text.Utf8
import Whirlwind.Token.Basic
import Whirlwind.Token.Lexer
import Whirlwind.Token.Lexer.Weight
import Whirlwind.Token.Scan
import Whirlwind.Token.Scan.Span
import Whirlwind.Token.Stream
import Whirlwind.Proofs.Line.Command
import Whirlwind.Proofs.Tape.Record
import Whirlwind.Proofs.Tape.Fields
import Whirlwind.Proofs.Tape.Naming
import Whirlwind.Proofs.Tape.Section
import Whirlwind.Proofs.Tape.Layout
import Whirlwind.Proofs.Tape.Writing
import Whirlwind.Proofs.Tape.Preservation
import Whirlwind.Proofs.Line.Marks
import Whirlwind.Proofs.Tape.Acceptance
import Whirlwind.Proofs.Expr.Names
import Whirlwind.Proofs.Tape.Reference
import Whirlwind.Proofs.Source.Standing
import Whirlwind.Proofs.Token.LineEnd
import Whirlwind.Proofs.Token.Written
import Whirlwind.Proofs.Token.Sequence
import Whirlwind.Proofs.Token.Standing
import Whirlwind.Proofs.Token.Tiling
import Whirlwind.Proofs.Token.Locality
import Whirlwind.Proofs.Token.Simulation
import Whirlwind.Proofs.Expr.Simulation
import Whirlwind.Proofs.Line.Simulation
import Whirlwind.Proofs.Line.Room
import Whirlwind.Proofs.Source.Numbering
import Whirlwind.Proofs.Token.Pointing
import Whirlwind.Proofs.Line.Pointing
import Whirlwind.Proofs.Token.Replay
import Whirlwind.Proofs.Machine.Integer
import Whirlwind.Proofs.Eval.Arithmetic
import Whirlwind.Proofs.Eval.Exact
import Whirlwind.Proofs.Eval.Calculator
import Whirlwind.Proofs.Eval.Symbols
import Whirlwind.Proofs.Eval.Growth
import Whirlwind.Proofs.Debugger.OrderedMap
import Whirlwind.Proofs.Debugger.Breakpoints
import Whirlwind.Proofs.Debugger.Effect
import Whirlwind.Proofs.Debugger.Request
import Whirlwind.Proofs.Debugger.Frame
import Whirlwind.Proofs.Debugger.History
import Whirlwind.Proofs.Text.Utf8
import Whirlwind.Proofs.Files.Writing
import Whirlwind.Proofs.Debugger.Settled
import Whirlwind.Proofs.Debugger.Conversation
import Whirlwind.Proofs.Debugger.Resting
import Whirlwind.Proofs.Check.Counting
import Whirlwind.Proofs.Expr.Statements
import Whirlwind.Proofs.Check.Statements
import Whirlwind.Proofs.Files.Directory
import Whirlwind.Proofs.Line.Sequence
import Whirlwind.Proofs.Rebuild.Frame
import Whirlwind.Proofs.Line.Grammar
import Whirlwind.Proofs.Expr.Quoting
import Whirlwind.Proofs.Expr.Parentheses
import Whirlwind.Proofs.Debugger.Arguments
import Whirlwind.Proofs.Tape.Labels
import Whirlwind.Proofs.Tape.Directives
import Whirlwind.Proofs.Debugger.Block
import Whirlwind.Proofs.Eval.Numeral
import Whirlwind.Proofs.Expr.Numeral
import Whirlwind.Proofs.Eval.Address
import Whirlwind.Proofs.Token.Ending
import Whirlwind.Proofs.Token.Cutting
import Whirlwind.Proofs.Token.Spacing
import Whirlwind.Proofs.Line.RawOperand
import Whirlwind.Proofs.Line.Presence
import Whirlwind.Proofs.Eval.Definitions
import Whirlwind.Proofs.Fraction.Nearest
import Whirlwind.Proofs.Eval.Dotted
import Whirlwind.Proofs.Expr.Arguments
import Whirlwind.Proofs.Debugger.Formats
import Whirlwind.Proofs.Source.Indexing
import Whirlwind.Proofs.Machine.Conversion
import Whirlwind.Proofs.Files.FileName
import Whirlwind.Proofs.Files.Path
import Whirlwind.Proofs.Rebuild.Beside
import Whirlwind.Proofs.Token.Following
import Whirlwind.Proofs.Expr.Digits
import Whirlwind.Proofs.Line.Digits
import Whirlwind.Proofs.Token.Automaton
import Whirlwind.Proofs.Token.Stepping
import Whirlwind.Proofs.Token.Reaching
import Whirlwind.Proofs.Token.Agreeing
import Whirlwind.Proofs.Token.Outliving
