import Whirlwind.Proofs.Debugger.Request
import Whirlwind.Proofs.Expr.Arguments

/-!
# Names of formats

A print and a block print can be told a format by its name.  A bare name in that
place is taken literally, so that neither a symbol nor a register of that name
has a say in what the command does (`Debugging.endsAlike_executeText`).
-/

namespace Whirlwind

/-! ## What is looked up -/

/-- An expression has one value wherever the names in it stand for the same. -/
theorem Expr.evaluate_congr {one other : Environment} {expr : Expr}
    (agree : ∀ name ∈ expr.names, one.lookup name = other.lookup name) :
    expr.evaluate one = expr.evaluate other := by
  induction expr with
  | identifier name =>
      rw [evaluate, evaluate, agree name (List.mem_singleton.2 rfl)]
  | string text => rw [evaluate, evaluate]
  | digits text => rw [evaluate, evaluate]
  | apply callee arguments => rw [evaluate, evaluate]
  | unary op operand ih =>
      have same := ih agree
      cases op <;> simp only [evaluate, same]
  | binary op left right ihLeft ihRight =>
      rw [names, List.forall_mem_append] at agree
      have sameLeft := ihLeft agree.1
      have sameRight := ihRight agree.2
      cases op <;> simp only [evaluate, sameLeft, sameRight]

/-- Two debuggers at two machines may differ in what one name stands for, and in
nothing else that a command looks at. -/
structure AlikeBut (name : String) (machine twin : LiveMachine)
    (debugger other : Debugger) : Prop where
  symbols : ∀ known, known ≠ name →
    debugger.symbols.get? known = other.symbols.get? known
  registers : ∀ known, known ≠ name →
    machine.readRegister known = twin.readRegister known
  breakpoints : debugger.breakpoints = other.breakpoints
  state : debugger.state = other.state
  memory : machine.readMemory = twin.readMemory
  instructions : machine.disassemble = twin.disassemble

/-- A command that can be told a format has a bare name in its place, which is
in no other argument. -/
inductive AsksFormat (name : String) : Request → Prop where
  | print {operand shown : Expr}
      (arguments : operand.arguments = [shown, .identifier name])
      (absent : name ∉ shown.names) :
      AsksFormat name (.named "p" (some operand))
  | printBlock {operand base count : Expr}
      (arguments : operand.arguments = [base, count, .identifier name])
      (absentBase : name ∉ base.names) (absentCount : name ∉ count.names) :
      AsksFormat name (.named "pb" (some operand))

/-- Two runs end with the same answer or error, have written the same, and leave
debuggers that are related. -/
inductive EndsAlike {Result : Type} (related : Debugger → Debugger → Prop) :
    EStateM.Result DebuggerError Console Result →
      EStateM.Result DebuggerError Console Result → Prop where
  | ok {answer : Result} {last other : Debugger} {output : Sink}
      (left : related last other) :
      EndsAlike related (.ok answer ⟨last, output⟩) (.ok answer ⟨other, output⟩)
  | error {error : DebuggerError} {last other : Debugger} {output : Sink}
      (left : related last other) :
      EndsAlike related (.error error ⟨last, output⟩)
        (.error error ⟨other, output⟩)

variable {name : String} {machine twin : LiveMachine}
  {debugger other : Debugger}

/-- Names other than the one stand for the same. -/
theorem AlikeBut.lookup (alike : AlikeBut name machine twin debugger other)
    {known : String} (apart : known ≠ name) :
    (debugger.environment machine).lookup known =
      (other.environment twin).lookup known := by
  simp only [Environment.lookup, Debugger.environment,
    alike.registers known apart, alike.symbols known apart]

theorem AlikeBut.argumentValues
    (alike : AlikeBut name machine twin debugger other) {operand : Expr}
    (absent : name ∉ operand.names) :
    debugger.argumentValues machine (some operand) =
      other.argumentValues twin (some operand) := by
  have same : operand.evaluate (debugger.environment machine) =
      operand.evaluate (other.environment twin) := by
    apply Expr.evaluate_congr
    intro known member
    exact alike.lookup fun found => absent (found ▸ member)
  simp only [Debugger.argumentValues, same]

/-! ## What is shown -/

theorem AlikeBut.memoryText
    (alike : AlikeBut name machine twin debugger other)
    (format : DisplayFormat) (number : Int64) :
    format.memoryText machine number = format.memoryText twin number := by
  simp only [DisplayFormat.memoryText, alike.memory, alike.instructions]

theorem AlikeBut.printText
    (alike : AlikeBut name machine twin debugger other) {operand : Expr}
    (absent : name ∉ operand.names) :
    debugger.printText machine (some operand) =
      other.printText twin (some operand) := by
  simp only [Debugger.printText, Debugger.valueText,
    alike.argumentValues absent, alike.memoryText]

theorem AlikeBut.blockRows
    (alike : AlikeBut name machine twin debugger other)
    (format : DisplayFormat) (address : Int64) (count : Nat) :
    Debugger.blockRows machine format address count =
      Debugger.blockRows twin format address count := by
  induction count generalizing address with
  | zero => rfl
  | succ count ih =>
      rw [Debugger.blockRows, Debugger.blockRows, alike.memoryText, ih]

theorem AlikeBut.blockText
    (alike : AlikeBut name machine twin debugger other) {operand : Expr}
    (absent : name ∉ operand.names) :
    debugger.blockText machine (some operand) =
      other.blockText twin (some operand) := by
  simp only [Debugger.blockText, alike.argumentValues absent, alike.blockRows]

theorem AlikeBut.inState
    (alike : AlikeBut name machine twin debugger other)
    (state : ProgramState) :
    AlikeBut name machine twin { debugger with state := state }
      { other with state := state } :=
  { alike with state := rfl }

/-- A name that is taken literally is no name in the operand any more. -/
theorem not_mem_names_of_print {operand shown : Expr}
    (arguments : operand.arguments = [shown, .identifier name])
    (absent : name ∉ shown.names) :
    name ∉ (operand.takeLiterally Command.print.literalArguments).names := by
  rw [Expr.names_eq_flatMap_arguments, Expr.arguments_takeLiterally, arguments]
  simpa [Command.literalArguments, Expr.quoteName, Expr.names] using absent

theorem not_mem_names_of_printBlock {operand base count : Expr}
    (arguments : operand.arguments = [base, count, .identifier name])
    (absentBase : name ∉ base.names) (absentCount : name ∉ count.names) :
    name ∉
      (operand.takeLiterally Command.printBlock.literalArguments).names := by
  rw [Expr.names_eq_flatMap_arguments, Expr.arguments_takeLiterally, arguments]
  simpa [Command.literalArguments, Expr.quoteName, Expr.names] using
    ⟨absentBase, absentCount⟩

/-! ## Two runs -/

namespace Debugging

variable {Before Result : Type} {related : Debugger → Debugger → Prop}
  {output : Sink}

theorem endsAlike_write (left : related debugger other) (text : String) :
    EndsAlike related ((write text).run ⟨debugger, output⟩)
      ((write text).run ⟨other, output⟩) := by
  unfold write EStateM.run
  dsimp only
  cases Sink.write text output with
  | ok _ between => exact .ok left
  | error error between => exact .error left

theorem endsAlike_require_bind (left : related debugger other)
    {found : Except DebuggerError Before}
    {proceed : Before → Debugging Result}
    (later : ∀ result,
      EndsAlike related ((proceed result).run ⟨debugger, output⟩)
        ((proceed result).run ⟨other, output⟩)) :
    EndsAlike related ((require found >>= proceed).run ⟨debugger, output⟩)
      ((require found >>= proceed).run ⟨other, output⟩) := by
  cases found with
  | ok result => exact later result
  | error error => exact .error left

theorem run_carryOut_print (machine : LiveMachine) (operand : Option Expr)
    (console : Console) :
    (carryOut machine .print operand).run console =
      (require (console.debugger.printText machine
        (operand.map (·.takeLiterally Command.print.literalArguments))) >>=
          fun text => write (text ++ "\n")).run console :=
  rfl

theorem run_carryOut_printBlock (machine : LiveMachine)
    (operand : Option Expr) (console : Console) :
    (carryOut machine .printBlock operand).run console =
      (require (console.debugger.blockText machine
        (operand.map
          (·.takeLiterally Command.printBlock.literalArguments))) >>=
            write).run console :=
  rfl

/-- A command is carried out on stopped debuggers, and what it leaves is put into
its final state. -/
theorem endsAlike_execute {command : Command} {operand : Option Expr}
    (carried :
      EndsAlike (AlikeBut name machine twin)
        ((carryOut machine command operand).run
          ⟨{ debugger with state := .stopped }, output⟩)
        ((carryOut twin command operand).run
          ⟨{ other with state := .stopped }, output⟩)) :
    EndsAlike (AlikeBut name machine twin)
      ((execute machine command operand).run ⟨debugger, output⟩)
      ((execute twin command operand).run ⟨other, output⟩) := by
  rw [execute_run, execute_run]
  simp only [Console.inState]
  generalize (carryOut machine command operand).run _ = first at carried ⊢
  generalize (carryOut twin command operand).run _ = second at carried ⊢
  cases carried with
  | ok left => exact .ok (left.inState command.finalState)
  | error left => exact .error left

/--
What a bare name in the place of a format stands for has no say in a print or a
block print: the answer or the error, what is written and what becomes of the
debugger are the same.
-/
theorem endsAlike_executeText {text : String}
    (asks : AsksFormat name (Request.ofText text))
    (alike : AlikeBut name machine twin debugger other) (output : Sink) :
    EndsAlike (AlikeBut name machine twin)
      ((executeText machine text).run ⟨debugger, output⟩)
      ((executeText twin text).run ⟨other, output⟩) := by
  have stopped := alike.inState .stopped
  rw [executeText_eq, executeText_eq]
  generalize Request.ofText text = request at asks ⊢
  cases asks with
  | print arguments absent =>
      have known : Command.ofName? "p" = some .print := by decide
      have fresh := not_mem_names_of_print arguments absent
      simp only [fulfil, known]
      apply endsAlike_execute
      rw [run_carryOut_print, run_carryOut_print, Option.map_some,
        stopped.printText fresh]
      apply endsAlike_require_bind stopped
      intro shown
      exact endsAlike_write stopped _
  | printBlock arguments absentBase absentCount =>
      have known : Command.ofName? "pb" = some .printBlock := by decide
      have fresh :=
        not_mem_names_of_printBlock arguments absentBase absentCount
      simp only [fulfil, known]
      apply endsAlike_execute
      rw [run_carryOut_printBlock, run_carryOut_printBlock, Option.map_some,
        stopped.blockText fresh]
      apply endsAlike_require_bind stopped
      intro shown
      exact endsAlike_write stopped _

/-- A block is shown in decimal, also if there is a symbol and a register that
go by the name of the format. -/
theorem endsAlike_executeText_decimal :
    let machine : LiveMachine :=
      { readRegister := fun _ => none
        readMemory := fun _ => some ⟨7⟩
        disassemble := fun _ => "" }
    let twin : LiveMachine :=
      { machine with
        readRegister := fun known => if known = "d" then some 1 else none }
    let debugger : Debugger := { symbols := ⟨[("a", 3)]⟩ }
    let other : Debugger := { symbols := ⟨[("a", 3), ("d", 9)]⟩ }
    AsksFormat "d" (Request.ofText "pb a, 2, d") ∧
      AlikeBut "d" machine twin debugger other ∧
      EndsAlike (AlikeBut "d" machine twin)
        ((executeText machine "pb a, 2, d").run ⟨debugger, {}⟩)
        ((executeText twin "pb a, 2, d").run ⟨other, {}⟩) ∧
      (after (executeText twin "pb a, 2, d") ⟨other, {}⟩).output.accepted =
        "0d3(a):\n  0d3 = 7\n  0d4 = 7\n".toUTF8 := by
  intro machine twin debugger other
  have asked : Request.ofText "pb a, 2, d" =
      .named "pb" (some (.binary .comma (.identifier "a")
        (.binary .comma (.digits "2") (.identifier "d")))) := by
    decide +kernel
  have asks : AsksFormat "d" (Request.ofText "pb a, 2, d") := by
    rw [asked]
    exact .printBlock rfl (by decide) (by decide)
  have alike : AlikeBut "d" machine twin debugger other := by
    constructor
    case symbols =>
      intro known apart
      simp [debugger, other, SymbolTable.get?, List.lookup_cons,
        beq_false_of_ne apart]
    case registers => exact fun known apart => (if_neg apart).symm
    case breakpoints | state | memory | instructions => rfl
  exact ⟨asks, alike, endsAlike_executeText asks alike {}, by decide +kernel⟩

end Debugging

end Whirlwind
