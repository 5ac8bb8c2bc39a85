import Whirlwind.Files.FileName

/-!
# Options

The arguments of a command line: options, of which some take a value, and the
other arguments, between which they may stand.  An option has a long name
behind two hyphens and may have a letter behind one.  A value is attached to
its option or is the next argument.  Behind two hyphens alone there are no
options.
-/

namespace Whirlwind.CommandLine

/-- An argument of a command line, which need not be a text. -/
abbrev Argument :=
  List UInt8

/-- The byte in front of an option. -/
def hyphen : UInt8 :=
  45

/-- The byte between an option and its value. -/
def equals : UInt8 :=
  61

/-- How an option is written. -/
structure OptionForm (Name : Type) where
  name : Name
  long : String
  letter : Option UInt8 := none
  takesValue : Bool := false

/-- What an argument is, or a part of it. -/
inductive Item (Name : Type) where
  | flag (name : Name)
  | setting (name : Name) (value : Argument)
  | positional (value : Argument)
  /-- No option that there is, or one without its value. -/
  | unusable

section

variable {Name : Type} (forms : List (OptionForm Name))

/-- The option with a long name. -/
def findLong? (long : List UInt8) : Option (OptionForm Name) :=
  forms.find? fun form => Text.encode form.long = long

/-- The option with a letter. -/
def findLetter? (letter : UInt8) : Option (OptionForm Name) :=
  forms.find? fun form => form.letter = some letter

/-- Whether an argument can be the value of the option before it. -/
def isValue : Argument → Bool
  | first :: _ :: _ => first != hyphen
  | _ => true

/-- The next argument as the value of an option, and the arguments after it. -/
def takeNext (name : Name) :
    List Argument → Item Name × List Argument
  | [] => (.unusable, [])
  | value :: rest =>
      if isValue value then (.setting name value, rest)
      else (.unusable, value :: rest)

/-- What stands in front of an equals sign and, if there is one, behind it. -/
def splitAtEquals (text : List UInt8) :
    List UInt8 × Option (List UInt8) :=
  match text.dropWhile (· != equals) with
  | [] => (text, none)
  | _ :: value => (text.takeWhile (· != equals), some value)

/-- An option by its long name, with the arguments behind it. -/
def longItem (text : List UInt8) (rest : List Argument) :
    Item Name × List Argument :=
  let (long, attached) := splitAtEquals text
  match findLong? forms long, attached with
  | none, _ => (.unusable, rest)
  | some form, some value =>
      (if form.takesValue then .setting form.name value else .unusable, rest)
  | some form, none =>
      if form.takesValue then takeNext form.name rest
      else (.flag form.name, rest)

/-- A value that is attached to a letter. -/
def attachedValue : List UInt8 → List UInt8
  | 61 :: value => value
  | value => value

/-- Options by their letters.  The first that takes a value takes the rest. -/
def letterItems :
    List UInt8 → List Argument → List (Item Name) × List Argument
  | [], rest => ([], rest)
  | letter :: later, rest =>
      match findLetter? forms letter with
      | none => ([.unusable], rest)
      | some form =>
          if form.takesValue then
            match later with
            | [] =>
                let (item, rest) := takeNext form.name rest
                ([item], rest)
            | attached =>
                ([.setting form.name (attachedValue attached)], rest)
          else
            let (items, rest) := letterItems later rest
            (.flag form.name :: items, rest)

/-- The items that an argument starts, and the arguments behind them. -/
def argumentItems (argument : Argument) (rest : List Argument) :
    List (Item Name) × List Argument :=
  match argument with
  | 45 :: 45 :: long =>
      let (item, rest) := longItem forms long rest
      ([item], rest)
  | 45 :: letter :: letters => letterItems forms (letter :: letters) rest
  | _ => ([.positional argument], rest)

theorem takeNext_length_le (name : Name) (rest : List Argument) :
    (takeNext name rest).2.length ≤ rest.length := by
  unfold takeNext
  split
  · simp
  · split <;> simp

theorem longItem_length_le (text : List UInt8) (rest : List Argument) :
    (longItem forms text rest).2.length ≤ rest.length := by
  simp only [longItem]
  split
  · simp
  · simp
  · split
    · exact takeNext_length_le _ rest
    · simp

theorem letterItems_length_le (letters : List UInt8) (rest : List Argument) :
    (letterItems forms letters rest).2.length ≤ rest.length := by
  induction letters with
  | nil => simp [letterItems]
  | cons letter later hypothesis =>
      simp only [letterItems]
      split
      · simp
      · split
        · split
          · exact takeNext_length_le _ rest
          · simp
        · exact hypothesis

/-- Reading an argument leaves no more than the arguments behind it. -/
theorem argumentItems_length_le (argument : Argument) (rest : List Argument) :
    (argumentItems forms argument rest).2.length ≤ rest.length := by
  unfold argumentItems
  split
  · exact longItem_length_le forms _ rest
  · exact letterItems_length_le forms _ rest
  · simp

/-- The items of a command line, in order. -/
def items : List Argument → List (Item Name)
  | [] => []
  | [45, 45] :: rest => rest.map .positional
  | argument :: rest =>
      let read := argumentItems forms argument rest
      read.1 ++ items read.2
  termination_by arguments => arguments.length
  decreasing_by
    have := argumentItems_length_le forms argument rest
    simp only [List.length_cons]
    omega

end

end Whirlwind.CommandLine
