import Whirlwind.Eval.Value

/-!
# Names and what they stand for

A symbol table only grows: a name that has a value keeps it.  Names are kept in
ascending order.  An evaluation also sees the registers of the machine, which
can change between two evaluations and hide symbols of the same name.
-/

namespace Whirlwind

/-- The names defined so far, in ascending order, with their values. -/
structure SymbolTable where
  entries : List (String × Int64) := []
  deriving DecidableEq, Repr

/-- A name that has one value and was to get another. -/
structure Redefinition where
  name : String
  existing : Int64
  proposed : Int64
  deriving DecidableEq, Repr

/-- The text of a redefinition. -/
def Redefinition.message (error : Redefinition) : String :=
  "symbol " ++ error.name ++ " is already defined as " ++
    Text.markedOctal error.existing ++ ", cannot redefine it as " ++
    Text.markedOctal error.proposed

namespace SymbolTable

/-- The value of a name. -/
def get? (table : SymbolTable) (name : String) : Option Int64 :=
  table.entries.lookup name

/-- Put a name in front of the first greater one. -/
def insertOrdered (name : String) (value : Int64) :
    List (String × Int64) → List (String × Int64)
  | [] => [(name, value)]
  | entry :: rest =>
      if name < entry.1 then (name, value) :: entry :: rest
      else entry :: insertOrdered name value rest

/-- Give a name a value.  Giving it the value that it has changes nothing. -/
def define (table : SymbolTable) (name : String) (value : Int64) :
    Except Redefinition SymbolTable :=
  match table.get? name with
  | some existing =>
      if existing = value then .ok table
      else .error ⟨name, existing, value⟩
  | none => .ok ⟨insertOrdered name value table.entries⟩

/-- The names that have a value, in ascending order. -/
def namesOf (table : SymbolTable) (value : Int64) : List String :=
  (table.entries.filter fun entry => entry.2 = value).map Prod.fst

/-- Define names in order, leaving out those that would be redefined. -/
def ofList (definitions : List (String × Int64)) : SymbolTable :=
  definitions.foldl
    (fun table definition =>
      match table.define definition.1 definition.2 with
      | .ok extended => extended
      | .error _ => table)
    {}

end SymbolTable

/-- What an evaluation knows of names. -/
structure Environment where
  symbols : SymbolTable
  /-- The number in the register with a name, if there is such a register. -/
  readRegister : String → Option Int64 := fun _ => none

/-- What a name stands for.  A register comes before a symbol. -/
def Environment.lookup (environment : Environment) (name : String) : Value :=
  match environment.readRegister name with
  | some number => .integer number false
  | none =>
      match environment.symbols.get? name with
      | some number => .integer number true
      | none => .undefined name

end Whirlwind
