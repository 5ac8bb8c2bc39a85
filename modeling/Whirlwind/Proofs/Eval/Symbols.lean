import Whirlwind.Eval.Symbols

/-!
# Symbol tables only grow

A name that has a value keeps it through all definitions that follow, those that
are refused among them (`SymbolTable.get?_after`).
-/

namespace Whirlwind.SymbolTable

variable {table : SymbolTable} {name : String} {number : Int64}

theorem lookup_insertOrdered_of_ne {other : String} (apart : name ≠ other)
    (value : Int64) (entries : List (String × Int64)) :
    (insertOrdered other value entries).lookup name = entries.lookup name := by
  have differs : (name == other) = false := beq_false_of_ne apart
  induction entries with
  | nil => rw [insertOrdered, List.lookup_cons, differs]
  | cons entry rest ih =>
      rw [insertOrdered]
      split
      · rw [List.lookup_cons, differs]
      · rw [List.lookup_cons, List.lookup_cons, ih]

/-- The table after an attempt to define a name, which can be refused. -/
def attempt (table : SymbolTable) (definition : String × Int64) : SymbolTable :=
  match table.define definition.1 definition.2 with
  | .ok extended => extended
  | .error _ => table

/-- The table after attempts to define names, in order. -/
def after (table : SymbolTable) (definitions : List (String × Int64)) :
    SymbolTable :=
  definitions.foldl attempt table

theorem get?_attempt (known : table.get? name = some number)
    (definition : String × Int64) :
    (table.attempt definition).get? name = some number := by
  unfold attempt define
  split
  · next extended found =>
    split at found
    · split at found
      · rcases Except.ok.inj found with rfl
        exact known
      · cases found
    · next fresh =>
      rcases Except.ok.inj found with rfl
      have apart : name ≠ definition.1 := by
        rintro rfl
        rw [known] at fresh
        cases fresh
      exact (lookup_insertOrdered_of_ne apart _ _).trans known
  · exact known

theorem get?_after (known : table.get? name = some number)
    (definitions : List (String × Int64)) :
    (table.after definitions).get? name = some number := by
  induction definitions generalizing table with
  | nil => exact known
  | cons definition rest ih => exact ih (get?_attempt known definition)

end Whirlwind.SymbolTable
