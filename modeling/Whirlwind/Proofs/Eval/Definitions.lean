import Whirlwind.Proofs.Eval.Symbols

/-!
# What definitions leave in a table

Names are defined one after the other, any number of times and with any values.
What a table has after that is told by the definitions alone: each name has the
value of its first definition, and the names are in order
(`SymbolTable.keepsFirst_after`).
-/

namespace Whirlwind.SymbolTable

variable {table : SymbolTable} {name : String} {number : Int64}
  {entries : List (String × Int64)}

/-! ## Entries in order -/

/-- The names of entries are in order, and none of them is there twice. -/
def Ascending (entries : List (String × Int64)) : Prop :=
  entries.Pairwise fun entry later => entry.1 < later.1

theorem lt_of_not_lt {first second : String} (notBelow : ¬first < second)
    (apart : first ≠ second) : second < first := by
  apply String.not_le.1
  intro notAbove
  exact apart (String.le_antisymm notAbove (String.not_lt.1 notBelow))

theorem mem_insertOrdered {entry : String × Int64} :
    entry ∈ insertOrdered name number entries ↔
      entry = (name, number) ∨ entry ∈ entries := by
  induction entries with
  | nil => simp [insertOrdered]
  | cons first rest ih =>
      rw [insertOrdered]
      split
      · exact List.mem_cons
      · rw [List.mem_cons, ih, List.mem_cons]
        exact or_left_comm

theorem ne_of_mem_of_fresh (fresh : entries.lookup name = none)
    {entry : String × Int64} (member : entry ∈ entries) : name ≠ entry.1 :=
  bne_iff_ne.1 (List.lookup_eq_none_iff.1 fresh entry member)

/-- A fresh name finds its place between the names before and after it. -/
theorem Ascending.insertOrdered (ascending : Ascending entries)
    (fresh : entries.lookup name = none) :
    Ascending (insertOrdered name number entries) := by
  induction entries with
  | nil => exact List.pairwise_singleton _ _
  | cons first rest ih =>
      have apart := ne_of_mem_of_fresh fresh List.mem_cons_self
      rcases List.pairwise_cons.1 ascending with ⟨below, later⟩
      rw [SymbolTable.insertOrdered]
      split
      · next least =>
        refine List.pairwise_cons.2 ⟨fun entry member => ?_, ascending⟩
        rcases List.mem_cons.1 member with rfl | member
        · exact least
        · exact String.lt_trans least (below entry member)
      · next notLeast =>
        have freshLater : rest.lookup name = none := by
          rwa [List.lookup_cons, beq_false_of_ne apart] at fresh
        refine List.pairwise_cons.2 ⟨fun entry member => ?_, ih later freshLater⟩
        rcases mem_insertOrdered.1 member with rfl | member
        · exact lt_of_not_lt notLeast apart
        · exact below entry member

/-- In order, the entry that is found for a name is the only one that it has. -/
theorem Ascending.lookup_eq_some_iff (ascending : Ascending entries) :
    entries.lookup name = some number ↔ (name, number) ∈ entries := by
  induction entries with
  | nil => simp
  | cons first rest ih =>
      rcases List.pairwise_cons.1 ascending with ⟨below, later⟩
      rw [List.lookup_cons, List.mem_cons]
      by_cases same : name = first.1
      · subst same
        have absent : (first.1, number) ∉ rest := by
          intro member
          have less := below (first.1, number) member
          exact String.lt_irrefl _ less
        simp [absent, Prod.ext_iff, eq_comm]
      · rw [beq_false_of_ne same]
        have other : (name, number) ≠ first :=
          fun found => same (congrArg Prod.fst found)
        rw [ih later, or_iff_right other]

theorem lookup_insertOrdered_self (fresh : entries.lookup name = none) :
    (insertOrdered name number entries).lookup name = some number := by
  induction entries with
  | nil => simp [insertOrdered]
  | cons first rest ih =>
      have apart := ne_of_mem_of_fresh fresh List.mem_cons_self
      rw [List.lookup_cons, beq_false_of_ne apart] at fresh
      rw [insertOrdered]
      split
      · exact List.lookup_cons_self
      · rw [List.lookup_cons, beq_false_of_ne apart, ih fresh]

/-! ## One definition -/

/-- A name that has a value is refused another one; a fresh name takes its place
in the table. -/
theorem define_cases (table : SymbolTable) (name : String) (number : Int64) :
    (table.get? name = some number ∧ table.define name number = .ok table) ∨
    (∃ existing, table.get? name = some existing ∧ existing ≠ number ∧
      table.define name number = .error ⟨name, existing, number⟩) ∨
    (table.get? name = none ∧
      table.define name number =
        .ok ⟨insertOrdered name number table.entries⟩) := by
  unfold define
  cases known : table.get? name with
  | none => exact Or.inr (Or.inr ⟨rfl, rfl⟩)
  | some existing =>
      by_cases same : existing = number
      · exact Or.inl ⟨congrArg some same, if_pos same⟩
      · exact Or.inr (Or.inl ⟨existing, rfl, same, if_neg same⟩)

@[simp]
theorem define_eq_error_iff {error : Redefinition} :
    table.define name number = .error error ↔
      ∃ existing, table.get? name = some existing ∧ existing ≠ number ∧
        error = ⟨name, existing, number⟩ := by
  rcases define_cases table name number with
    ⟨known, run⟩ | ⟨existing, known, apart, run⟩ | ⟨fresh, run⟩
  · simp [known, run]
  · rw [run, known, Except.error.injEq]
    constructor
    · rintro rfl
      exact ⟨existing, rfl, apart, rfl⟩
    · rintro ⟨found, same, _, rfl⟩
      rw [Option.some.inj same]
  · simp [fresh, run]

theorem attempt_of_error {error : Redefinition}
    (refused : table.define name number = .error error) :
    table.attempt (name, number) = table := by
  rw [attempt, refused]

/-- Defining a name leaves all that was found, and finds the name if it was not
there. -/
theorem get?_attempt_eq (table : SymbolTable) (definition : String × Int64)
    (name : String) :
    (table.attempt definition).get? name =
      (table.get? name).or ([definition].lookup name) := by
  cases known : table.get? name with
  | some number => exact get?_attempt known definition
  | none =>
      rw [Option.none_or, List.lookup_cons, List.lookup_nil]
      by_cases same : name = definition.1
      · subst same
        have run : table.attempt definition =
            ⟨insertOrdered definition.1 definition.2 table.entries⟩ := by
          rw [attempt, define, known]
        rw [run, get?, lookup_insertOrdered_self known, beq_self_eq_true]
      · rw [beq_false_of_ne same]
        rcases define_cases table definition.1 definition.2 with
          ⟨_, run⟩ | ⟨_, _, _, run⟩ | ⟨_, run⟩
        · rw [attempt, run]
          exact known
        · rw [attempt, run]
          exact known
        · rw [attempt, run]
          exact (lookup_insertOrdered_of_ne same _ _).trans known

theorem ascending_attempt (ascending : Ascending table.entries)
    (definition : String × Int64) :
    Ascending (table.attempt definition).entries := by
  rcases define_cases table definition.1 definition.2 with
    ⟨_, run⟩ | ⟨_, _, _, run⟩ | ⟨fresh, run⟩
  · rwa [attempt, run]
  · rwa [attempt, run]
  · rw [attempt, run]
    exact ascending.insertOrdered fresh

/-! ## Runs of definitions -/

theorem get?_after_eq (table : SymbolTable)
    (definitions : List (String × Int64)) (name : String) :
    (table.after definitions).get? name =
      (table.get? name).or (definitions.lookup name) := by
  induction definitions generalizing table with
  | nil => exact Option.or_none.symm
  | cons definition rest ih =>
      have step : table.after (definition :: rest) =
          (table.attempt definition).after rest := rfl
      rw [step, ih, get?_attempt_eq, Option.or_assoc, ← List.lookup_append,
        List.singleton_append]

theorem ascending_after (ascending : Ascending table.entries)
    (definitions : List (String × Int64)) :
    Ascending (table.after definitions).entries := by
  induction definitions generalizing table with
  | nil => exact ascending
  | cons definition rest ih => exact ih (ascending_attempt ascending definition)

theorem namesOf_ascending (ascending : Ascending table.entries)
    (number : Int64) : (table.namesOf number).Pairwise (· < ·) :=
  List.pairwise_map.2 (ascending.filter _)

theorem mem_namesOf_iff (ascending : Ascending table.entries) :
    name ∈ table.namesOf number ↔ table.get? name = some number := by
  rw [get?, ascending.lookup_eq_some_iff, namesOf, List.mem_map]
  constructor
  · rintro ⟨entry, member, rfl⟩
    rcases List.mem_filter.1 member with ⟨member, value⟩
    rwa [← of_decide_eq_true value]
  · intro member
    exact ⟨(name, number), List.mem_filter.2 ⟨member, decide_eq_true rfl⟩, rfl⟩

/-- The table that definitions leave, what it answers, and what becomes of these
answers when more names are defined. -/
structure KeepsFirst (definitions : List (String × Int64))
    (table : SymbolTable) : Prop where
  get?_eq : ∀ name, table.get? name = definitions.lookup name
  stays : ∀ name number, table.get? name = some number →
    ∀ later, (table.after later).get? name = some number
  refuses_iff : ∀ name proposed error,
    table.define name proposed = .error error ↔
      ∃ existing, table.get? name = some existing ∧ existing ≠ proposed ∧
        error = ⟨name, existing, proposed⟩
  refused : ∀ name proposed error,
    table.define name proposed = .error error →
      table.attempt (name, proposed) = table
  namesOf_sorted : ∀ number, (table.namesOf number).Pairwise (· < ·)
  mem_namesOf : ∀ number name,
    name ∈ table.namesOf number ↔ table.get? name = some number

/-- After any definitions, in any order, each name has its first value for
good. -/
theorem keepsFirst_after (definitions : List (String × Int64)) :
    KeepsFirst definitions (({} : SymbolTable).after definitions) := by
  have ascending :
      Ascending (({} : SymbolTable).after definitions).entries :=
    ascending_after List.Pairwise.nil definitions
  constructor
  case get?_eq => exact fun name => get?_after_eq {} definitions name
  case stays => exact fun name number known later => get?_after known later
  case refuses_iff => exact fun _ _ _ => define_eq_error_iff
  case refused => exact fun _ _ _ => attempt_of_error
  case namesOf_sorted => exact namesOf_ascending ascending
  case mem_namesOf => exact fun _ _ => mem_namesOf_iff ascending

/-- A name that is defined again, and one that is refused another value. -/
example :
    (({} : SymbolTable).after
        [("c", 1), ("a", 1), ("b", 2), ("a", 1), ("c", 2)]).namesOf 1 =
      ["a", "c"] := by
  decide +kernel

end Whirlwind.SymbolTable
