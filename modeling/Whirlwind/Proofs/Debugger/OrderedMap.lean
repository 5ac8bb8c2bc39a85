import Whirlwind.OrderedMap

/-!
# Looking keys up

What is found in an ordered map after a key has been given a value, and after a
value has been taken away.  Neither depends on the order of the entries, which
both keep (`OrderedMap.Ascending`).
-/

namespace Whirlwind.OrderedMap

variable {Key Value : Type} [DecidableEq Key] {key other : Key} {value : Value}

@[simp]
theorem get?_empty (key : Key) : ({} : OrderedMap Key Value).get? key = none :=
  rfl

theorem contains_iff {map : OrderedMap Key Value} :
    map.contains key = true ↔ ∃ value, map.get? key = some value :=
  Option.isSome_iff_exists

@[simp]
theorem contains_eq_false_iff {map : OrderedMap Key Value} :
    map.contains key = false ↔ map.get? key = none :=
  Option.isSome_eq_false_iff.trans Option.isNone_iff_eq_none

theorem lookup_cons (entry : Key × Value) (rest : List (Key × Value))
    (key : Key) :
    (entry :: rest).lookup key =
      if key = entry.1 then some entry.2 else rest.lookup key := by
  rw [List.lookup_cons]
  by_cases here : key = entry.1
  · rw [if_pos here, beq_iff_eq.2 here]
  · rw [if_neg here, beq_eq_false_iff_ne.2 here]

theorem lookup_insertEntry [LT Key] [DecidableLT Key] (key : Key)
    (value : Value) (entries : List (Key × Value)) (other : Key) :
    (insertEntry key value entries).lookup other =
      if other = key then some value else entries.lookup other := by
  induction entries with
  | nil => rw [insertEntry, lookup_cons]
  | cons entry rest ih =>
      rw [insertEntry]
      split
      · rw [lookup_cons]
      · split
        · next same =>
            rw [lookup_cons, lookup_cons, ← same]
            split <;> rfl
        · next different =>
            rw [lookup_cons, ih, lookup_cons]
            by_cases here : other = entry.1
            · simp [here, Ne.symm different]
            · simp [here]

theorem lookup_filter_ne (entries : List (Key × Value)) (key other : Key) :
    (entries.filter fun entry => entry.1 ≠ key).lookup other =
      if other = key then none else entries.lookup other := by
  induction entries with
  | nil => simp
  | cons entry rest ih =>
      rw [List.filter_cons, lookup_cons]
      by_cases gone : entry.1 = key
      · rw [if_neg (by simpa using gone), ih]
        by_cases here : other = key
        · simp [here]
        · simp [here, gone]
      · rw [if_pos (by simpa using gone), lookup_cons, ih]
        by_cases here : other = entry.1
        · simp [here, gone]
        · simp [here]

/-- Giving a key a value leaves all other keys with theirs. -/
@[simp]
theorem get?_insert [LT Key] [DecidableLT Key] (map : OrderedMap Key Value)
    (key : Key) (value : Value) (other : Key) :
    (map.insert key value).get? other =
      if other = key then some value else map.get? other :=
  lookup_insertEntry key value map.entries other

/-- Taking a value away leaves all other keys with theirs. -/
@[simp]
theorem get?_erase (map : OrderedMap Key Value) (key other : Key) :
    (map.erase key).get? other =
      if other = key then none else map.get? other :=
  lookup_filter_ne map.entries key other

/-! ## The order of the entries -/

variable {map : OrderedMap Nat Value}

/-- The keys stand in ascending order, so no two entries have the same one. -/
def Ascending (map : OrderedMap Nat Value) : Prop :=
  map.entries.Pairwise fun first second => first.1 < second.1

theorem fst_mem_insertEntry {key : Nat} {entries : List (Nat × Value)}
    {entry : Nat × Value} (member : entry ∈ insertEntry key value entries) :
    entry.1 = key ∨ entry ∈ entries := by
  induction entries with
  | nil =>
      rw [insertEntry, List.mem_singleton] at member
      exact Or.inl (congrArg Prod.fst member)
  | cons head rest ih =>
      grind [insertEntry]

theorem Ascending.insert (ascending : map.Ascending) (key : Nat)
    (value : Value) : (map.insert key value).Ascending := by
  rcases map with ⟨entries⟩
  simp only [Ascending, OrderedMap.insert] at ascending ⊢
  induction entries with
  | nil => exact List.pairwise_singleton _ _
  | cons entry rest ih =>
      rcases List.pairwise_cons.1 ascending with ⟨first, others⟩
      rw [insertEntry]
      split
      · next before =>
          refine List.pairwise_cons.2 ⟨?_, ascending⟩
          intro later member
          rcases List.mem_cons.1 member with rfl | behind
          · exact before
          · exact Nat.lt_trans before (first later behind)
      · split
        · next same =>
            exact List.pairwise_cons.2 ⟨same ▸ first, others⟩
        · next notBefore different =>
            refine List.pairwise_cons.2 ⟨?_, ih others⟩
            intro later member
            rcases fst_mem_insertEntry member with rfl | behind
            · omega
            · exact first later behind

theorem Ascending.erase (ascending : map.Ascending) (key : Nat) :
    (map.erase key).Ascending :=
  ascending.sublist List.filter_sublist

/-- In ascending order each key has one entry, which is the one that is
found. -/
theorem Ascending.mem_entries_iff (ascending : map.Ascending) {key : Nat} :
    (key, value) ∈ map.entries ↔ map.get? key = some value := by
  rcases map with ⟨entries⟩
  simp only [Ascending, get?] at ascending ⊢
  induction entries with
  | nil => simp
  | cons entry rest ih =>
      rcases List.pairwise_cons.1 ascending with ⟨first, others⟩
      rw [lookup_cons, List.mem_cons, ih others]
      by_cases here : key = entry.1
      · have absent : rest.lookup entry.1 = none := by
          refine List.lookup_eq_none_iff.2 fun later behind => ?_
          exact bne_iff_ne.2 (Nat.ne_of_lt (first later behind))
        simp [here, absent, Prod.ext_iff, eq_comm]
      · simp [here, Prod.ext_iff]

end Whirlwind.OrderedMap
