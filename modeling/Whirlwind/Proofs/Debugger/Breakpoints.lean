import Mathlib.Data.List.Induction
import Whirlwind.Debugger.Breakpoints
import Whirlwind.Proofs.Debugger.OrderedMap

/-!
# What is done to breakpoints

Breakpoints are set and deleted, one at a time.  Through any number of such
changes the two maps are inverse to each other, and every number in them is one
that has been given out (`Breakpoints.Sound`), as long as the counter does not
come round (`Breakpoints.Room`).  So a number that has been given out never
names a second address (`addressOf?_of_changed`).  An address has a breakpoint
if it was set after it was last deleted (`contains_changed_iff`).
-/

namespace Whirlwind

namespace Breakpoints

/-- Something that is done to breakpoints. -/
inductive Change where
  /-- There is to be a breakpoint at an address. -/
  | set (address : Address)
  /-- There is to be no breakpoint with a number. -/
  | delete (id : Nat)
  deriving DecidableEq, Repr

/-- The breakpoints after a change. -/
def change (breakpoints : Breakpoints) : Change → Breakpoints
  | .set address => (breakpoints.add address).2
  | .delete id => breakpoints.remove id

/-- The breakpoints after changes, in order. -/
def changed (breakpoints : Breakpoints) (changes : List Change) : Breakpoints :=
  changes.foldl change breakpoints

/-- Whether a change makes a new breakpoint. -/
def creates (breakpoints : Breakpoints) : Change → Bool
  | .set address => !breakpoints.contains address
  | .delete _ => false

/-- How many new breakpoints changes make. -/
def created (breakpoints : Breakpoints) : List Change → Nat
  | [] => 0
  | change :: rest =>
      (breakpoints.creates change).toNat +
        (breakpoints.change change).created rest

/-- The counter has numbers left for the new breakpoints that changes make. -/
def Room (breakpoints : Breakpoints) (changes : List Change) : Prop :=
  breakpoints.nextId.toNat + breakpoints.created changes < UInt32.size

instance (breakpoints : Breakpoints) (changes : List Change) :
    Decidable (breakpoints.Room changes) :=
  inferInstanceAs (Decidable (_ < _))

/-- Whether a change takes the breakpoint at an address away. -/
def clears (breakpoints : Breakpoints) (address : Address) : Change → Bool
  | .set _ => false
  | .delete id => breakpoints.addressOf? id = some address

/-- An address was set after it was last cleared, when changes are made to no
breakpoints at all. -/
def SetSince (changes : List Change) (address : Address) : Prop :=
  ∃ place, changes[place]? = some (.set address) ∧
    ∀ later change, place < later → changes[later]? = some change →
      (({} : Breakpoints).changed (changes.take later)).clears address
        change = false

variable {breakpoints : Breakpoints} {id : Nat} {address : Address}

@[simp]
theorem changed_nil (breakpoints : Breakpoints) :
    breakpoints.changed [] = breakpoints :=
  rfl

@[simp]
theorem changed_cons (breakpoints : Breakpoints) (change : Change)
    (rest : List Change) :
    breakpoints.changed (change :: rest) =
      (breakpoints.change change).changed rest :=
  rfl

@[simp]
theorem changed_append (breakpoints : Breakpoints)
    (front back : List Change) :
    breakpoints.changed (front ++ back) =
      (breakpoints.changed front).changed back :=
  List.foldl_append

@[simp]
theorem created_append (breakpoints : Breakpoints)
    (front back : List Change) :
    breakpoints.created (front ++ back) =
      breakpoints.created front +
        (breakpoints.changed front).created back := by
  induction front generalizing breakpoints with
  | nil => exact (Nat.zero_add _).symm
  | cons change rest ih =>
      rw [List.cons_append, created, ih, created, changed_cons, Nat.add_assoc]

/-! ## One change -/

@[simp]
theorem addressOf?_empty (id : Nat) :
    ({} : Breakpoints).addressOf? id = none :=
  rfl

@[simp]
theorem idAt?_empty (address : Address) :
    ({} : Breakpoints).idAt? address = none :=
  rfl

theorem contains_iff :
    breakpoints.contains address = true ↔
      ∃ id, breakpoints.idAt? address = some id :=
  OrderedMap.contains_iff

theorem contains_eq_false_iff :
    breakpoints.contains address = false ↔
      breakpoints.idAt? address = none :=
  OrderedMap.contains_eq_false_iff

@[simp]
theorem addressOf?_create (breakpoints : Breakpoints) (address : Address)
    (id : Nat) :
    (breakpoints.create address).addressOf? id =
      if id = breakpoints.nextId.toNat then some address
      else breakpoints.addressOf? id :=
  OrderedMap.get?_insert _ _ _ _

@[simp]
theorem idAt?_create (breakpoints : Breakpoints) (address other : Address) :
    (breakpoints.create address).idAt? other =
      if other = address then some breakpoints.nextId.toNat
      else breakpoints.idAt? other :=
  OrderedMap.get?_insert _ _ _ _

theorem add_of_idAt? (known : breakpoints.idAt? address = some id) :
    breakpoints.add address = (id, breakpoints) := by
  rw [add, known]

/-- Where there is a breakpoint, setting one changes nothing. -/
theorem add_of_contains (known : breakpoints.contains address = true) :
    (breakpoints.add address).2 = breakpoints := by
  rcases contains_iff.1 known with ⟨id, found⟩
  rw [add_of_idAt? found]

theorem add_of_not_contains (fresh : breakpoints.contains address = false) :
    breakpoints.add address =
      (breakpoints.nextId.toNat, breakpoints.create address) := by
  rw [add, contains_eq_false_iff.1 fresh]

/-- Setting a breakpoint puts one at its address, and at no other one. -/
@[simp]
theorem contains_add_iff {other : Address} :
    (breakpoints.add address).2.contains other = true ↔
      other = address ∨ breakpoints.contains other = true := by
  cases known : breakpoints.contains address with
  | true =>
      rw [add_of_contains known]
      exact ⟨Or.inr, fun either => either.elim (· ▸ known) id⟩
  | false =>
      rw [add_of_not_contains known, contains_iff, contains_iff]
      by_cases here : other = address <;> simp [here]

/-- Deleting a breakpoint leaves every other number with its address. -/
@[simp]
theorem addressOf?_remove (breakpoints : Breakpoints) (deleted id : Nat) :
    (breakpoints.remove deleted).addressOf? id =
      if id = deleted then none else breakpoints.addressOf? id := by
  rw [remove]
  split
  · next unknown =>
      split
      · next same => rw [same, unknown]
      · rfl
  · exact OrderedMap.get?_erase _ _ _

/-- Deleting a breakpoint leaves every other address with its number. -/
theorem idAt?_remove (breakpoints : Breakpoints) (deleted : Nat)
    (address : Address) :
    (breakpoints.remove deleted).idAt? address =
      if breakpoints.addressOf? deleted = some address then none
      else breakpoints.idAt? address := by
  rw [remove]
  split
  · next unknown => simp [unknown]
  · next other known =>
      rw [known, idAt?, OrderedMap.get?_erase]
      simp only [Option.some.injEq, eq_comm]
      rfl

theorem addressOf?_of_remove {deleted : Nat}
    (later : (breakpoints.remove deleted).addressOf? id = some address) :
    breakpoints.addressOf? id = some address := by
  rw [addressOf?_remove] at later
  split at later
  · cases later
  · exact later

@[simp]
theorem contains_remove_iff {deleted : Nat} :
    (breakpoints.remove deleted).contains address = true ↔
      breakpoints.contains address = true ∧
        breakpoints.addressOf? deleted ≠ some address := by
  rw [contains_iff, contains_iff, idAt?_remove]
  split
  · next gone => simp [gone]
  · next standing => simp [standing]

@[simp]
theorem nextId_remove (breakpoints : Breakpoints) (id : Nat) :
    (breakpoints.remove id).nextId = breakpoints.nextId := by
  rw [remove]
  split <;> rfl

/-! ## Numbers that are left -/

theorem nextId_change {change : Change} (room : breakpoints.Room [change]) :
    (breakpoints.change change).nextId.toNat =
      breakpoints.nextId.toNat + (breakpoints.creates change).toNat := by
  cases change with
  | delete id => simp [Breakpoints.change, creates]
  | set address =>
      rw [Room, created, creates] at room
      rw [Breakpoints.change, creates]
      cases known : breakpoints.contains address with
      | true =>
          rw [add_of_contains known]
          rfl
      | false =>
          rw [known] at room
          rw [add_of_not_contains known]
          exact (UInt32.toNat_add _ _).trans (Nat.mod_eq_of_lt room)

theorem room_empty {changes : List Change}
    (few : ({} : Breakpoints).created changes < UInt32.size) :
    ({} : Breakpoints).Room changes :=
  Nat.lt_of_le_of_lt (Nat.le_of_eq (Nat.zero_add _)) few

theorem Room.append {front back : List Change}
    (room : breakpoints.Room (front ++ back)) : breakpoints.Room front := by
  rw [Room, created_append] at room
  exact Nat.lt_of_le_of_lt (by omega) room

theorem Room.head {change : Change} {rest : List Change}
    (room : breakpoints.Room (change :: rest)) : breakpoints.Room [change] := by
  rw [← List.singleton_append] at room
  exact room.append

theorem Room.tail {change : Change} {rest : List Change}
    (room : breakpoints.Room (change :: rest)) :
    (breakpoints.change change).Room rest := by
  rw [Room, nextId_change room.head, Nat.add_assoc]
  exact room

theorem Room.take {changes : List Change} (room : breakpoints.Room changes)
    (count : Nat) : breakpoints.Room (changes.take count) := by
  rw [← List.take_append_drop count changes] at room
  exact room.append

/-- What every change keeps while there are numbers left, changes in order
keep. -/
theorem changed_of_room {motive : Breakpoints → Prop} {changes : List Change}
    (step : ∀ before, ∀ change ∈ changes, before.Room [change] →
      motive before → motive (before.change change))
    (room : breakpoints.Room changes) (start : motive breakpoints) :
    motive (breakpoints.changed changes) := by
  induction changes generalizing breakpoints with
  | nil => exact start
  | cons change rest ih =>
      refine ih (fun before other member =>
        step before other (List.mem_cons_of_mem _ member)) room.tail ?_
      exact step breakpoints change List.mem_cons_self room.head start

theorem nextId_changed {changes : List Change}
    (room : breakpoints.Room changes) :
    (breakpoints.changed changes).nextId.toNat =
      breakpoints.nextId.toNat + breakpoints.created changes := by
  induction changes generalizing breakpoints with
  | nil => rfl
  | cons change rest ih =>
      rw [changed_cons, ih room.tail, nextId_change room.head, created,
        Nat.add_assoc]

theorem Room.drop {front back : List Change}
    (room : breakpoints.Room (front ++ back)) :
    (breakpoints.changed front).Room back := by
  rw [Room, nextId_changed room.append, Nat.add_assoc, ← created_append]
  exact room

/-! ## Numbers and addresses -/

/-- Breakpoints are found by their addresses as they are by their numbers, and
all numbers have been given out. -/
structure Sound (breakpoints : Breakpoints) : Prop where
  inverse :
    ∀ id address, breakpoints.addressOf? id = some address ↔
      breakpoints.idAt? address = some id
  given :
    ∀ id address, breakpoints.addressOf? id = some address →
      id < breakpoints.nextId.toNat
  ascending : breakpoints.byId.Ascending

@[simp]
theorem sound_empty : Sound {} :=
  ⟨fun _ _ => ⟨nofun, nofun⟩, nofun, List.Pairwise.nil⟩

/-- The next number names no breakpoint yet, so that the new one takes the place
of none. -/
theorem Sound.addressOf?_nextId (sound : breakpoints.Sound) :
    breakpoints.addressOf? breakpoints.nextId.toNat = none := by
  cases found : breakpoints.addressOf? breakpoints.nextId.toNat with
  | none => rfl
  | some address =>
      exact absurd (sound.given _ address found) (Nat.lt_irrefl _)

theorem Sound.create (sound : breakpoints.Sound)
    (fresh : breakpoints.contains address = false)
    (room : breakpoints.Room [.set address]) :
    (breakpoints.create address).Sound := by
  have advanced : (breakpoints.create address).nextId.toNat =
      breakpoints.nextId.toNat + 1 := by
    have counted := nextId_change room
    rwa [Breakpoints.change, add_of_not_contains fresh, creates, fresh]
      at counted
  constructor
  · intro id other
    rw [addressOf?_create, idAt?_create]
    by_cases newId : id = breakpoints.nextId.toNat <;>
      by_cases newAddress : other = address
    · simp [newId, newAddress]
    · rw [if_pos newId, if_neg newAddress, newId, ← sound.inverse,
        sound.addressOf?_nextId]
      simp [Ne.symm newAddress]
    · rw [if_neg newId, if_pos newAddress, newAddress, sound.inverse,
        contains_eq_false_iff.1 fresh]
      simp [Ne.symm newId]
    · simpa [newId, newAddress] using sound.inverse id other
  · intro id other found
    rw [advanced]
    rw [addressOf?_create] at found
    split at found
    · next newId => exact newId ▸ Nat.lt_succ_self _
    · exact Nat.lt_succ_of_lt (sound.given id other found)
  · exact sound.ascending.insert _ _

theorem Sound.add (sound : breakpoints.Sound)
    (room : breakpoints.Room [.set address]) :
    (breakpoints.add address).2.Sound := by
  cases known : breakpoints.contains address with
  | true =>
      rw [add_of_contains known]
      exact sound
  | false =>
      rw [add_of_not_contains known]
      exact sound.create known room

theorem Sound.remove (sound : breakpoints.Sound) (deleted : Nat) :
    (breakpoints.remove deleted).Sound := by
  constructor
  · intro id address
    rw [addressOf?_remove, idAt?_remove]
    by_cases gone : id = deleted
    · rcases gone with rfl
      have old := sound.inverse id address
      split <;> simp_all
    · rw [if_neg gone, sound.inverse id address]
      split
      · next other =>
          have only := (sound.inverse deleted address).1 other
          simp [only, Ne.symm gone]
      · rfl
  · intro id address found
    rw [nextId_remove]
    exact sound.given id address (addressOf?_of_remove found)
  · rw [Breakpoints.remove]
    split
    · exact sound.ascending
    · exact sound.ascending.erase _

theorem Sound.change (sound : breakpoints.Sound) {change : Change}
    (room : breakpoints.Room [change]) :
    (breakpoints.change change).Sound := by
  cases change with
  | set address => exact sound.add room
  | delete id => exact sound.remove id

theorem Sound.changed (sound : breakpoints.Sound) {changes : List Change}
    (room : breakpoints.Room changes) : (breakpoints.changed changes).Sound :=
  changed_of_room (fun _ _ _ room before => before.change room) room sound

/-- The number that a breakpoint is given stands for its address. -/
theorem Sound.addressOf?_add_self (sound : breakpoints.Sound)
    (address : Address) :
    (breakpoints.add address).2.addressOf? (breakpoints.add address).1 =
      some address := by
  cases known : breakpoints.contains address with
  | true =>
      rcases contains_iff.1 known with ⟨id, found⟩
      rw [add_of_idAt? found]
      exact (sound.inverse id address).2 found
  | false => simp [add_of_not_contains known]

/-! ## Numbers are never given again -/

theorem addressOf?_of_change {change : Change}
    (old : id < breakpoints.nextId.toNat)
    (later : (breakpoints.change change).addressOf? id = some address) :
    breakpoints.addressOf? id = some address := by
  cases change with
  | set other =>
      rw [Breakpoints.change] at later
      cases known : breakpoints.contains other with
      | true => rwa [add_of_contains known] at later
      | false =>
          rwa [add_of_not_contains known, addressOf?_create,
            if_neg (Nat.ne_of_lt old)] at later
  | delete deleted => exact addressOf?_of_remove later

/-- A number that has been given out never gets an address. -/
theorem addressOf?_of_changed {changes : List Change}
    (room : breakpoints.Room changes) (old : id < breakpoints.nextId.toNat)
    (later : (breakpoints.changed changes).addressOf? id = some address) :
    breakpoints.addressOf? id = some address := by
  have kept : id < (breakpoints.changed changes).nextId.toNat ∧
      ((breakpoints.changed changes).addressOf? id = some address →
        breakpoints.addressOf? id = some address) := by
    refine changed_of_room
      (motive := fun after => id < after.nextId.toNat ∧
        (after.addressOf? id = some address →
          breakpoints.addressOf? id = some address))
      (fun before change _ room known => ?_) room ⟨old, fun found => found⟩
    refine ⟨?_, fun found => known.2 (addressOf?_of_change known.1 found)⟩
    rw [nextId_change room]
    exact Nat.lt_add_right _ known.1
  exact kept.2 later

/-- A number stands for one address, whatever is done in between. -/
theorem Sound.addressOf?_unique (sound : breakpoints.Sound)
    {changes : List Change} (room : breakpoints.Room changes)
    {other : Address} {earlier later : Nat}
    (first : (breakpoints.changed (changes.take earlier)).addressOf? id =
      some address)
    (second : (breakpoints.changed (changes.take later)).addressOf? id =
      some other) :
    address = other := by
  wlog ordered : earlier ≤ later generalizing earlier later address other
  · exact (this second first (Nat.le_of_not_le ordered)).symm
  have given :=
    (sound.changed (room.take earlier)).given id address first
  have enough := room.take later
  rw [← List.take_append_drop earlier (changes.take later),
    List.take_take, Nat.min_eq_left ordered] at second enough
  rw [changed_append] at second
  rw [addressOf?_of_changed enough.drop given second] at first
  exact (Option.some.inj first).symm

/-! ## Changes of one kind -/

/-- After a change an address has a breakpoint if the change sets it, or if it
had one that the change does not clear. -/
@[simp]
theorem contains_change_iff (change : Change) :
    (breakpoints.change change).contains address = true ↔
      change = .set address ∨
        breakpoints.contains address = true ∧
          breakpoints.clears address change = false := by
  cases change with
  | set other =>
      rw [Breakpoints.change, contains_add_iff, Change.set.injEq, clears,
        eq_comm]
      simp
  | delete deleted =>
      rw [Breakpoints.change, contains_remove_iff, clears]
      simp

/-- The last change either sets an address, or leaves it set. -/
theorem setSince_append_singleton {changes : List Change} {last : Change} :
    SetSince (changes ++ [last]) address ↔
      last = .set address ∨
        SetSince changes address ∧
          (({} : Breakpoints).changed changes).clears address last =
            false := by
  constructor
  · rintro ⟨place, here, standing⟩
    rcases Nat.lt_or_ge place changes.length with inside | outside
    · right
      rw [List.getElem?_append_left inside] at here
      refine ⟨⟨place, here, ?_⟩, ?_⟩
      · intro later change after found
        have within := (List.getElem?_eq_some_iff.1 found).1
        have clear := standing later change after
          (by rw [List.getElem?_append_left within, found])
        rwa [List.take_append_of_le_length (Nat.le_of_lt within)] at clear
      · have clear := standing changes.length last inside (by simp)
        rwa [List.take_left] at clear
    · left
      rw [List.getElem?_append_right outside] at here
      exact (List.mem_singleton.1 (List.mem_of_getElem? here)).symm
  · rintro (rfl | ⟨⟨place, here, standing⟩, clear⟩)
    · refine ⟨changes.length, by simp, ?_⟩
      intro later change after found
      have bound := (List.getElem?_eq_some_iff.1 found).1
      rw [List.length_append, List.length_singleton] at bound
      exact absurd (Nat.le_of_lt_succ bound) (Nat.not_le_of_gt after)
    · have inside := (List.getElem?_eq_some_iff.1 here).1
      refine ⟨place, by rw [List.getElem?_append_left inside, here], ?_⟩
      intro later change after found
      rcases Nat.lt_or_ge later changes.length with within | outside
      · rw [List.getElem?_append_left within] at found
        rw [List.take_append_of_le_length (Nat.le_of_lt within)]
        exact standing later change after found
      · have bound := (List.getElem?_eq_some_iff.1 found).1
        rw [List.length_append, List.length_singleton] at bound
        rcases Nat.le_antisymm (Nat.le_of_lt_succ bound) outside with rfl
        rw [List.getElem?_concat_length] at found
        rcases Option.some.inj found with rfl
        rwa [List.take_left]

/-- An address has a breakpoint if it was set after it was last cleared. -/
@[simp]
theorem contains_changed_iff (changes : List Change) :
    (({} : Breakpoints).changed changes).contains address = true ↔
      SetSince changes address := by
  induction changes using List.reverseRecOn with
  | nil => simp [SetSince, contains_iff]
  | append_singleton changes last ih =>
      rw [setSince_append_singleton, ← ih, changed_append]
      exact contains_change_iff last

end Breakpoints

end Whirlwind
