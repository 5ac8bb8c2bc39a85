import Whirlwind.Files.Sink

/-!
# Writing where there is room

An action may write to a sink besides what else it does.  Where the sink has
room, that is all it has to do with it: what the action comes to and what it
writes are the same on every sink, whatever has been written before.  `ComesTo`
says of an action what these are.  It has one rule for each way to put actions
together.
-/

namespace Whirlwind

namespace Sink

variable {sink : Sink} {first second bytes : ByteArray}

/-- A sink takes bytes without refusing any. -/
def HasRoom (sink : Sink) (bytes : ByteArray) : Prop :=
  ∀ room, sink.room = some room → bytes.size ≤ room

/-- A sink that has taken bytes. -/
def push (sink : Sink) (bytes : ByteArray) : Sink where
  accepted := sink.accepted ++ bytes
  room := sink.room.map (· - bytes.size)

@[simp]
theorem push_empty (sink : Sink) : sink.push .empty = sink := by
  simp [push]

@[simp]
theorem push_push (sink : Sink) (first second : ByteArray) :
    (sink.push first).push second = sink.push (first ++ second) := by
  simp [push, ByteArray.append_assoc, ByteArray.size_append,
    Function.comp_def, Nat.sub_sub]

/-- A sink without a limit has room for anything. -/
theorem hasRoom_of_unlimited (unlimited : sink.room = none)
    (bytes : ByteArray) : sink.HasRoom bytes := by
  intro room limited
  rw [unlimited] at limited
  cases limited

@[simp]
theorem hasRoom_append_iff :
    sink.HasRoom (first ++ second) ↔
      sink.HasRoom first ∧ (sink.push first).HasRoom second := by
  unfold HasRoom push
  cases sink.room with
  | none => simp
  | some room =>
      simp only [Option.some.injEq, forall_eq', Option.map_some,
        ByteArray.size_append]
      omega

/-- What a sink takes stands behind what it has taken before. -/
theorem accepted_of_writeBytes {after : Sink}
    (wrote : (writeBytes bytes).run sink = .ok ⟨⟩ after) :
    after.accepted = sink.accepted ++ bytes := by
  unfold writeBytes EStateM.run at wrote
  dsimp only at wrote
  split at wrote
  · rcases EStateM.Result.ok.inj wrote with ⟨_, rfl⟩
    rfl
  · split at wrote
    · rcases EStateM.Result.ok.inj wrote with ⟨_, rfl⟩
      rfl
    · cases wrote

/-- What a sink takes of bytes that it refuses is what stands in front. -/
theorem accepted_of_writeBytes_error {after : Sink} {error : IoError}
    (refused : (writeBytes bytes).run sink = .error error after) :
    ∃ part rest, part ++ rest = bytes ∧
      after.accepted = sink.accepted ++ part := by
  unfold writeBytes EStateM.run at refused
  dsimp only at refused
  split at refused
  · cases refused
  · next room _ =>
    split at refused
    · cases refused
    · rcases EStateM.Result.error.inj refused with ⟨_, rfl⟩
      refine ⟨bytes.extract 0 room, bytes.extract room bytes.size, ?_, rfl⟩
      rw [← ByteArray.extract_eq_extract_append_extract room (Nat.zero_le _)
        (by omega), ByteArray.extract_zero_size]

theorem run_write_of_hasRoom {text : String} (room : sink.HasRoom text.toUTF8) :
    (write text).run sink = .ok ⟨⟩ (sink.push text.toUTF8) := by
  unfold write writeBytes EStateM.run push
  dsimp only
  cases limit : sink.room with
  | none => rfl
  | some most =>
      simp only [if_pos (room most limit)]
      rfl

end Sink

/-- The end of a run that came to an outcome in a state. -/
def ended {Error State Result : Type}
    (outcome : Except Error Result) (last : State) :
    EStateM.Result Error State Result :=
  match outcome with
  | .ok result => .ok result last
  | .error error => .error error last

/-- An action on what is put together from a value and a sink comes to an
outcome, turns the value into another one and writes bytes, on every sink that
has room for them. -/
def ComesTo {Value State Error Result : Type} (assemble : Value → Sink → State)
    (action : EStateM Error State Result) (start : Value)
    (outcome : Except Error Result) (last : Value) (written : ByteArray) :
    Prop :=
  ∀ sink : Sink, sink.HasRoom written →
    action.run (assemble start sink) =
      ended outcome (assemble last (sink.push written))

section

variable {Value State Error Before Result : Type}
  {assemble : Value → Sink → State} {start between last : Value}
  {action : EStateM Error State Result} {first : EStateM Error State Before}
  {proceed : Before → EStateM Error State Result}
  {outcome : Except Error Result} {written more : ByteArray}

/-- What leaves the sink alone writes nothing. -/
theorem comesTo_of_silent
    (silent : ∀ sink, action.run (assemble start sink) =
      ended outcome (assemble last sink)) :
    ComesTo assemble action start outcome last .empty := by
  intro sink _
  rw [Sink.push_empty]
  exact silent sink

theorem comesTo_pure (result : Result) (start : Value) :
    ComesTo assemble (pure result : EStateM Error State Result) start
      (.ok result) start .empty :=
  comesTo_of_silent fun _ => rfl

theorem comesTo_throw (error : Error) (start : Value) :
    ComesTo assemble (throw error : EStateM Error State Result) start
      (.error error) start .empty :=
  comesTo_of_silent fun _ => rfl

/-- What is written by two actions is what the first one writes and then what
the second one does. -/
theorem ComesTo.bind {result : Before}
    (comes : ComesTo assemble first start (.ok result) between written)
    (later : ComesTo assemble (proceed result) between outcome last more) :
    ComesTo assemble (first >>= proceed) start outcome last (written ++ more) := by
  intro sink room
  rcases Sink.hasRoom_append_iff.1 room with ⟨now, afterwards⟩
  rw [EStateM.run_bind, comes sink now, ← Sink.push_push]
  exact later _ afterwards

/-- The second action may not depend on the result of the first one. -/
theorem ComesTo.andThen {result : Before}
    (comes : ComesTo assemble first start (.ok result) between written)
    (later : ComesTo assemble action between outcome last more) :
    ComesTo assemble (first >>= fun _ => action) start outcome last
      (written ++ more) :=
  comes.bind later

/-- Behind an action that fails nothing is done. -/
theorem ComesTo.bind_of_error {error : Error}
    (comes : ComesTo assemble first start (.error error) last written) :
    ComesTo assemble (first >>= proceed) start (.error error) last written := by
  intro sink room
  rw [EStateM.run_bind, comes sink room]
  rfl

end

end Whirlwind
