import Whirlwind.Files.IoError

/-!
# Sinks

A sink takes text as bytes.  It can have room for only so many of them, and
then takes what fits and refuses the rest.
-/

namespace Whirlwind

/-- What has been written, and how many bytes more can be. -/
structure Sink where
  accepted : ByteArray := .empty
  /-- There is no limit if this is missing. -/
  room : Option Nat := none

/-- Sinks are equal if what they have taken and their room are. -/
instance : DecidableEq Sink := fun left right =>
  decidable_of_iff
    (left.accepted.data = right.accepted.data ∧ left.room = right.room)
    ⟨fun ⟨accepted, room⟩ => by
        cases left
        cases right
        exact congr (congrArg Sink.mk (ByteArray.ext accepted)) room,
      fun same => same ▸ ⟨rfl, rfl⟩⟩

namespace Sink

/-- A sink with room for a number of bytes, or without a limit. -/
def withRoom (room : Option Nat) : Sink where
  room := room

/-- Write bytes.  No bytes at all are never refused. -/
def writeBytes (bytes : ByteArray) : EStateM IoError Sink PUnit := fun sink =>
  match sink.room with
  | none => .ok ⟨⟩ { sink with accepted := sink.accepted ++ bytes }
  | some room =>
      if bytes.size ≤ room then
        .ok ⟨⟩
          { accepted := sink.accepted ++ bytes
            room := some (room - bytes.size) }
      else
        .error .full
          { accepted := sink.accepted ++ bytes.extract 0 room
            room := some 0 }

/-- Write a text. -/
def write (text : String) : EStateM IoError Sink PUnit :=
  writeBytes text.toUTF8

end Sink

end Whirlwind
