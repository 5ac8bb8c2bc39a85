/-!
# Ordered maps

A map has at most one value for each key, and its entries stand in ascending
order of their keys.
-/

namespace Whirlwind

/-- Values that are found by their keys. -/
structure OrderedMap (Key Value : Type) where
  /-- The keys with their values, in ascending order of the keys. -/
  entries : List (Key × Value) := []
  deriving DecidableEq, Repr

namespace OrderedMap

variable {Key Value : Type} [DecidableEq Key]

/-- The value of a key. -/
def get? (map : OrderedMap Key Value) (key : Key) : Option Value :=
  map.entries.lookup key

/-- Whether a key has a value. -/
def contains (map : OrderedMap Key Value) (key : Key) : Bool :=
  (map.get? key).isSome

/-- Put an entry where its key belongs, in place of one with the same key. -/
def insertEntry [LT Key] [DecidableLT Key] (key : Key) (value : Value) :
    List (Key × Value) → List (Key × Value)
  | [] => [(key, value)]
  | entry :: rest =>
      if key < entry.1 then (key, value) :: entry :: rest
      else if key = entry.1 then (key, value) :: rest
      else entry :: insertEntry key value rest

/-- Give a key a value, whether it has one or not. -/
def insert [LT Key] [DecidableLT Key] (map : OrderedMap Key Value) (key : Key)
    (value : Value) : OrderedMap Key Value :=
  ⟨insertEntry key value map.entries⟩

/-- Take the value of a key away, if it has one. -/
def erase (map : OrderedMap Key Value) (key : Key) : OrderedMap Key Value :=
  ⟨map.entries.filter fun entry => entry.1 ≠ key⟩

end OrderedMap

end Whirlwind
