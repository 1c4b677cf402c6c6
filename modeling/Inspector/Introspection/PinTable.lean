import Inspector.Reflection.Error
import Inspector.Table

/-!
# Objects that a client knows of

A client refers to an object by its place in the list of objects that were sent to it. The objects
in the list are kept alive for the client until its session ends. The place of each is noted, so
that no object is put into the list twice.
-/

namespace Inspector

/-- The objects that were sent to a client, in the order of their ids. -/
structure PinTable where
  pinned : List ObjectRef := []
  /-- The id of each object in the list. -/
  ids : Table ObjectRef Int64 := []
deriving DecidableEq, Repr

namespace PinTable

/-- How many objects are kept alive. -/
def size (pins : PinTable) : Nat :=
  pins.pinned.length

/-- The id of an object that was sent before. -/
def id? (pins : PinTable) (object : ObjectRef) : Option Int64 :=
  pins.ids.get? object

def object? (pins : PinTable) (id : Int64) : Option ObjectRef :=
  match id.toInt with
  | .ofNat place => pins.pinned[place]?
  | .negSucc _ => none

/-- The id of an object, which is put at the end if it is new. -/
def pin (pins : PinTable) (object : ObjectRef) : Int64 × PinTable :=
  match pins.id? object with
  | some id => (id, pins)
  | none =>
    let id := Int64.ofNat pins.size
    (id, { pinned := pins.pinned ++ [object], ids := pins.ids.set object id })

/-- The objects that are in a later state of the table and not in this one. -/
def added (before after : PinTable) : List ObjectRef :=
  after.pinned.drop before.size

end PinTable

end Inspector
