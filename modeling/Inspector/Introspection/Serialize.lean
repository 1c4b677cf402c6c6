import Inspector.Introspection.PinTable
import Inspector.Reflection.Sequence
import Inspector.Wire.Value

/-!
# Values of the host as a client sees them

Primitives and strings are sent as they are, and wrapped primitives as what they wrap. Sequences
are sent with their items, to a depth of `maxSerializeDepth`; every other object, and a sequence
that is too deep, is sent as a reference and pinned.
-/

namespace Inspector

/-- How deep sequences are sent with their items. -/
def maxSerializeDepth : Nat := 8

def Scalar.toWire : Scalar → Wire.Value
  | byte value => .int value.toInt64
  | short value => .int value.toInt64
  | int value => .int value.toInt64
  | long value => .int value
  | char unit => .int unit.toUInt64.toInt64
  | float bits => .float (widenFloat bits)
  | double bits => .float bits
  | boolean value => .bool value

/-- What is sent for a value, and the id that was given to it if it goes out as a reference. -/
structure Sent where
  value : Wire.Value
  objectId : Int64 := Wire.noObject

namespace HostView

/-- The items of an object that is sent with its items. -/
def sequence? (view : HostView) (object : ObjectRef) : Option Sequence :=
  match view.isSequenceLike object with
  | .ok true => (view.toSequence object).toOption
  | _ => none

/-- The string that a string object holds. -/
def text? (view : HostView) (object : ObjectRef) (type : HostType) : Option String :=
  if type = .cls stringClass then view.stringValue object else none

/-- An object sent as a reference. -/
def reference (object : ObjectRef) (type : HostType) (pins : PinTable) : Sent × PinTable :=
  let (id, pins) := pins.pin object
  ({ value := .object type.displayName id, objectId := id }, pins)

def serializeEach (send : HostValue → PinTable → Wire.Value × PinTable) :
    List HostValue → PinTable → List Wire.Value × PinTable
  | [], pins => ([], pins)
  | value :: rest, pins =>
    let (first, pins) := send value pins
    let (others, pins) := serializeEach send rest pins
    (first :: others, pins)

/-- Sends a value; `item` sends the items of a sequence, unless it is too deep for them. -/
def serializeWith (view : HostView)
    (item : Option (HostValue → PinTable → Wire.Value × PinTable)) (value : HostValue)
    (pins : PinTable) : Sent × PinTable :=
  match value with
  | .scalar scalar => ({ value := scalar.toWire }, pins)
  | .null => ({ value := .null }, pins)
  | .object object =>
    match view.typeOf object with
    | none => ({ value := .null }, pins)
    | some type =>
      match view.text? object type, view.unbox object, item, view.sequence? object with
      | some text, _, _, _ => ({ value := .text text }, pins)
      | none, some scalar, _, _ => ({ value := scalar.toWire }, pins)
      | none, none, some item, some sequence =>
        let (items, pins) := serializeEach item (sequence.items.map (·.value)) pins
        ({ value := .list sequence.sourceType.displayName items }, pins)
      | none, none, _, _ => reference object type pins

/-- Sends a value, with sequences inside it to the given number of levels. -/
def send (view : HostView) : (levels : Nat) → HostValue → PinTable → Sent × PinTable
  | 0 => view.serializeWith none
  | levels + 1 => view.serializeWith (some fun value pins =>
    let (sent, pins) := view.send levels value pins
    (sent.value, pins))

/-- What is sent for a value, whatever id was given to it. -/
def serialize (view : HostView) (levels : Nat) (value : HostValue) (pins : PinTable) :
    Wire.Value × PinTable :=
  let (sent, pins) := view.send levels value pins
  (sent.value, pins)

end HostView

end Inspector
