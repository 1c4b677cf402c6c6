import Inspector.Wire.Record

/-!
# Values in messages

A value is one field named after its kind. Lists hold values again, to a depth of
`maxValueDepth`.
-/

namespace Inspector.Wire

/-- How deep lists may be nested inside each other when they are read. -/
def maxValueDepth : Nat := 32

/-- The object id of a value that refers to no object. -/
def noObject : Int64 := -1

/-- A value of the host as a client sees it. -/
inductive Value where
  /-- The member exists and gave no value. -/
  | notPresent
  | null
  /-- Every whole number, widened to 64 bits. -/
  | int (value : Int64)
  | float (bits : UInt64)
  | bool (value : Bool)
  | text (value : String)
  /-- A reference that can be looked into by its id. -/
  | object (className : String) (objectId : Int64)
  | list (listType : String) (items : List Value)
deriving Repr, Inhabited

namespace Value

/-! ## Writing -/

mutual

def toItem : Value → Pack.Item
  | notPresent => .unit "NotPresent"
  | null => .unit "Null"
  | int value => .field "Int" (.int value)
  | float bits => .field "Float" (.float bits)
  | bool value => .field "Bool" (.bool value)
  | text value => .field "Str" (.text value)
  | object className objectId =>
    .field "Object" (.map [("class_name", .text className), ("object_id", .int objectId)])
  | list listType items =>
    .field "List" (.map [("list_type", .text listType), ("items", .list (toItems items))])

def toItems : List Value → List Pack.Item
  | [] => []
  | value :: rest => value.toItem :: toItems rest

end

def encode (value : Value) : Except Error Bytes :=
  pack value.toItem

/-! ## Reading -/

structure ObjectSlots where
  className : Option String := none
  objectId : Option Int64 := none

def ObjectSlots.take (slots : ObjectSlots) (name : String) (payload : Bytes) :
    Except Error ObjectSlots :=
  match name with
  | "class_name" => do return { slots with className := some (← read Pack.text payload) }
  | "object_id" => do return { slots with objectId := some (← read Pack.int payload) }
  | _ => do
    read Pack.skip payload
    return slots

structure ListSlots where
  listType : Option String := none
  items : Option (List Value) := none

/-- Takes one field of a list, whose items are read by `item`. -/
def ListSlots.take (item : Bytes → Except Error Value) (slots : ListSlots) (name : String)
    (payload : Bytes) : Except Error ListSlots :=
  match name with
  | "list_type" => do return { slots with listType := some (← read Pack.text payload) }
  | "items" => do return { slots with items := some (← readList payload item) }
  | _ => do
    read Pack.skip payload
    return slots

/-- Reads the payload of a value of the given kind; the items of a list are read by `item`. -/
def ofPayload (item : Bytes → Except Error Value) (kind : String) (payload : Bytes) :
    Except Error Value :=
  match kind with
  | "NotPresent" => do
    read Pack.nil payload
    return notPresent
  | "Null" => do
    read Pack.nil payload
    return null
  | "Int" => do return int (← read Pack.int payload)
  | "Float" => do return float (← read Pack.float payload)
  | "Bool" => do return bool (← read Pack.bool payload)
  | "Str" => do return text (← read Pack.text payload)
  | "Object" => do
    let slots ← readRecord payload ObjectSlots.take {}
    return object (← required "class_name" slots.className) (← required "object_id" slots.objectId)
  | "List" => do
    let slots ← readRecord payload (ListSlots.take item) {}
    return list (← required "list_type" slots.listType) (← required "items" slots.items)
  | other => .error (.unknownVariant ("value: " ++ other))

/-- Reads a value that may hold fewer than `depth` levels of lists. The depth is looked at before
the input. -/
def readerWithin : (depth : Nat) → Reader Value
  | 0 => { run := fun input => (.error .recursionLimitExceeded, input) }
  | depth + 1 =>
    .taking Pack.field fun (kind, payload) => ofPayload (readerWithin depth).outcome kind payload

def decodeWithin (depth : Nat) (input : Bytes) : Except Error Value :=
  (readerWithin depth).outcome input

theorem decodeWithin_zero (input : Bytes) :
    decodeWithin 0 input = .error .recursionLimitExceeded := rfl

theorem decodeWithin_succ (depth : Nat) (input : Bytes) :
    decodeWithin (depth + 1) input =
      read Pack.field input >>= fun (kind, payload) =>
        ofPayload (decodeWithin depth) kind payload := rfl

def reader : Reader Value :=
  readerWithin (maxValueDepth + 1)

def decode (input : Bytes) : Except Error Value :=
  reader.outcome input

/-- What reading a value leaves of the input. -/
def rest (input : Bytes) : Bytes :=
  (reader.run input).2

/-- A value is one field: what stands behind the field is left, whatever the outcome. -/
theorem snd_run_reader (input : Bytes) : (reader.run input).2 = (Pack.field.run input).2 := rfl

/-! ## Lists of values -/

def listReader : Reader (List Value) :=
  .taking Pack.list (readItems decode)

def decodeAll (input : Bytes) : Except Error (List Value) :=
  listReader.outcome input

/-- What reading a list of values leaves of the input. -/
def restOfAll (input : Bytes) : Bytes :=
  (listReader.run input).2

theorem decodeAll_eq (input : Bytes) : decodeAll input = readList input decode := rfl

theorem snd_run_listReader (input : Bytes) :
    (listReader.run input).2 = (Pack.list.run input).2 := rfl

end Value

def encodeValues (values : List Value) : Except Error Bytes :=
  pack (.list (Value.toItems values))

end Inspector.Wire
