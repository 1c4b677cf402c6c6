import Inspector.Host.Class
import Inspector.Wire.Envelope
import Inspector.Wire.Value

/-!
# Responses

What a client is told: answers to its requests, and log lines, which nobody asked for and which
all carry one id.
-/

namespace Inspector.Wire

/-- The id of every log line. -/
def logStreamId : Int64 := -1

/-- The kind of class with the given word. -/
def readKind (word : String) : Except Error ClassKind :=
  match ClassKind.ofWord? word with
  | some kind => .ok kind
  | none => .error (.unknownVariant ("class category: " ++ word))

abbrev ClassEntry := LoadedClass

abbrev ThreadEntry := ThreadInfo

structure FieldEntry where
  name : String
  /-- The display name of the field's type. -/
  typeName : String
  descriptor : String
  value : Value
  /-- The id of the value if it is an object, else `noObject`. -/
  objectId : Int64
deriving Repr

/-- An answer or a log line. -/
inductive ResponseBody where
  | loadedClasses (classes : List ClassEntry)
  | fields (entries : List FieldEntry)
  /-- A field's descriptor or a method's signature. -/
  | signature (text : String)
  /-- The question was valid and no member matched. -/
  | notFound
  | sequence (listType : String) (items : List Value)
  | processStatus (threads : List ThreadEntry)
  | logStream (text : String)
  | ack
  | error (text : String)
deriving Repr

/-- An answer with the id of its request, or a log line. -/
abbrev Response := Envelope ResponseBody

namespace Response

def logLine (text : String) : Response :=
  { id := logStreamId, body := .logStream text }

def failure (id : Int64) (text : String) : Response :=
  { id, body := .error text }

end Response

/-! ## Writing -/

def ClassEntry.toItem (entry : ClassEntry) : Pack.Item :=
  .map [("name", .text entry.name), ("category", .text entry.kind.word),
    ("loaded", .bool entry.loaded)]

def FieldEntry.toItem (entry : FieldEntry) : Pack.Item :=
  .map [("name", .text entry.name), ("type_name", .text entry.typeName),
    ("descriptor", .text entry.descriptor), ("value", entry.value.toItem),
    ("object_id", .int entry.objectId)]

def ThreadEntry.toItem (entry : ThreadEntry) : Pack.Item :=
  .map [("name", .text entry.name), ("daemon", .bool entry.daemon),
    ("stack_trace", .text entry.stackTrace)]

def ResponseBody.toItem : ResponseBody → Pack.Item
  | notFound => .unit "NotFound"
  | ack => .unit "Ack"
  | signature text => .field "Signature" (.text text)
  | logStream text => .field "LogStream" (.text text)
  | error text => .field "Error" (.text text)
  | loadedClasses classes => .field "LoadedClasses" (.list (classes.map ClassEntry.toItem))
  | .fields entries => .field "Fields" (.list (entries.map FieldEntry.toItem))
  | sequence listType items =>
    .field "Sequence" (.map [("list_type", .text listType), ("items", .list (Value.toItems items))])
  | processStatus threads => .field "ProcessStatus" (.list (threads.map ThreadEntry.toItem))

def Response.encode (response : Response) : Except Error Bytes :=
  pack (response.toItem "res" ResponseBody.toItem)

/-! ## Reading -/

namespace ClassEntry

structure Slots where
  name : Option String := none
  kind : Option ClassKind := none
  loaded : Option Bool := none

def Slots.take (slots : Slots) (name : String) (payload : Bytes) : Except Error Slots :=
  match name with
  | "name" => do return { slots with name := some (← read Pack.text payload) }
  | "category" => do
    return { slots with kind := some (← readKind (← read Pack.text payload)) }
  | "loaded" => do return { slots with loaded := some (← read Pack.bool payload) }
  | _ => do
    read Pack.skip payload
    return slots

def decode (input : Bytes) : Except Error ClassEntry := do
  let slots ← readRecord input Slots.take {}
  return { name := ← required "name" slots.name
           kind := ← required "category" slots.kind
           loaded := ← required "loaded" slots.loaded }

end ClassEntry

namespace FieldEntry

structure Slots where
  name : Option String := none
  typeName : Option String := none
  descriptor : Option String := none
  value : Option Value := none
  objectId : Option Int64 := none

def Slots.take (slots : Slots) (name : String) (payload : Bytes) : Except Error Slots :=
  match name with
  | "name" => do return { slots with name := some (← read Pack.text payload) }
  | "type_name" => do return { slots with typeName := some (← read Pack.text payload) }
  | "descriptor" => do return { slots with descriptor := some (← read Pack.text payload) }
  | "value" => do return { slots with value := some (← Value.decode payload) }
  | "object_id" => do return { slots with objectId := some (← read Pack.int payload) }
  | _ => do
    read Pack.skip payload
    return slots

def decode (input : Bytes) : Except Error FieldEntry := do
  let slots ← readRecord input Slots.take {}
  return { name := ← required "name" slots.name
           typeName := ← required "type_name" slots.typeName
           descriptor := ← required "descriptor" slots.descriptor
           value := ← required "value" slots.value
           objectId := ← required "object_id" slots.objectId }

end FieldEntry

namespace ThreadEntry

structure Slots where
  name : Option String := none
  daemon : Option Bool := none
  stackTrace : Option String := none

def Slots.take (slots : Slots) (name : String) (payload : Bytes) : Except Error Slots :=
  match name with
  | "name" => do return { slots with name := some (← read Pack.text payload) }
  | "daemon" => do return { slots with daemon := some (← read Pack.bool payload) }
  | "stack_trace" => do return { slots with stackTrace := some (← read Pack.text payload) }
  | _ => do
    read Pack.skip payload
    return slots

def decode (input : Bytes) : Except Error ThreadEntry := do
  let slots ← readRecord input Slots.take {}
  return { name := ← required "name" slots.name
           daemon := ← required "daemon" slots.daemon
           stackTrace := ← required "stack_trace" slots.stackTrace }

end ThreadEntry

def ResponseBody.decode (input : Bytes) : Except Error ResponseBody := do
  let (kind, payload) ← read Pack.field input
  match kind with
  | "NotFound" =>
    read Pack.nil payload
    return notFound
  | "Ack" =>
    read Pack.nil payload
    return ack
  | "Signature" => return signature (← read Pack.text payload)
  | "LogStream" => return logStream (← read Pack.text payload)
  | "Error" => return error (← read Pack.text payload)
  | "LoadedClasses" => return loadedClasses (← readList payload ClassEntry.decode)
  | "Fields" => return fields (← readList payload FieldEntry.decode)
  | "Sequence" =>
    let slots ← readRecord payload (Value.ListSlots.take Value.decode) {}
    return sequence (← required "list_type" slots.listType) (← required "items" slots.items)
  | "ProcessStatus" => return processStatus (← readList payload ThreadEntry.decode)
  | other => throw (.unknownVariant ("response: " ++ other))

/-- Whether the message is a log line under some other id. -/
def Response.isStrayLogLine (response : Response) : Bool :=
  match response.body with
  | .logStream _ => response.id != logStreamId
  | _ => false

/-- Reads a response. A log line has to carry the id of log lines. -/
def Response.decode (input : Bytes) : Except Error Response := do
  let response ← Envelope.decode "res" ResponseBody.decode input
  if isStrayLogLine response then
    throw (Error.protocolViolation s!"log stream frame with id {response.id.toInt}")
  return response

end Inspector.Wire
