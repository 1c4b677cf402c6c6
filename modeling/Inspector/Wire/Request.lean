import Inspector.Wire.Envelope

/-!
# Requests

What a client can ask, and the packed form of the question.
-/

namespace Inspector.Wire

/-- Where the look-up of a member starts. -/
inductive Target where
  /-- The static members of a class, named with dots or slashes. -/
  | cls (name : String)
  /-- The instance members of an object that the client was told of. -/
  | object (id : Int64)
deriving DecidableEq, Repr

/-- A question. -/
inductive RequestBody where
  | loadedClasses
  | staticFields (className : String)
  | objectFields (objectId : Int64)
  | fieldSignature (target : Target) (field : String)
  /-- The hints are descriptors, one for each argument. -/
  | methodSignature (target : Target) (method : String) (hints : List String)
  | readSequence (objectId : Int64)
  | processStatus
  /-- Turns the log stream of the whole process on or off. -/
  | setLogStream (enabled : Bool)
deriving DecidableEq, Repr

/-- A question with the id that its answer will carry. -/
abbrev Request := Envelope RequestBody

/-! ## Writing -/

def Target.toItem : Target → Pack.Item
  | cls name => .field "class" (.text name)
  | object id => .field "object" (.int id)

def RequestBody.toItem : RequestBody → Pack.Item
  | loadedClasses => .unit "LoadedClasses"
  | processStatus => .unit "ProcessStatus"
  | staticFields className => .field "StaticFields" (.map [("class_name", .text className)])
  | objectFields objectId => .field "ObjectFields" (.map [("object_id", .int objectId)])
  | fieldSignature target field =>
    .field "FieldSignature" (.map [("target", target.toItem), ("field", .text field)])
  | methodSignature target method hints =>
    .field "MethodSignature"
      (.map [("target", target.toItem), ("method", .text method),
        ("hints", .list (hints.map .text))])
  | readSequence objectId => .field "ReadSequence" (.map [("object_id", .int objectId)])
  | setLogStream enabled => .field "SetLogStream" (.map [("enabled", .bool enabled)])

def Request.encode (request : Request) : Except Error Bytes :=
  pack (request.toItem "req" RequestBody.toItem)

/-! ## Reading -/

def Target.decode (input : Bytes) : Except Error Target := do
  let (kind, payload) ← read Pack.field input
  match kind with
  | "class" => return cls (← read Pack.text payload)
  | "object" => return object (← read Pack.int payload)
  | other => throw (.unknownVariant ("target: " ++ other))

namespace RequestBody

/-- What has been read of a question's details. All questions share one set of slots; the name of
a field and that of a method share one slot. -/
structure Slots where
  className : Option String := none
  objectId : Option Int64 := none
  target : Option Target := none
  member : Option String := none
  hints : Option (List String) := none
  enabled : Option Bool := none

def Slots.take (slots : Slots) (name : String) (payload : Bytes) : Except Error Slots :=
  match name with
  | "class_name" => do return { slots with className := some (← read Pack.text payload) }
  | "object_id" => do return { slots with objectId := some (← read Pack.int payload) }
  | "target" => do return { slots with target := some (← Target.decode payload) }
  | "field" | "method" => do return { slots with member := some (← read Pack.text payload) }
  | "hints" => do return { slots with hints := some (← readList payload (read Pack.text)) }
  | "enabled" => do return { slots with enabled := some (← read Pack.bool payload) }
  | _ => do
    read Pack.skip payload
    return slots

/-- The questions that have details. -/
inductive Detailed where
  | staticFields | objectFields | fieldSignature | methodSignature | readSequence | setLogStream
deriving DecidableEq, Repr

/-- The detailed question of the given name. -/
def Detailed.ofName? : String → Option Detailed
  | "StaticFields" => some staticFields
  | "ObjectFields" => some objectFields
  | "FieldSignature" => some fieldSignature
  | "MethodSignature" => some methodSignature
  | "ReadSequence" => some readSequence
  | "SetLogStream" => some setLogStream
  | _ => none

/-- Builds the question from its details; hints may be left out. -/
def Detailed.build (slots : Slots) : Detailed → Except Error RequestBody
  | staticFields => do return .staticFields (← required "class_name" slots.className)
  | objectFields => do return .objectFields (← required "object_id" slots.objectId)
  | readSequence => do return .readSequence (← required "object_id" slots.objectId)
  | fieldSignature => do
    return .fieldSignature (← required "target" slots.target) (← required "field" slots.member)
  | methodSignature => do
    return .methodSignature (← required "target" slots.target) (← required "method" slots.member)
      (slots.hints.getD [])
  | setLogStream => do return .setLogStream (← required "enabled" slots.enabled)

def decode (input : Bytes) : Except Error RequestBody := do
  let (kind, payload) ← read Pack.field input
  match kind with
  | "LoadedClasses" =>
    read Pack.nil payload
    return loadedClasses
  | "ProcessStatus" =>
    read Pack.nil payload
    return processStatus
  | other =>
    match Detailed.ofName? other with
    | none => throw (.unknownVariant ("request: " ++ other))
    | some question => question.build (← readRecord payload Slots.take {})

end RequestBody

def Request.decode (input : Bytes) : Except Error Request :=
  Envelope.decode "req" RequestBody.decode input

end Inspector.Wire
