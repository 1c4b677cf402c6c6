import Inspector.Introspection.Serialize
import Inspector.Reflection.Member
import Inspector.Wire.Request
import Inspector.Wire.Response

/-!
# Answering questions

The answer to a question, what it adds to the objects that the client knows of, and whether log
lines are streamed afterwards.
-/

namespace Inspector

inductive QueryError where
  | reflection (cause : ReflectionError)
  /-- The client was never told of such an object. -/
  | unknownObjectId (id : Int64)
  /-- Reading a field would never end. -/
  | endlessRead (field : String)
deriving DecidableEq, Repr

def QueryError.message : QueryError → String
  | reflection cause => cause.message
  | unknownObjectId id => s!"Unknown object id: {id.toInt}"
  | endlessRead field => "endless read of field " ++ field

/-- What a client's questions are answered from and what they change. -/
structure QueryState where
  pins : PinTable := {}
  streamLogs : Bool := true
deriving DecidableEq, Repr

namespace HostView

def referent (pins : PinTable) (id : Int64) : Except QueryError ObjectRef :=
  match pins.object? id with
  | some object => .ok object
  | none => .error (.unknownObjectId id)

/-- The class whose members an object has; an array has those of the root. -/
def memberClass (view : HostView) (object : ObjectRef) : Except QueryError String := do
  let type ← (view.knownType object).mapError .reflection
  return type.className?.getD objectClass

/-- The class and the kind of members that a target stands for. -/
def target (view : HostView) (pins : PinTable) :
    Wire.Target → Except QueryError (String × MemberKind)
  | .cls name => .ok (name, .static)
  | .object id => do
    let object ← referent pins id
    return (← view.memberClass object, .onInstance)

/-- The values of fields, each looked for by name. -/
def readFields (read : String → Lookup) (rows : List FieldSummary) :
    Except QueryError (List (FieldSummary × Option HostValue)) :=
  rows.mapM fun row =>
    match read row.name with
    | .endless => .error (.endlessRead row.name)
    | outcome => .ok (row, outcome.value?)

def fieldEntry (view : HostView) (row : FieldSummary) (value : Option HostValue)
    (pins : PinTable) : Wire.FieldEntry × PinTable :=
  let (sent, pins) := match value with
    | some value => view.send maxSerializeDepth value pins
    | none => ({ value := .notPresent }, pins)
  ({ name := row.name, typeName := row.typeName, descriptor := row.descriptor
     value := sent.value, objectId := sent.objectId }, pins)

def fieldEntries (view : HostView) :
    List (FieldSummary × Option HostValue) → PinTable → List Wire.FieldEntry × PinTable
  | [], pins => ([], pins)
  | (row, value) :: rest, pins =>
    let (first, pins) := view.fieldEntry row value pins
    let (others, pins) := view.fieldEntries rest pins
    (first :: others, pins)

def signatureAnswer : Option String → Wire.ResponseBody
  | some text => .signature text
  | none => .notFound

/-- What the host says to a question that changes nothing but the pins. -/
def lookUp (view : HostView) (pins : PinTable) :
    Wire.RequestBody → Except QueryError (Wire.ResponseBody × PinTable)
  | .loadedClasses => return (.loadedClasses view.loadedClasses, pins)
  | .processStatus => return (.processStatus view.threads, pins)
  | .setLogStream _ => return (.ack, pins)
  | .staticFields className => do
    let rows ← (view.types.enumerateFields className .static).mapError .reflection
    let values ← readFields (view.staticField className) rows
    let (entries, pins) := view.fieldEntries values pins
    return (.fields entries, pins)
  | .objectFields id => do
    let object ← referent pins id
    let className ← view.memberClass object
    let rows ← (view.types.enumerateFields className .onInstance).mapError .reflection
    let values ← readFields (view.instanceField object) rows
    let (entries, pins) := view.fieldEntries values pins
    return (.fields entries, pins)
  | .fieldSignature target field => do
    let (className, kind) ← view.target pins target
    let found ← (view.types.fieldSignature className field kind).mapError .reflection
    return (signatureAnswer found, pins)
  | .methodSignature target method hints => do
    let (className, kind) ← view.target pins target
    let found ← (view.types.methodSignature className method hints kind).mapError .reflection
    return (signatureAnswer found, pins)
  | .readSequence id => do
    let object ← referent pins id
    let sequence ← (view.toSequence object).mapError .reflection
    let (items, pins) := serializeEach (view.serialize (maxSerializeDepth - 1))
      (sequence.items.map (·.value)) pins
    return (.sequence sequence.sourceType.displayName items, pins)

def answer (view : HostView) (state : QueryState) (body : Wire.RequestBody) :
    Except QueryError Wire.ResponseBody × QueryState :=
  match view.lookUp state.pins body with
  | .error e => (.error e, state)
  | .ok (reply, pins) =>
    let streamLogs := match body with
      | .setLogStream enabled => enabled
      | _ => state.streamLogs
    (.ok reply, { pins, streamLogs })

end HostView

end Inspector
