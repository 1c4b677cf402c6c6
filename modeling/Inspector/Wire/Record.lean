import Inspector.Pack.Reader
import Inspector.Pack.Writer

/-!
# Records in messages

A record is a map whose fields may come in any order. Its fields are taken one after the other
into slots: a field that the record does not know is skipped, a field that comes twice counts the
last time, and the first thing that cannot be read is the outcome.
-/

namespace Inspector.Wire

inductive Error where
  /-- The packed data itself is at fault. -/
  | pack (cause : Pack.Error)
  /-- A body, value or target of a kind that does not exist. -/
  | unknownVariant (what : String)
  /-- Packed data that is sound and yet no message. -/
  | protocolViolation (what : String)
  | recursionLimitExceeded
deriving DecidableEq, Repr

def Error.message : Error → String
  | pack cause => "serialization: " ++ cause.message
  | unknownVariant what => "unknown variant: " ++ what
  | protocolViolation what => "protocol violation: " ++ what
  | recursionLimitExceeded => "value nesting limit exceeded"

/-- The error for a record without a field that it needs. -/
def Error.missing (name : String) : Error :=
  protocolViolation ("Missing " ++ name)

/-- The bytes of an item as a message. -/
def pack (item : Pack.Item) : Except Error Bytes :=
  item.encode.mapError .pack

/-- Reads from the front of a payload; what follows is of no concern. -/
def read (reader : Pack.Read α) (payload : Bytes) : Except Error α :=
  (reader.run payload).1.mapError .pack

/-- Takes the fields of a map into slots, one after the other. -/
def readRecord (payload : Bytes) (step : σ → String → Bytes → Except Error σ) (slots : σ) :
    Except Error σ := do
  let body ← read Pack.map payload
  (Pack.fieldsOf body).fold .pack (fun slots (name, value) => step slots name value) slots

/-- Reads every item of the body of a list, up to the first that fails. -/
def readItems (item : Bytes → Except Error α) (body : Bytes) : Except Error (List α) := do
  let contents := Pack.itemsOf body
  let values ← contents.parts.mapM item
  match contents.fault with
  | none => return values
  | some e => throw (.pack e)

/-- Reads every item of a list, up to the first that fails. -/
def readList (payload : Bytes) (item : Bytes → Except Error α) : Except Error (List α) := do
  readItems item (← read Pack.list payload)

/-- A read of part of a message: its outcome, and what it leaves of the input. -/
structure Reader (α : Type) where
  run : Bytes → Except Error α × Bytes

namespace Reader

/-- Takes an item off the front and makes something of it. What stands behind the item is left, also
when nothing can be made of it. -/
def taking (item : Pack.Read α) (make : α → Except Error β) : Reader β where
  run input :=
    let taken := item.run input
    (taken.1.mapError .pack >>= make, taken.2)

/-- The outcome alone. -/
def outcome (reader : Reader α) (input : Bytes) : Except Error α :=
  (reader.run input).1

end Reader

/-- A slot that has to be filled. -/
def required (name : String) : Option α → Except Error α
  | some value => .ok value
  | none => .error (.missing name)

end Inspector.Wire
