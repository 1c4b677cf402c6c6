import Inspector.Wire.Record

/-!
# Envelopes

A message is one field, `req` or `res`, that holds a map with an `id` and a `body`.
-/

namespace Inspector.Wire

/-- A message's id and body. -/
structure Envelope (β : Type) where
  id : Int64
  body : β
deriving DecidableEq, Repr

/-- The error for a message that is neither request nor response, or not the one wanted. -/
def Error.wrongFrame (kind : String) : Error :=
  unknownVariant ("Top-level frame: " ++ kind)

namespace Envelope

def toItem (kind : String) (body : β → Pack.Item) (message : Envelope β) : Pack.Item :=
  .field kind (.map [("id", .int message.id), ("body", body message.body)])

structure Slots (β : Type) where
  id : Option Int64 := none
  body : Option β := none

/-- Takes one field of an envelope. -/
def Slots.take (body : Bytes → Except Error β) (slots : Slots β) (name : String)
    (payload : Bytes) : Except Error (Slots β) :=
  match name with
  | "id" => do return { slots with id := some (← read Pack.int payload) }
  | "body" => do return { slots with body := some (← body payload) }
  | _ => do
    read Pack.skip payload
    return slots

def decode (kind : String) (body : Bytes → Except Error β) (input : Bytes) :
    Except Error (Envelope β) := do
  let (found, payload) ← read Pack.field input
  if found ≠ kind then throw (.wrongFrame found)
  let slots ← readRecord payload (Slots.take body) {}
  return { id := ← required "id" slots.id, body := ← required "body" slots.body }

end Envelope

/-- The first `id` among the fields of a map; the fields before it have to be sound. -/
def firstId (fault : Option Pack.Error) : List (String × Bytes) → Except Error Int64
  | [] =>
    match fault with
    | none => .error (.missing "id")
    | some e => .error (.pack e)
  | (name, payload) :: rest =>
    if name = "id" then read Pack.int payload
    else do
      read Pack.skip payload
      firstId fault rest

/-- The id of a request or response whose body may be unreadable. -/
def peekId (input : Bytes) : Except Error Int64 := do
  let (kind, payload) ← read Pack.field input
  if kind ≠ "req" ∧ kind ≠ "res" then throw (.wrongFrame kind)
  let body ← read Pack.map payload
  let contents := Pack.fieldsOf body
  firstId contents.fault contents.parts

end Inspector.Wire
