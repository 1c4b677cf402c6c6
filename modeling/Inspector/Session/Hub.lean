import Inspector.Session.Provider
import Inspector.Session.Transport
import Inspector.Table

/-!
# Sessions

The hub holds the sessions of all connections. A session is published once its context exists, and
it is taken out before its context is ended, so that nobody finds a session that is going away.
Whoever found it before may still hold on to it; therefore the hub remembers every session.
-/

namespace Inspector

/-- The life of a session, which only goes forward. -/
inductive SessionState where
  | live | closing | closed
deriving DecidableEq, Repr

namespace SessionState

def name : SessionState → String
  | live => "Open"
  | closing => "Closing"
  | closed => "Closed"

def rank : SessionState → Nat
  | live => 0
  | closing => 1
  | closed => 2

/-- Goes on to a later state; an earlier one changes nothing. -/
def advance (state next : SessionState) : SessionState :=
  if state.rank < next.rank then next else state

end SessionState

structure Session (Ctx : Type) where
  state : SessionState := .live
  /-- The context, until it is taken to be ended. -/
  context : Option Ctx
  /-- Guards the context. -/
  lock : Lock := .free

/-- How a session is shown to a programmer. -/
def sessionText (id : ConnectionId) (state : SessionState) : String :=
  "Session \x7b id: ConnectionId(" ++ toString id ++ "), state: " ++ state.name ++ ", .. \x7d"

/-- Why there is no session. -/
inductive SessionError where
  | notFound (id : ConnectionId)
  /-- Its context could not be made. -/
  | contextCreation (reason : String)
deriving DecidableEq, Repr

def SessionError.message : SessionError → String
  | notFound id => "Session not found: " ++ connectionText id
  | contextCreation reason => "Context creation failed: " ++ reason

/-- All sessions, their transports and the environment that their contexts share. -/
structure Hub (Env Ctx : Type) where
  env : Env
  nextId : ConnectionId := 1
  /-- The connections that can be found. -/
  published : List ConnectionId := []
  sessions : Table ConnectionId (Session Ctx) := []
  transports : Table ConnectionId Transport := []
  nextTicket : Ticket := 0

namespace Hub

variable {Env Ctx : Type}

/-! ## Single steps -/

def allocate (hub : Hub Env Ctx) : ConnectionId × Hub Env Ctx :=
  (hub.nextId, { hub with nextId := hub.nextId + 1 })

def ticket (hub : Hub Env Ctx) : Ticket × Hub Env Ctx :=
  (hub.nextTicket, { hub with nextTicket := hub.nextTicket + 1 })

def publish (hub : Hub Env Ctx) (id : ConnectionId) (context : Ctx) (transport : Transport) :
    Hub Env Ctx :=
  { hub with
    published := hub.published ++ [id]
    sessions := hub.sessions.set id { context := some context }
    transports := hub.transports.set id transport }

/-- Takes a session out; those who found it before keep it. -/
def unpublish (hub : Hub Env Ctx) (id : ConnectionId) : Hub Env Ctx :=
  { hub with published := hub.published.filter (· ≠ id) }

def state? (hub : Hub Env Ctx) (id : ConnectionId) : Option SessionState :=
  (hub.sessions.get? id).map (·.state)

/-- Whether a session can be found. -/
def isOpen (hub : Hub Env Ctx) (id : ConnectionId) : Bool :=
  hub.published.contains id && hub.state? id == some .live

/-- The sessions that can be found, in ascending order. -/
def snapshot (hub : Hub Env Ctx) : List ConnectionId :=
  (hub.published.filter hub.isOpen).mergeSort

def advance (hub : Hub Env Ctx) (id : ConnectionId) (next : SessionState) : Hub Env Ctx :=
  { hub with
    sessions := hub.sessions.modify id fun session =>
      { session with state := session.state.advance next } }

def setLock (hub : Hub Env Ctx) (id : ConnectionId) (lock : Lock) : Hub Env Ctx :=
  { hub with sessions := hub.sessions.modify id fun session => { session with lock } }

def lock (hub : Hub Env Ctx) (id : ConnectionId) : Lock :=
  ((hub.sessions.get? id).map (·.lock)).getD .free

/-- Takes the lock of a session, or gives the ticket to wait with. -/
def acquire (hub : Hub Env Ctx) (id : ConnectionId) : Option Ticket × Hub Env Ctx :=
  let (ticket, hub) := hub.ticket
  let (taken, lock) := (hub.lock id).acquire ticket
  (if taken then none else some ticket, hub.setLock id lock)

/-- Takes up the lock of a session if it was handed over. -/
def takeUp (hub : Hub Env Ctx) (id : ConnectionId) (ticket : Ticket) : Bool × Hub Env Ctx :=
  let (taken, lock) := (hub.lock id).takeUp ticket
  (taken, hub.setLock id lock)

def unlock (hub : Hub Env Ctx) (id : ConnectionId) : Hub Env Ctx :=
  hub.setLock id (hub.lock id).release

def context? (hub : Hub Env Ctx) (id : ConnectionId) : Option Ctx :=
  (hub.sessions.get? id).bind (·.context)

/-- Sets or takes away the context of a session. -/
def setContext (hub : Hub Env Ctx) (id : ConnectionId) (context : Option Ctx) : Hub Env Ctx :=
  { hub with sessions := hub.sessions.modify id fun session => { session with context } }

/-! ## Connecting -/

/-- Opens a session. Its number is used up also if its context cannot be made. -/
def connect (provider : ContextProvider Env Ctx) (hub : Hub Env Ctx) (transport : Transport) :
    Except SessionError ConnectionId × Hub Env Ctx :=
  let (id, hub) := hub.allocate
  match provider.create id with
  | .error reason => (.error (.contextCreation reason), hub)
  | .ok context => (.ok id, hub.publish id context transport)

/-! ## Disconnecting -/

/-- Takes a published session out and lets it close; says whether there was one. -/
def beginClose (hub : Hub Env Ctx) (id : ConnectionId) : Bool × Hub Env Ctx :=
  if hub.published.contains id then (true, (hub.unpublish id).advance id .closing)
  else (false, hub)

/-- Ends the context of a session whose lock is taken. A crash while it ends changes nothing. -/
def finishClose (provider : ContextProvider Env Ctx) (hub : Hub Env Ctx) (id : ConnectionId) :
    Hub Env Ctx :=
  let context := hub.context? id
  let hub := (hub.setContext id none).unlock id
  let hub := match context with
    | none => hub
    | some context => { hub with env := (provider.teardown hub.env context).1 }
  hub.advance id .closed

/-! ## Requests -/

/-- Whether a session whose lock is taken can handle a request: it may have been closed while the
lock was waited for. -/
def canHandle (hub : Hub Env Ctx) (id : ConnectionId) : Bool :=
  (hub.context? id).isSome && hub.state? id == some .live

/-- Handles a request under the lock of its session, and releases the lock. -/
def handle (provider : ContextProvider Env Ctx) (hub : Hub Env Ctx) (id : ConnectionId)
    (request : Bytes) : Except SessionError Bytes × Hub Env Ctx :=
  match hub.context? id with
  | none => (.error (.notFound id), hub.unlock id)
  | some context =>
    let (handled, context, env) := provider.handle hub.env context request
    let hub := ({ hub with env }.setContext id (some context)).unlock id
    (.ok (provider.reply request handled), hub)

/-! ## Sending -/

/-- Starts or goes on with a send; `step` is the transport's part of it. -/
def sendBy (step : Transport → Bytes → Option (Except SendError Unit) × Transport)
    (hub : Hub Env Ctx) (id : ConnectionId) (frame : Bytes) :
    Option (Except SendError Unit) × Hub Env Ctx :=
  match hub.transports.get? id with
  | none => (some (.error (.connectionLost "transport cut")), hub)
  | some transport =>
    let (result, transport) := step transport frame
    (result, { hub with transports := hub.transports.set id transport })

def send (hub : Hub Env Ctx) (id : ConnectionId) (frame : Bytes) :
    Option (Except SendError Unit) × Hub Env Ctx :=
  hub.sendBy Transport.send id frame

/-- Goes on with a send that was held back. -/
def resend (hub : Hub Env Ctx) (id : ConnectionId) (frame : Bytes) :
    Option (Except SendError Unit) × Hub Env Ctx :=
  hub.sendBy Transport.resend id frame

end Hub

end Inspector
