import Inspector.Gzip.Member
import Inspector.LogStream.Lines
import Inspector.Session.Hub

/-!
# Operations on sessions

An operation runs until it is finished or has to wait: for the lock of a session, for a send that
is held back, or for a send to watch for. One that waits is kept as data and goes on when it is
run again; it makes no progress by itself.
-/

namespace Inspector

inductive DispatchError where
  | session (cause : SessionError)
  | framing (reason : String)
  | delivery (cause : SendError)
deriving DecidableEq, Repr

def DispatchError.message : DispatchError → String
  | session cause => cause.message
  | framing reason => "Framing error: " ++ reason
  | delivery cause => "Delivery failed: " ++ cause.message

/-- Who was sent a log line, and how it went. -/
structure BroadcastReport where
  recipients : List ConnectionId := []
  delivered : Nat := 0
  failed : Nat := 0
deriving DecidableEq, Repr

/-- What can be asked of the hub and may have to wait. -/
inductive Operation where
  | disconnect (id : ConnectionId)
  | disconnectAll
  /-- A request whose reply is given back. -/
  | message (id : ConnectionId) (request : Bytes)
  /-- A request whose reply goes over its connection. -/
  | binary (id : ConnectionId) (request : Bytes)
  /-- A log line for everyone. -/
  | broadcast (line : String)
  /-- Log lines for everyone, as long as they are wanted. -/
  | forward (lines : List (Option String))
  /-- Bytes sent as they are. -/
  | deliver (id : ConnectionId) (frame : Bytes)
  /-- Waits until a send is held back. -/
  | watch (id : ConnectionId)
deriving Repr

inductive Outcome where
  | disconnected (id : ConnectionId) (result : Except SessionError Unit)
  | disconnectedAll
  | replied (result : Except SessionError Bytes)
  | answered (result : Except DispatchError Unit)
  | broadcast (report : BroadcastReport)
  /-- The lines were read to their end, or up to one that was not text. -/
  | forwarded (result : Option LogStream.LineStats)
  | delivered (result : Except SendError Unit)
  | watched

/-- The send of a log line to one recipient: `none` while it is held back. -/
structure Delivery where
  recipient : ConnectionId
  result : Option (Except SendError Unit)

inductive Suspended where
  | disconnect (id : ConnectionId) (ticket : Ticket)
  | disconnectAll (id : ConnectionId) (ticket : Ticket) (rest : List ConnectionId)
  | message (id : ConnectionId) (ticket : Ticket) (request : Bytes)
  | binary (id : ConnectionId) (ticket : Ticket) (request : Bytes)
  /-- The reply to a request is held back. -/
  | reply (id : ConnectionId) (frame : Bytes)
  | broadcast (frame : Bytes) (deliveries : List Delivery)
  | forward (frame : Bytes) (deliveries : List Delivery) (rest : List (Option String))
      (stats : LogStream.LineStats)
  | deliver (id : ConnectionId) (frame : Bytes)
  | watch (id : ConnectionId) (ticket : Ticket)

/-- The sessions that an operation holds on to while it waits. -/
def Suspended.holds : Suspended → List ConnectionId
  | disconnect id _ | disconnectAll id _ _ | message id _ _ | binary id _ _ | reply id _
  | deliver id _ => [id]
  | broadcast _ deliveries | forward _ deliveries _ _ => deliveries.map (·.recipient)
  | watch _ _ => []

inductive Progress where
  | finished (outcome : Outcome)
  | waits (suspended : Suspended)

/-- An operation's run: how far it came, and the hub after it. -/
abbrev Run (Env Ctx : Type) := Progress × Hub Env Ctx

namespace Hub

variable {Env Ctx : Type} (provider : ContextProvider Env Ctx)

/-! ## Disconnecting -/

def disconnect (hub : Hub Env Ctx) (id : ConnectionId) : Run Env Ctx :=
  match hub.beginClose id with
  | (false, hub) => (.finished (.disconnected id (.error (.notFound id))), hub)
  | (true, hub) =>
    match hub.acquire id with
    | (some ticket, hub) => (.waits (.disconnect id ticket), hub)
    | (none, hub) => (.finished (.disconnected id (.ok ())), hub.finishClose provider id)

/-- Closes sessions one after the other; those that are gone already are passed over. -/
def disconnectEach (hub : Hub Env Ctx) : List ConnectionId → Run Env Ctx
  | [] => (.finished .disconnectedAll, hub)
  | id :: rest =>
    match hub.beginClose id with
    | (false, hub) => hub.disconnectEach rest
    | (true, hub) =>
      match hub.acquire id with
      | (some ticket, hub) => (.waits (.disconnectAll id ticket rest), hub)
      | (none, hub) => (hub.finishClose provider id).disconnectEach rest

/-! ## Requests -/

/-- How a request comes to its handler. -/
inductive Entry where
  /-- The lock of the session is taken, and the handler can run. -/
  | entered
  | waits (ticket : Ticket)
  | refused

/-- Under the lock of a session: whether the request may be handled. If not, the lock is released
again. -/
def admitRequest (hub : Hub Env Ctx) (id : ConnectionId) : Entry × Hub Env Ctx :=
  if hub.canHandle id then (.entered, hub) else (.refused, hub.unlock id)

/-- Looks up the session of a request and takes its lock. -/
def enter (hub : Hub Env Ctx) (id : ConnectionId) : Entry × Hub Env Ctx :=
  if hub.isOpen id then
    match hub.acquire id with
    | (some ticket, hub) => (.waits ticket, hub)
    | (none, hub) => hub.admitRequest id
  else (.refused, hub)

/-- Sends the reply to a request over its connection, which has to be open still. -/
def sendReply (hub : Hub Env Ctx) (id : ConnectionId) (result : Except SessionError Bytes) :
    Run Env Ctx :=
  match result with
  | .error e => (.finished (.answered (.error (.session e))), hub)
  | .ok reply =>
    if hub.isOpen id then
      let frame := Gzip.compress reply
      match hub.send id frame with
      | (none, hub) => (.waits (.reply id frame), hub)
      | (some sent, hub) => (.finished (.answered (sent.mapError .delivery)), hub)
    else (.finished (.answered (.error (.session (.notFound id)))), hub)

/-- Handles a request that has been let in and gives its reply back. -/
def runMessage (hub : Hub Env Ctx) (id : ConnectionId) (request : Bytes) : Run Env Ctx :=
  let (result, hub) := hub.handle provider id request
  (.finished (.replied result), hub)

/-- Handles a request that has been let in and sends its reply. -/
def runBinary (hub : Hub Env Ctx) (id : ConnectionId) (request : Bytes) : Run Env Ctx :=
  let (result, hub) := hub.handle provider id request
  hub.sendReply id result

def messageAfter (entry : Entry) (hub : Hub Env Ctx) (id : ConnectionId) (request : Bytes) :
    Run Env Ctx :=
  match entry with
  | .entered => hub.runMessage provider id request
  | .waits ticket => (.waits (.message id ticket request), hub)
  | .refused => (.finished (.replied (.error (.notFound id))), hub)

/-- Goes on with a request whose reply is sent, after its entry. -/
def binaryAfter (entry : Entry) (hub : Hub Env Ctx) (id : ConnectionId) (request : Bytes) :
    Run Env Ctx :=
  match entry with
  | .entered => hub.runBinary provider id request
  | .waits ticket => (.waits (.binary id ticket request), hub)
  | .refused => (.finished (.answered (.error (.session (.notFound id)))), hub)

/-! ## Log lines -/

/-- Starts a send to each recipient. -/
def deliverEach (hub : Hub Env Ctx) (frame : Bytes) :
    List ConnectionId → List Delivery × Hub Env Ctx
  | [] => ([], hub)
  | recipient :: rest =>
    let (result, hub) := hub.send recipient frame
    let (others, hub) := hub.deliverEach frame rest
    ({ recipient, result } :: others, hub)

/-- Goes on with the sends that are held back. -/
def redeliverEach (hub : Hub Env Ctx) (frame : Bytes) :
    List Delivery → List Delivery × Hub Env Ctx
  | [] => ([], hub)
  | delivery :: rest =>
    let (result, hub) := match delivery.result with
      | none => hub.resend delivery.recipient frame
      | done => (done, hub)
    let (others, hub) := hub.redeliverEach frame rest
    ({ delivery with result } :: others, hub)

def wentWell : Option (Except SendError Unit) → Bool
  | some (.ok ()) => true
  | _ => false

/-- The report of sends, once none is held back. -/
def report? (deliveries : List Delivery) : Option BroadcastReport :=
  if deliveries.all fun d => d.result.isSome then
    some {
      recipients := deliveries.map (·.recipient)
      delivered := deliveries.countP fun d => wentWell d.result
      failed := deliveries.countP fun d => !wentWell d.result }
  else none

/-- Starts sending a log line to every open session; `none` if it makes no message. -/
def startLine (hub : Hub Env Ctx) (line : String) :
    Option (Bytes × List Delivery) × Hub Env Ctx :=
  match provider.encodeLine line with
  | .error _ => (none, hub)
  | .ok message =>
    let frame := Gzip.compress message
    let (deliveries, hub) := hub.deliverEach frame hub.snapshot
    (some (frame, deliveries), hub)

def broadcast (hub : Hub Env Ctx) (line : String) : Run Env Ctx :=
  match hub.startLine provider line with
  | (none, hub) => (.finished (.broadcast {}), hub)
  | (some (frame, deliveries), hub) =>
    match report? deliveries with
    | some report => (.finished (.broadcast report), hub)
    | none => (.waits (.broadcast frame deliveries), hub)

/-- Sends log lines one after the other. Whether they are wanted is looked at before each; a line
that is not text ends the reading. -/
def forward (hub : Hub Env Ctx) (stats : LogStream.LineStats) :
    List (Option String) → Run Env Ctx
  | [] => (.finished (.forwarded (some stats)), hub)
  | none :: _ => (.finished (.forwarded none), hub)
  | some line :: rest =>
    if provider.streamLogs hub.env then
      let sent := { stats with forwarded := stats.forwarded + 1 }
      match hub.startLine provider line with
      | (none, hub) => hub.forward sent rest
      | (some (frame, deliveries), hub) =>
        match report? deliveries with
        | some _ => hub.forward sent rest
        | none => (.waits (.forward frame deliveries rest sent), hub)
    else hub.forward { stats with discarded := stats.discarded + 1 } rest

/-! ## Watching -/

/-- The gate of a transport that holds sends back. -/
def gate? (hub : Hub Env Ctx) (id : ConnectionId) : Option (Recorder × Gate) :=
  match hub.transports.get? id with
  | some (.stalling recorder gate) => some (recorder, gate)
  | _ => none

def watch (hub : Hub Env Ctx) (id : ConnectionId) : Run Env Ctx :=
  match hub.gate? id with
  | none => (.finished .watched, hub)
  | some (recorder, gate) =>
    let (ticket, hub) := hub.ticket
    let (seen, gate) := gate.watch ticket
    let hub := { hub with transports := hub.transports.set id (.stalling recorder gate) }
    (if seen then .finished .watched else .waits (.watch id ticket), hub)

/-! ## Running operations -/

/-- Starts an operation and runs it as far as it goes. -/
def start (hub : Hub Env Ctx) : Operation → Run Env Ctx
  | .disconnect id => hub.disconnect provider id
  | .disconnectAll => hub.disconnectEach provider hub.published
  | .message id request =>
    let (entry, hub) := hub.enter id
    hub.messageAfter provider entry id request
  | .binary id request =>
    let (entry, hub) := hub.enter id
    hub.binaryAfter provider entry id request
  | .broadcast line => hub.broadcast provider line
  | .forward lines => hub.forward provider {} lines
  | .deliver id frame =>
    match hub.send id frame with
    | (none, hub) => (.waits (.deliver id frame), hub)
    | (some result, hub) => (.finished (.delivered result), hub)
  | .watch id => hub.watch id

/-- Runs an operation that waits as far as it goes. -/
def resume (hub : Hub Env Ctx) (suspended : Suspended) : Run Env Ctx :=
  match suspended with
  | .disconnect id ticket =>
    match hub.takeUp id ticket with
    | (false, hub) => (.waits suspended, hub)
    | (true, hub) => (.finished (.disconnected id (.ok ())), hub.finishClose provider id)
  | .disconnectAll id ticket rest =>
    match hub.takeUp id ticket with
    | (false, hub) => (.waits suspended, hub)
    | (true, hub) => (hub.finishClose provider id).disconnectEach provider rest
  | .message id ticket request =>
    match hub.takeUp id ticket with
    | (false, hub) => (.waits suspended, hub)
    | (true, hub) =>
      let (entry, hub) := hub.admitRequest id
      hub.messageAfter provider entry id request
  | .binary id ticket request =>
    match hub.takeUp id ticket with
    | (false, hub) => (.waits suspended, hub)
    | (true, hub) =>
      let (entry, hub) := hub.admitRequest id
      hub.binaryAfter provider entry id request
  | .reply id frame =>
    match hub.resend id frame with
    | (none, hub) => (.waits suspended, hub)
    | (some sent, hub) => (.finished (.answered (sent.mapError .delivery)), hub)
  | .broadcast frame deliveries =>
    let (deliveries, hub) := hub.redeliverEach frame deliveries
    match report? deliveries with
    | some report => (.finished (.broadcast report), hub)
    | none => (.waits (.broadcast frame deliveries), hub)
  | .forward frame deliveries rest stats =>
    let (deliveries, hub) := hub.redeliverEach frame deliveries
    match report? deliveries with
    | some _ => hub.forward provider stats rest
    | none => (.waits (.forward frame deliveries rest stats), hub)
  | .deliver id frame =>
    match hub.resend id frame with
    | (none, hub) => (.waits suspended, hub)
    | (some result, hub) => (.finished (.delivered result), hub)
  | .watch id ticket =>
    match hub.gate? id with
    | some (_, gate) =>
      (if gate.isWoken ticket then .finished .watched else .waits suspended, hub)
    | none => (.finished .watched, hub)

end Hub

end Inspector
