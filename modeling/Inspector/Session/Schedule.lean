import Inspector.Session.Operation

/-!
# Schedules

A schedule runs operations on a hub one at a time. Those that have to wait are numbered in the
order in which they first had to, and go on when they are polled. It also knows who else holds on
to sessions: holders outside of the hub, and handlers that are running.
-/

namespace Inspector

/-- A hub and the operations on it that wait. -/
structure Schedule (Env Ctx : Type) where
  hub : Hub Env Ctx
  /-- The operations that wait, by number in ascending order. -/
  pending : List (Nat × Suspended) := []
  nextTask : Nat := 0
  /-- Sessions that are held on to from outside. -/
  holders : List ConnectionId := []
  /-- Sessions whose handlers are running, the innermost first. -/
  running : List ConnectionId := []

inductive TaskProgress where
  | finished (outcome : Outcome)
  | pending (task : Nat)

namespace Schedule

variable {Env Ctx : Type} (provider : ContextProvider Env Ctx)

/-- Keeps the hub after a run, and the operation if it waits. -/
def note (schedule : Schedule Env Ctx) (run : Run Env Ctx) :
    TaskProgress × Schedule Env Ctx :=
  let (progress, hub) := run
  match progress with
  | .finished outcome => (.finished outcome, { schedule with hub })
  | .waits suspended =>
    (.pending schedule.nextTask,
      { schedule with
        hub
        pending := schedule.pending ++ [(schedule.nextTask, suspended)]
        nextTask := schedule.nextTask + 1 })

def start (schedule : Schedule Env Ctx) (operation : Operation) :
    TaskProgress × Schedule Env Ctx :=
  schedule.note (schedule.hub.start provider operation)

/-- Runs an operation that waits; `none` if there is none of the number. -/
def poll (schedule : Schedule Env Ctx) (task : Nat) :
    Option TaskProgress × Schedule Env Ctx :=
  match schedule.pending.lookup task with
  | none => (none, schedule)
  | some suspended =>
    match schedule.hub.resume provider suspended with
    | (.finished outcome, hub) =>
      (some (.finished outcome),
        { schedule with hub, pending := schedule.pending.filter fun entry => entry.1 ≠ task })
    | (.waits suspended, hub) =>
      (some (.pending task),
        { schedule with
          hub
          pending := schedule.pending.map fun entry =>
            if entry.1 = task then (task, suspended) else entry })

/-- Runs operations that wait, one after the other. -/
def pollEach (schedule : Schedule Env Ctx) :
    List Nat → List (Nat × TaskProgress) × Schedule Env Ctx
  | [] => ([], schedule)
  | task :: rest =>
    let (progress, schedule) := schedule.poll provider task
    let (others, schedule) := schedule.pollEach rest
    ((progress.toList.map fun p => (task, p)) ++ others, schedule)

/-- Runs every operation that waits once. -/
def pollAll (schedule : Schedule Env Ctx) : List (Nat × TaskProgress) × Schedule Env Ctx :=
  schedule.pollEach provider (schedule.pending.map (·.1))

/-! ## Handlers that do more -/

/-- Lets a request in so that other operations can run while its handler does; `none` if it does
not come to its handler now. -/
def enter? (schedule : Schedule Env Ctx) (id : ConnectionId) : Option (Schedule Env Ctx) :=
  match schedule.hub.enter id with
  | (.entered, hub) => some { schedule with hub, running := id :: schedule.running }
  | _ => none

/-- Handles a request that was let in. -/
def leave (schedule : Schedule Env Ctx) (run : Hub Env Ctx → Run Env Ctx) :
    TaskProgress × Schedule Env Ctx :=
  let schedule := { schedule with running := schedule.running.tail }
  schedule.note (run schedule.hub)

/-! ## The ends of channels -/

/-- Whether anyone can still send over a connection's channel. -/
def isOwned (schedule : Schedule Env Ctx) (id : ConnectionId) : Bool :=
  schedule.hub.published.contains id || schedule.holders.contains id ||
    schedule.running.contains id || schedule.pending.any fun entry => entry.2.holds.contains id

inductive Received where
  | frame (bytes : Bytes)
  | empty
  | disconnected
  /-- The connection has no channel, or its other end is gone. -/
  | notApplicable

/-- Takes a message off a connection's channel. -/
def receive (schedule : Schedule Env Ctx) (id : ConnectionId) : Received × Schedule Env Ctx :=
  match schedule.hub.transports.get? id with
  | some (.channel channel) =>
    if channel.closed then (.notApplicable, schedule)
    else
      match channel.queue with
      | frame :: queue =>
        let transports := schedule.hub.transports.set id (.channel { channel with queue })
        (.frame frame, { schedule with hub := { schedule.hub with transports } })
      | [] => (if schedule.isOwned id then .empty else .disconnected, schedule)
  | _ => (.notApplicable, schedule)

/-- Changes a connection's transport if the change applies to it; says whether it did. -/
def changeTransport (schedule : Schedule Env Ctx) (id : ConnectionId)
    (change : Transport → Option Transport) : Bool × Schedule Env Ctx :=
  match (schedule.hub.transports.get? id).bind change with
  | none => (false, schedule)
  | some transport =>
    let transports := schedule.hub.transports.set id transport
    (true, { schedule with hub := { schedule.hub with transports } })

def hold (schedule : Schedule Env Ctx) (id : ConnectionId) :
    Except SessionError Unit × Schedule Env Ctx :=
  if schedule.hub.isOpen id then
    (.ok (), { schedule with holders := id :: schedule.holders })
  else (.error (.notFound id), schedule)

end Schedule

end Inspector
