import Inspector.Bytes
import Inspector.Session.Lock

/-!
# Transports

The way out to one client. A recorder keeps what is sent until its connection is cut; a stalling
transport holds every send back until it is released; a channel has a queue of bounded length and
never waits.
-/

namespace Inspector

inductive SendError where
  | connectionLost (reason : String)
  | io (reason : String)
deriving DecidableEq, Repr

def SendError.message : SendError → String
  | connectionLost reason => "Connection lost: " ++ reason
  | io reason => "I/O error: " ++ reason

/-- What was sent, in order. -/
structure Recorder where
  frames : List Bytes := []
  cut : Bool := false
deriving DecidableEq, Repr

/-- Keeps a message, unless the connection is cut. -/
def Recorder.send (recorder : Recorder) (frame : Bytes) : Except SendError Unit × Recorder :=
  if recorder.cut then (.error (.connectionLost "transport cut"), recorder)
  else (.ok (), { recorder with frames := recorder.frames ++ [frame] })

/-- Holds sends back, and tells those who watch for them. One send wakes the watcher that came
first; without a watcher one wake-up is kept, however many sends come. -/
structure Gate where
  released : Bool := false
  watching : List Ticket := []
  woken : List Ticket := []
  kept : Bool := false
deriving DecidableEq, Repr

namespace Gate

/-- Tells a watcher that a send is held back. -/
def notify (gate : Gate) : Gate :=
  match gate.watching with
  | first :: watching => { gate with watching, woken := first :: gate.woken }
  | [] => { gate with kept := true }

/-- Watches for a send; a wake-up that was kept is used up at once. -/
def watch (gate : Gate) (ticket : Ticket) : Bool × Gate :=
  if gate.kept then (true, { gate with kept := false })
  else (false, { gate with watching := gate.watching ++ [ticket] })

def isWoken (gate : Gate) (ticket : Ticket) : Bool :=
  gate.woken.contains ticket

end Gate

/-- A queue of messages to be taken off at the other end. -/
structure Channel where
  capacity : Nat
  queue : List Bytes := []
  closed : Bool := false
deriving DecidableEq, Repr

/-- Puts a message into the queue if there is room. -/
def Channel.send (channel : Channel) (frame : Bytes) : Except SendError Unit × Channel :=
  if channel.closed then (.error (.connectionLost "socket writer closed"), channel)
  else if channel.capacity ≤ channel.queue.length then
    (.error (.io "outbound queue full, frame dropped"), channel)
  else (.ok (), { channel with queue := channel.queue ++ [frame] })

/-- The way out to a client. -/
inductive Transport where
  | recording (recorder : Recorder)
  | stalling (recorder : Recorder) (gate : Gate)
  | channel (channel : Channel)
deriving DecidableEq, Repr

namespace Transport

def newRecording : Transport := recording {}

def newStalling : Transport := stalling {} {}

/-- A channel with room for one message at least. -/
def newChannel (depth : Nat) : Transport :=
  channel { capacity := max depth 1 }

/-- Goes on with a send: `none` while it is held back. -/
def resend (transport : Transport) (frame : Bytes) :
    Option (Except SendError Unit) × Transport :=
  match transport with
  | recording recorder =>
    let (result, recorder) := recorder.send frame
    (some result, recording recorder)
  | stalling recorder gate =>
    if gate.released then
      let (result, recorder) := recorder.send frame
      (some result, stalling recorder gate)
    else (none, transport)
  | channel queue =>
    let (result, queue) := queue.send frame
    (some result, channel queue)

/-- Starts a send. One that is held back makes itself known. -/
def send (transport : Transport) (frame : Bytes) : Option (Except SendError Unit) × Transport :=
  match transport with
  | stalling recorder gate =>
    if gate.released then transport.resend frame else (none, stalling recorder gate.notify)
  | _ => transport.resend frame

/-- What was sent over a transport that keeps it. -/
def frames? : Transport → Option (List Bytes)
  | recording recorder | stalling recorder _ => some recorder.frames
  | channel _ => none

/-- The transport with its connection cut, if it can be. -/
def cut? : Transport → Option Transport
  | recording recorder => some (recording { recorder with cut := true })
  | stalling recorder gate => some (stalling { recorder with cut := true } gate)
  | channel _ => none

/-- The transport with all sends let through, if it holds any back. -/
def release? : Transport → Option Transport
  | stalling recorder gate => some (stalling recorder { gate with released := true })
  | _ => none

/-- The transport without its other end, if it has one. -/
def dropReceiver? : Transport → Option Transport
  | channel queue => some (channel { queue with queue := [], closed := true })
  | _ => none

end Transport

end Inspector
