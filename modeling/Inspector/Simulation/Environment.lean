import Inspector.Host.CoreClasses
import Inspector.Introspection.Request
import Inspector.Session.Provider
import Inspector.Simulation.Machine

/-!
# The environment of an agent

A host in memory, how much of it the agent may see, and whether log lines are streamed. The
contexts of an agent answer their clients' requests about the host. Log commands are run on the
machine of `Simulation.machine`.
-/

namespace Inspector

inductive Access where
  | full
  /-- The class graph only. -/
  | classes
  /-- The class graph, the types of objects and the lengths of arrays. -/
  | typed
deriving DecidableEq, Repr

/-- The host and what is shared by all contexts. -/
structure Environment where
  host : InMemoryHost
  access : Access := .full
  /-- Types that are given for objects in place of their own, where not everything is seen. -/
  givenTypes : Table ObjectRef (Option HostType) := []
  streamLogs : Bool := true
  /-- Whether the clients of a whole agent want log lines; it has a switch of its own. -/
  agentLogs : Bool := true
  /-- How many contexts have been ended, where that is counted. -/
  teardowns : Nat := 0
deriving Repr

namespace Environment

/-- The type that is given for an object, or else its own. -/
def typeOf (env : Environment) (own : ObjectRef → Option HostType) (object : ObjectRef) :
    Option HostType :=
  match env.givenTypes.get? object with
  | some given => given
  | none => own object

def view (env : Environment) : HostView :=
  match env.access with
  | .full => env.host.view
  | .classes => { types := env.host.types, typeOf := env.typeOf fun _ => none }
  | .typed =>
    { types := env.host.types
      typeOf := env.typeOf env.host.view.typeOf
      arrayLength := env.host.view.arrayLength }

/-- Pins objects, where the host is asked to. -/
def pinAll (env : Environment) (objects : List ObjectRef) : Environment :=
  match env.access with
  | .full => { env with host := env.host.pinAll objects }
  | _ => env

/-- Takes a pin off objects, where the host is asked to. -/
def releaseAll (env : Environment) (objects : List ObjectRef) : Environment :=
  match env.access with
  | .full => { env with host := env.host.releaseAll objects }
  | _ => env

end Environment

/-- Which switch for log lines a context turns. -/
inductive LogSwitch where
  | shared | ofAgent
deriving DecidableEq, Repr

def LogSwitch.get (switch : LogSwitch) (env : Environment) : Bool :=
  match switch with
  | shared => env.streamLogs
  | ofAgent => env.agentLogs

def LogSwitch.set (switch : LogSwitch) (env : Environment) (on : Bool) : Environment :=
  match switch with
  | shared => { env with streamLogs := on }
  | ofAgent => { env with agentLogs := on }

namespace Environment

/-- Takes over what answering has changed: new pins, and the switch for log lines. -/
def update (env : Environment) (switch : LogSwitch) (before : PinTable) (after : QueryState) :
    Environment :=
  switch.set (env.pinAll (before.added after.pins)) after.streamLogs

def answer (env : Environment) (switch : LogSwitch) (pins : PinTable) (body : Wire.RequestBody) :
    Except QueryError Wire.ResponseBody × PinTable × Environment :=
  let (reply, state) := env.view.answer { pins, streamLogs := switch.get env } body
  (reply, state.pins, env.update switch pins state)

/-- Handles the bytes of a request of one client. -/
def handle (env : Environment) (switch : LogSwitch) (pins : PinTable) (request : Bytes) :
    Except RequestError Bytes × PinTable × Environment :=
  let (reply, state) := env.view.handle { pins, streamLogs := switch.get env } request
  (reply, state.pins, env.update switch pins state)

end Environment

def introspection (switch : LogSwitch) : ContextProvider Environment PinTable where
  create _ := .ok {}
  handle env pins request :=
    match env.handle switch pins request with
    | (.ok reply, pins, env) => (.replied reply, pins, env)
    | (.error e, pins, env) => (.failed e.message, pins, env)
  teardown env pins := (env.releaseAll pins.pinned, none)
  encodeLine line := (Wire.Response.encode (Wire.Response.logLine line)).mapError (·.message)
  encodeFailure := failureReply
  streamLogs env := env.streamLogs

end Inspector
