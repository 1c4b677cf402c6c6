import Inspector.Options.CommandLine
import Inspector.Session.Schedule
import Inspector.Simulation.Demonstration
import Inspector.Simulation.Environment
import Inspector.Text.Hexadecimal

/-!
# The agent as a program

Serves one client over the standard streams, with a small host to try things out on. Each line of
input is a request in hexadecimal digits; its framed reply is written as a line of digits. A line
that is no digits ends the session, and so does the end of the input.
-/

namespace Inspector

abbrev Agent := Schedule Environment PinTable

namespace Agent

/-- An agent with the given settings and one open session. -/
def start (settings : Settings) : Except SessionError ConnectionId × Agent :=
  let env : Environment := { host := .demonstration, streamLogs := settings.streamLogs }
  let (opened, hub) := Hub.connect (introspection .shared) { env := env }
    (.newChannel settings.queueDepth)
  (opened, { hub := hub })

/-- Answers a request of a session: the frame to write, or why there is none. -/
def exchange (agent : Agent) (id : ConnectionId) (request : Bytes) :
    Except String Bytes × Agent :=
  let (progress, agent) := Schedule.start (introspection .shared) agent (.binary id request)
  match progress with
  | .finished (.answered (.error e)) => (.error e.message, agent)
  | _ =>
    match agent.receive id with
    | (.frame frame, agent) => (.ok frame, agent)
    | (_, agent) => (.error "no reply", agent)

end Agent

/-- Serves the session until the input ends. -/
partial def serve (input output : IO.FS.Stream) (agent : Agent) (id : ConnectionId) : IO Unit := do
  let line := (← input.getLine).trimAscii.toString
  if line.isEmpty then return
  match Text.Hexadecimal.decode? line.toList with
  | none => return
  | some request =>
    let (reply, agent) := agent.exchange id request
    match reply with
    | .ok frame => output.putStrLn (String.ofList (Text.Hexadecimal.encode frame))
    | .error message => output.putStrLn message
    output.flush
    serve input output agent id

end Inspector

open Inspector in
def main (arguments : List String) : IO UInt32 := do
  match CommandLine.parse arguments with
  | .error (.asked switch) =>
    IO.println (CommandLine.Error.asked switch).message
    return 0
  | .error e =>
    IO.eprintln ("error: " ++ e.message)
    return 2
  | .ok settings =>
    match Agent.start settings with
    | (.error e, _) =>
      IO.eprintln ("error: " ++ e.message)
      return 1
    | (.ok id, agent) =>
      serve (← IO.getStdin) (← IO.getStdout) agent id
      return 0
