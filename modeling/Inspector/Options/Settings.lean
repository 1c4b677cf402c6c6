import Inspector.Options.Address
import Inspector.Text.Blank

/-!
# Settings of the agent
-/

namespace Inspector

/-- What can be set when the agent is started. -/
structure Settings where
  port : Nat := 32900
  bind : Address := .v4 [0, 0, 0, 0]
  /-- The command whose output is streamed, one message for each line. -/
  logCommand : String := "logcat"
  /-- A command that is run once before the log command. -/
  clearCommand : String := "logcat -c"
  /-- Whether log lines are streamed until a client turns them off. -/
  streamLogs : Bool := true
  /-- How often binding the port is tried. -/
  bindAttempts : Nat := 5
  /-- The delay between attempts, in milliseconds. -/
  bindBackoff : Nat := 200
  /-- How many messages wait for each connection. -/
  queueDepth : Nat := 256
  logLevel : String := "info"
deriving DecidableEq, Repr

namespace Settings

def listenAddress (settings : Settings) : String :=
  settings.bind.withPort settings.port

/-- A command without white space around it, unless nothing is left. -/
def command? (text : String) : Option String :=
  let trimmed := Text.trim text
  if trimmed.isEmpty then none else some trimmed

/-- The log command, unless log streaming is disabled. -/
def effectiveLogCommand (settings : Settings) : Option String :=
  command? settings.logCommand

/-- The clear command, unless there is none. -/
def effectiveClearCommand (settings : Settings) : Option String :=
  command? settings.clearCommand

end Settings

end Inspector
