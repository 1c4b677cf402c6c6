import Inspector.Simulation.Environment
import Inspector.Text.Utf8

/-!
# Contexts that echo

Contexts for trying out sessions: they repeat what they are asked, count their requests, and fail
or crash on demand.
-/

namespace Inspector

/-- A context that counts its requests. -/
structure EchoContext where
  id : ConnectionId
  count : Nat := 0
deriving DecidableEq, Repr

/-- What echoing contexts are made to do. -/
structure EchoRules where
  /-- Connections whose contexts cannot be made. -/
  failOpen : List ConnectionId := []
  /-- Connections whose contexts crash when they end. -/
  crashTeardown : List ConnectionId := []
deriving DecidableEq, Repr

/-- How a request is answered. -/
def EchoContext.answer (context : EchoContext) (request : Bytes) : Handled :=
  match Text.decode? request with
  | some "fail" => .failed "refused"
  | some "panic" => .crashed (.text "context exploded")
  | some "panic-string" => .crashed (.text ("exploded in " ++ connectionText context.id))
  | some "panic-other" => .crashed .silent
  | some "count" => .replied (Text.encode s!"{connectionText context.id}:{context.count}")
  | _ => .replied (Text.encode "reply:" ++ request)

def echo (rules : EchoRules) : ContextProvider Environment EchoContext where
  create id := if rules.failOpen.contains id then .error "host detached" else .ok { id := id }
  handle env context request :=
    let counted := { context with count := context.count + 1 }
    (counted.answer request, counted, env)
  teardown env context :=
    ({ env with teardowns := env.teardowns + 1 },
      if rules.crashTeardown.contains context.id then some (.text "teardown exploded") else none)
  encodeLine line :=
    if line = "unencodable" then .error "unencodable" else .ok (Text.encode ("event:" ++ line))
  encodeFailure _ message := Text.encode ("failure:" ++ message)
  streamLogs env := env.streamLogs

end Inspector
