import Inspector.Bytes

/-!
# Contexts

Each connection has a context that handles its requests. Contexts are made by a provider and may
share an environment. A context can fail on a request, and it can crash; neither ends it.
-/

namespace Inspector

/-- The number of a connection, from 1 on. -/
abbrev ConnectionId := Nat

def connectionText (id : ConnectionId) : String :=
  s!"conn-{id}"

inductive Crash where
  | text (message : String)
  /-- Something that is no text. -/
  | silent
deriving DecidableEq, Repr

def Crash.message : Crash → String
  | text message => message
  | silent => "non-string panic payload"

inductive Handled where
  | replied (reply : Bytes)
  | failed (message : String)
  | crashed (crash : Crash)
deriving DecidableEq, Repr

/-- Makes contexts of type `Ctx` that share an environment of type `Env`. -/
structure ContextProvider (Env Ctx : Type) where
  create : ConnectionId → Except String Ctx
  handle : Env → Ctx → Bytes → Handled × Ctx × Env
  /-- Ends a context, which may crash in the end. -/
  teardown : Env → Ctx → Env × Option Crash
  /-- The message for a log line. -/
  encodeLine : String → Except String Bytes
  /-- The reply to a request that failed. -/
  encodeFailure : Bytes → String → Bytes
  /-- Whether log lines are streamed at the moment. -/
  streamLogs : Env → Bool

namespace ContextProvider

variable {Env Ctx : Type}

/-- The reply to a request, however its handling ended. -/
def reply (provider : ContextProvider Env Ctx) (request : Bytes) : Handled → Bytes
  | .replied reply => reply
  | .failed message => provider.encodeFailure request message
  | .crashed crash => provider.encodeFailure request ("handler panicked: " ++ crash.message)

end ContextProvider

end Inspector
