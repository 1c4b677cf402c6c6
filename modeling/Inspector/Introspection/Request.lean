import Inspector.Introspection.Answer

/-!
# Handling requests

A request that can be read always gets a response with its own id: a question without an answer is
answered by an error. A request that cannot be read fails, and the reply to it carries its id as
far as it can be made out.
-/

namespace Inspector

/-- The id of a reply to a request whose own id cannot be made out. -/
def unknownRequestId : Int64 := 0

/-- Why a request was not handled, and what was behind it. -/
structure RequestError where
  message : String
  causes : List String := []
deriving DecidableEq, Repr

namespace HostView

def handle (view : HostView) (state : QueryState) (request : Bytes) :
    Except RequestError Bytes × QueryState :=
  match Wire.Request.decode request with
  | .error e => (.error { message := "malformed request", causes := [e.message] }, state)
  | .ok request =>
    let (reply, state) := view.answer state request.body
    let body := match reply with
      | .ok body => body
      | .error e => .error e.message
    let response : Wire.Response := { id := request.id, body }
    ((Wire.Response.encode response).mapError fun e => { message := e.message }, state)

end HostView

/-- The reply to a request that failed; it is empty if it does not fit into a message. -/
def failureReply (request : Bytes) (message : String) : Bytes :=
  let id := match Wire.peekId request with
    | .ok id => id
    | .error _ => unknownRequestId
  match Wire.Response.encode (Wire.Response.failure id message) with
  | .ok bytes => bytes
  | .error _ => []

end Inspector
