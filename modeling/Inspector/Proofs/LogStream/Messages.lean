import Inspector.Proofs.Gzip.RoundTrip
import Inspector.Proofs.Introspection.Replies
import Inspector.Proofs.Introspection.SharedHost

/-!
# Log lines as messages

A log line becomes a message unless it is too long (`encodeLine_eq`), and whoever gets the message
reads the line in it, with the id of log lines (`logLines_logLine`). No reply to a request reads as
a log line (`logLines_reply`). Requests that turn the log stream on or off do so at once, and no
other requests do (`streamLogs_handle`).
-/

namespace Inspector.LogStream

open Pack Wire

/-! ## Log lines among frames -/

def isLogLine (response : Response) : Bool :=
  match response.body with
  | .logStream _ => true
  | _ => false

/-- The message in a frame, if it can be read. -/
def received? (frame : Bytes) : Option Response := do
  let message ← (Gzip.decompress frame).toOption
  (Response.decode message).toOption

/-- The log lines among the frames that were sent over a connection. -/
def logLines (frames : List Bytes) : List Response :=
  (frames.filterMap received?).filter isLogLine

theorem logLines_append (frames more : List Bytes) :
    logLines (frames ++ more) = logLines frames ++ logLines more := by
  rw [logLines, List.filterMap_append, List.filter_append]
  rfl

theorem received?_compress (message : Bytes) :
    received? (Gzip.compress message) = (Response.decode message).toOption := by
  rw [received?, Gzip.decompress_compress]
  rfl

/-- A message that reads as no log line adds none. -/
theorem logLines_of_ordinary {message : Bytes}
    (ordinary : ∀ response, Response.decode message = .ok response → isLogLine response = false) :
    logLines [Gzip.compress message] = [] := by
  rw [logLines, List.filterMap_cons, received?_compress]
  cases read : Response.decode message with
  | error e => rfl
  | ok response => exact List.filter_cons_of_neg (by rw [ordinary response read]; nofun)

/-! ## Lines that are sent -/

/-- The length of the longest line that makes a message, in bytes: the rest of the message takes up
77 bytes, 5 of which are not counted. -/
def maxLineLength : Nat := maxLength - 72

def isSendable (line : String) : Bool :=
  (Text.encode line).length ≤ maxLineLength

theorem fits_logLine_iff {line : String} :
    ((Response.logLine line).toItem "res" ResponseBody.toItem).Fits ↔ isSendable line = true := by
  have res : (Text.encode "res").length = 3 := by decide +kernel
  have number : (Text.encode "id").length = 2 := by decide +kernel
  have body : (Text.encode "body").length = 4 := by decide +kernel
  have stream : (Text.encode "LogStream").length = 9 := by decide +kernel
  rw [isSendable, decide_eq_true_iff]
  simp only [Response.logLine, Envelope.toItem, ResponseBody.toItem, Item.Fits, Item.bytes,
    Item.bytesOfFields, intBytes, Bytes.length_ofNatLE, maxLineLength, maxLength,
    length_fieldBytes, length_block, List.length_append, List.length_cons, List.length_nil]
  omega

/-- A line makes a message if it is not too long, whichever switch is turned. -/
theorem encodeLine_eq (switch : LogSwitch) (line : String) :
    (isSendable line = true ∧ (introspection switch).encodeLine line =
      .ok ((Response.logLine line).toItem "res" ResponseBody.toItem).bytes) ∨
    (isSendable line = false ∧
      ∃ reason, (introspection switch).encodeLine line = .error reason) := by
  rw [introspection]
  dsimp only
  cases encoded : Response.encode (Response.logLine line) with
  | ok bytes =>
    obtain ⟨fits, rfl⟩ := pack_eq_ok_iff.1 encoded
    exact .inl ⟨fits_logLine_iff.1 fits, rfl⟩
  | error e =>
    refine .inr ⟨?_, e.message, rfl⟩
    rw [Bool.eq_false_iff]
    intro sendable
    rw [Response.encode, pack_eq_ok_iff.2 ⟨fits_logLine_iff.2 sendable, rfl⟩] at encoded
    cases encoded

/-- Whoever gets the message of a line reads the line in it. -/
theorem logLines_logLine {line : String} (sendable : isSendable line = true) :
    logLines [Gzip.compress ((Response.logLine line).toItem "res" ResponseBody.toItem).bytes] =
      [Response.logLine line] := by
  have shallow : (Response.logLine line).body.Shallow :=
    ResponseBody.shallow_of_values_eq_nil rfl
  have addressed : Response.isStrayLogLine (Response.logLine line) = false := rfl
  have read := Response.decode_bytes (fits_logLine_iff.2 sendable)
  rw [if_neg (not_not_intro shallow), addressed] at read
  rw [logLines, List.filterMap_cons, received?_compress, read]
  rfl

/-! ## Replies -/

theorem isLogLine_of_decode {response read : Response} {bytes : Bytes}
    (encoded : Response.encode response = .ok bytes)
    (ordinary : ∀ text, response.body ≠ .logStream text)
    (decoded : Response.decode bytes = .ok read) : isLogLine read = false := by
  obtain ⟨fits, rfl⟩ := pack_eq_ok_iff.1 encoded
  rw [Response.decode_bytes fits] at decoded
  split at decoded
  · cases decoded
  · split at decoded
    · cases decoded
    · cases decoded
      rw [isLogLine]
      split
      · rename_i text same
        exact absurd same (ordinary text)
      · rfl

/-- The reply to a request that failed is an error under some id, or empty. -/
theorem failureReply_eq (raw : Bytes) (message : String) :
    ∃ id, failureReply raw message =
      (Response.encode (Response.failure id message)).toOption.getD [] := by
  cases peeked : peekId raw with
  | ok id =>
    refine ⟨id, ?_⟩
    simp only [failureReply, peeked]
    cases Response.encode (Response.failure id message) <;> rfl
  | error e =>
    refine ⟨unknownRequestId, ?_⟩
    simp only [failureReply, peeked]
    cases Response.encode (Response.failure unknownRequestId message) <;> rfl

theorem isLogLine_failureReply {raw : Bytes} {message : String} {read : Response}
    (decoded : Response.decode (failureReply raw message) = .ok read) : isLogLine read = false := by
  obtain ⟨id, same⟩ := failureReply_eq raw message
  rw [same] at decoded
  cases encoded : Response.encode (Response.failure id message) with
  | ok bytes =>
    rw [encoded] at decoded
    exact isLogLine_of_decode encoded nofun decoded
  | error e =>
    have nothing : (Response.decode []).toOption = none := rfl
    rw [encoded] at decoded
    rw [show Response.decode [] = .ok read from decoded] at nothing
    cases nothing

/-- No reply to a request reads as a log line. -/
theorem logLines_reply (switch : LogSwitch) (env : Environment) (pins : PinTable) (raw : Bytes) :
    logLines [Gzip.compress
      ((introspection switch).reply raw ((introspection switch).handle env pins raw).1)] = [] := by
  refine logLines_of_ordinary fun read decoded => ?_
  rw [reply_introspection] at decoded
  split at decoded
  · rename_i reply handled
    cases asked : Request.decode raw with
    | error e =>
      rw [HostView.handle_of_malformed asked] at handled
      cases handled
    | ok request =>
      rw [HostView.handle_of_read asked] at handled
      cases encoded : Response.encode
          (owed env.view { pins, streamLogs := switch.get env } raw) with
      | error e =>
        rw [encoded] at handled
        cases handled
      | ok bytes =>
        rw [encoded] at handled
        cases handled
        exact isLogLine_of_decode encoded (isAnswer_owed _ _ raw).2 decoded
  · exact isLogLine_failureReply decoded

/-! ## The switch -/

/-- Whether log lines are wanted after a request was handled. -/
def wantedAfter (raw : Bytes) (wanted : Bool) : Bool :=
  match Request.decode raw with
  | .ok { id := _, body := .setLogStream enabled } => enabled
  | _ => wanted

theorem streamLogs_answer (view : HostView) (state : QueryState) (body : RequestBody) :
    (view.answer state body).2.streamLogs =
      match body with
      | .setLogStream enabled => enabled
      | _ => state.streamLogs := by
  cases body with
  | setLogStream enabled => rfl
  | _ =>
    simp only [HostView.answer]
    split <;> rfl

/-- A request to turn the log stream on or off does so; others leave it as it is. -/
theorem streamLogs_handle (env : Environment) (pins : PinTable) (raw : Bytes) :
    ((introspection .shared).handle env pins raw).2.2.streamLogs =
      wantedAfter raw env.streamLogs := by
  have switched : ((introspection .shared).handle env pins raw).2.2.streamLogs =
      (env.view.handle { pins, streamLogs := env.streamLogs } raw).2.streamLogs := by
    rw [Environment.handle_introspection]
    rfl
  rw [switched, HostView.handle, wantedAfter]
  cases Request.decode raw with
  | error e => rfl
  | ok request =>
    dsimp only
    rw [streamLogs_answer]
    obtain ⟨id, body⟩ := request
    cases body <;> rfl

/-- Ending a context leaves the switch as it is. -/
theorem streamLogs_teardown (env : Environment) (pins : PinTable) :
    ((introspection .shared).teardown env pins).1.streamLogs = env.streamLogs := by
  rw [introspection]
  dsimp only
  rw [Environment.releaseAll]
  split <;> rfl

end Inspector.LogStream
