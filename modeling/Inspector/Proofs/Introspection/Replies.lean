import Inspector.Proofs.Introspection.FieldReads
import Inspector.Proofs.Session.Lifecycle
import Inspector.Proofs.Wire.Response

/-!
# Every request is replied to

Whatever bytes a client sends over an open connection, it gets a reply that it can read: the answer
to its question or an error, under the id of its request as far as that can be made out
(`every_message_replied`). Values are sent to a limited depth (`HostView.nesting_serialize_le`),
also where sequences hold themselves, so that no reply nests deeper than clients read.
-/

namespace Inspector

open Pack Wire Outcome

/-! ## How deep values are sent -/

namespace HostView

variable (view : HostView)

/-- What holds of whatever is sent holds of each of several values sent. -/
theorem forall_mem_serializeEach {P : Wire.Value → Prop}
    {send : HostValue → PinTable → Wire.Value × PinTable}
    (each : ∀ value pins, P (send value pins).1) (values : List HostValue) (pins : PinTable) :
    ∀ sent ∈ (serializeEach send values pins).1, P sent := by
  induction values generalizing pins with
  | nil => nofun
  | cons value rest ih =>
    intro sent present
    rcases List.mem_cons.1 present with rfl | later
    · exact each value pins
    · exact ih _ sent later

theorem nesting_toWire (scalar : Scalar) : scalar.toWire.nesting = 0 := by
  cases scalar <;> rfl

theorem nesting_serializeWith_none (value : HostValue) (pins : PinTable) :
    (view.serializeWith none value pins).1.value.nesting = 0 := by
  cases value with
  | scalar scalar => exact nesting_toWire scalar
  | null => rfl
  | object object =>
    rw [serializeWith]
    split
    · rfl
    · split
      · rfl
      · exact nesting_toWire _
      · rename_i none _
        cases none
      · rfl

theorem nesting_serializeWith_some {send : HostValue → PinTable → Wire.Value × PinTable}
    {levels : Nat} (each : ∀ value pins, (send value pins).1.nesting ≤ levels)
    (value : HostValue) (pins : PinTable) :
    (view.serializeWith (some send) value pins).1.value.nesting ≤ levels + 1 := by
  cases value with
  | scalar scalar => exact (nesting_toWire scalar).trans_le (Nat.zero_le _)
  | null => exact Nat.zero_le _
  | object object =>
    rw [serializeWith]
    split
    · exact Nat.zero_le _
    · split
      · exact Nat.zero_le _
      · exact (nesting_toWire _).trans_le (Nat.zero_le _)
      · rename_i send' sequence same _
        cases same
        refine Value.nestingInside_le_iff.2 ?_
        exact forall_mem_serializeEach (fun value pins => Nat.lt_succ_of_le (each value pins)) _ _
      · exact Nat.zero_le _

/-- A value nests no deeper than it is sent. -/
theorem nesting_serialize_le (levels : Nat) (value : HostValue) (pins : PinTable) :
    (view.serialize levels value pins).1.nesting ≤ levels := by
  induction levels generalizing value pins with
  | zero => exact Nat.le_of_eq (view.nesting_serializeWith_none value pins)
  | succ levels ih => exact view.nesting_serializeWith_some ih value pins

/-! ## Answers that can be read -/

/-- An answer whose values nest no deeper than they are sent, and which is no log line. -/
def IsAnswer (body : ResponseBody) : Prop :=
  (∀ value ∈ body.values, value.nesting ≤ maxSerializeDepth) ∧ ∀ text, body ≠ .logStream text

theorem isAnswer_fields {entries : List FieldEntry}
    (each : ∀ entry ∈ entries, entry.value.nesting ≤ maxSerializeDepth) :
    IsAnswer (.fields entries) := by
  refine ⟨?_, nofun⟩
  rw [ResponseBody.values]
  exact List.forall_mem_map.2 each

theorem nesting_fieldEntries (rows : List (FieldSummary × Option HostValue)) (pins : PinTable) :
    ∀ entry ∈ (view.fieldEntries rows pins).1, entry.value.nesting ≤ maxSerializeDepth := by
  induction rows generalizing pins with
  | nil => nofun
  | cons row rest ih =>
    obtain ⟨row, value⟩ := row
    intro entry present
    rcases List.mem_cons.1 present with rfl | later
    · cases value with
      | none => exact Nat.zero_le _
      | some value => exact view.nesting_serialize_le maxSerializeDepth value pins
    · exact ih _ entry later

theorem isAnswer_signatureAnswer (found : Option String) : IsAnswer (signatureAnswer found) := by
  cases found <;> exact ⟨nofun, nofun⟩

/-- Whatever a question is answered with can be read. -/
theorem isAnswer_of_lookUp {pins after : PinTable} {body : RequestBody} {reply : ResponseBody}
    (found : view.lookUp pins body = .ok (reply, after)) : IsAnswer reply := by
  cases body with
  | loadedClasses =>
    cases found
    exact ⟨nofun, nofun⟩
  | processStatus =>
    cases found
    exact ⟨nofun, nofun⟩
  | setLogStream enabled =>
    cases found
    exact ⟨nofun, nofun⟩
  | staticFields className =>
    obtain ⟨rows, -, found⟩ := bind_eq_ok.1 found
    obtain ⟨values, -, found⟩ := bind_eq_ok.1 found
    cases found
    exact isAnswer_fields (view.nesting_fieldEntries _ _)
  | objectFields id =>
    obtain ⟨object, -, found⟩ := bind_eq_ok.1 found
    obtain ⟨className, -, found⟩ := bind_eq_ok.1 found
    obtain ⟨rows, -, found⟩ := bind_eq_ok.1 found
    obtain ⟨values, -, found⟩ := bind_eq_ok.1 found
    cases found
    exact isAnswer_fields (view.nesting_fieldEntries _ _)
  | fieldSignature target field =>
    obtain ⟨member, -, found⟩ := bind_eq_ok.1 found
    obtain ⟨signature, -, found⟩ := bind_eq_ok.1 found
    cases found
    exact isAnswer_signatureAnswer signature
  | methodSignature target method hints =>
    obtain ⟨member, -, found⟩ := bind_eq_ok.1 found
    obtain ⟨signature, -, found⟩ := bind_eq_ok.1 found
    cases found
    exact isAnswer_signatureAnswer signature
  | readSequence id =>
    obtain ⟨object, -, found⟩ := bind_eq_ok.1 found
    obtain ⟨sequence, -, found⟩ := bind_eq_ok.1 found
    cases found
    refine ⟨?_, nofun⟩
    exact forall_mem_serializeEach
      (fun value pins => Nat.le_succ_of_le (view.nesting_serialize_le _ value pins)) _ _

theorem isAnswer_of_answer {state : QueryState} {body : RequestBody} {reply : ResponseBody}
    (answered : (view.answer state body).1 = .ok reply) : IsAnswer reply := by
  cases found : view.lookUp state.pins body with
  | error e =>
    simp only [answer, found] at answered
    cases answered
  | ok result =>
    obtain ⟨reply', pins⟩ := result
    simp only [answer, found] at answered
    cases answered
    exact view.isAnswer_of_lookUp found

end HostView

/-! ## The response that a request is owed -/

/-- The response to the bytes of a request. -/
def owed (view : HostView) (state : QueryState) (raw : Bytes) : Response :=
  match Request.decode raw with
  | .ok request =>
    { id := request.id
      body :=
        match (view.answer state request.body).1 with
        | .ok body => body
        | .error e => .error e.message }
  | .error _ =>
    { id :=
        match peekId raw with
        | .ok id => id
        | .error _ => 0
      body := .error "malformed request" }

theorem isAnswer_owed (view : HostView) (state : QueryState) (raw : Bytes) :
    HostView.IsAnswer (owed view state raw).body := by
  rw [owed]
  split
  · dsimp only
    split
    · rename_i body answered
      exact view.isAnswer_of_answer answered
    · exact ⟨nofun, nofun⟩
  · exact ⟨nofun, nofun⟩

/-- The response owed is read back from what is written of it. -/
theorem decode_owed {view : HostView} {state : QueryState} {raw : Bytes}
    (fits : ((owed view state raw).toItem "res" ResponseBody.toItem).Fits) :
    Response.decode ((owed view state raw).toItem "res" ResponseBody.toItem).bytes =
      .ok (owed view state raw) := by
  obtain ⟨sent, ordinary⟩ := isAnswer_owed view state raw
  have shallow : (owed view state raw).body.Shallow :=
    fun value present => Nat.le_trans (sent value present) (by decide)
  have addressed : Response.WellAddressed (owed view state raw) :=
    fun text same => absurd same (ordinary text)
  rw [Response.decode_bytes fits, if_neg (not_not_intro shallow),
    Response.isStrayLogLine_eq_false_iff.2 addressed]
  rfl

theorem owed_of_malformed {view : HostView} {state : QueryState} {raw : Bytes} {e : Wire.Error}
    (malformed : Request.decode raw = .error e) :
    ∃ id, owed view state raw = Response.failure id "malformed request" := by
  rw [owed, malformed]
  exact ⟨_, rfl⟩

/-- The error for a request that cannot be read always fits into a message. -/
theorem fits_malformed (id : Int64) :
    ((Response.failure id "malformed request").toItem "res" ResponseBody.toItem).Fits := by
  have res : (Text.encode "res").length = 3 := by decide +kernel
  have number : (Text.encode "id").length = 2 := by decide +kernel
  have body : (Text.encode "body").length = 4 := by decide +kernel
  have error : (Text.encode "Error").length = 5 := by decide +kernel
  have text : (Text.encode "malformed request").length = 17 := by decide +kernel
  simp only [Response.failure, Envelope.toItem, ResponseBody.toItem, Item.Fits, Item.bytes,
    Item.bytesOfFields, intBytes, Bytes.length_ofNatLE, maxLength, length_fieldBytes, length_block,
    List.length_append, List.length_cons, List.length_nil]
  omega

namespace HostView

variable {view : HostView} {state : QueryState} {raw : Bytes}

theorem handle_of_read {request : Request} (read : Request.decode raw = .ok request) :
    (view.handle state raw).1 =
      (Response.encode (owed view state raw)).mapError fun e => { message := e.message } := by
  rewrite [handle, owed, read]
  rfl

theorem handle_of_malformed {e : Wire.Error} (malformed : Request.decode raw = .error e) :
    (view.handle state raw).1 =
      .error { message := "malformed request", causes := [e.message] } := by
  rw [handle, malformed]

end HostView

theorem failureReply_of_malformed {view : HostView} {state : QueryState} {raw : Bytes}
    {e : Wire.Error} (malformed : Request.decode raw = .error e) {bytes : Bytes}
    (encoded : Response.encode (owed view state raw) = .ok bytes) :
    failureReply raw "malformed request" = bytes := by
  rw [owed, malformed] at encoded
  cases peeked : peekId raw with
  | ok id =>
    simp only [peeked] at encoded
    simp only [failureReply, Response.failure, peeked, encoded]
  | error e =>
    simp only [peeked] at encoded
    simp only [failureReply, Response.failure, peeked, unknownRequestId, encoded]

/-- What a context of an agent replies with. -/
theorem reply_introspection (env : Environment) (switch : LogSwitch) (pins : PinTable)
    (raw : Bytes) :
    (introspection switch).reply raw ((introspection switch).handle env pins raw).1 =
      match (env.view.handle { pins, streamLogs := switch.get env } raw).1 with
      | .ok reply => reply
      | .error e => failureReply raw e.message := by
  have handled : env.handle switch pins raw =
      ((env.view.handle { pins, streamLogs := switch.get env } raw).1, _) := rfl
  simp only [introspection, handled]
  cases (env.view.handle { pins, streamLogs := switch.get env } raw).1 <;> rfl

/-- The reply is the response owed, if that fits into a message. -/
theorem decode_reply {env : Environment} {switch : LogSwitch} {pins : PinTable} {raw : Bytes}
    (fits : ((owed env.view { pins, streamLogs := switch.get env } raw).toItem "res"
      ResponseBody.toItem).Fits) :
    Response.decode
        ((introspection switch).reply raw ((introspection switch).handle env pins raw).1) =
      .ok (owed env.view { pins, streamLogs := switch.get env } raw) := by
  have encoded := pack_eq_ok_iff.2 ⟨fits, rfl⟩
  have sent : (introspection switch).reply raw ((introspection switch).handle env pins raw).1 =
      ((owed env.view { pins, streamLogs := switch.get env } raw).toItem "res"
        ResponseBody.toItem).bytes := by
    rw [reply_introspection]
    cases read : Request.decode raw with
    | ok request =>
      rw [HostView.handle_of_read read, Response.encode, encoded]
      rfl
    | error e =>
      rw [HostView.handle_of_malformed read]
      exact failureReply_of_malformed read encoded
  rw [sent, decode_owed fits]

/-! ## Requests that are let in -/

namespace Hub

variable {Env Ctx : Type} {provider : ContextProvider Env Ctx} {hub : Hub Env Ctx}
  {id : ConnectionId} {context : Ctx}

/-- Under the lock of an open session, a request is handled and replied to. -/
theorem messageAfter_admitRequest (has : hub.context? id = some context)
    (live : hub.state? id = some .live) (raw : Bytes) :
    ∃ after, (hub.admitRequest id).2.messageAfter provider (hub.admitRequest id).1 id raw =
      (.finished (.replied (.ok (provider.reply raw (provider.handle hub.env context raw).1))),
        after) := by
  have able : hub.canHandle id = true := by simp [canHandle, has, live]
  simp only [admitRequest, able, ↓reduceIte, messageAfter, runMessage, handle, has]
  exact ⟨_, rfl⟩

/-- A request to an open session is replied to at once if nobody has the lock. -/
theorem start_message_of_free (found : hub.isOpen id = true) (has : hub.context? id = some context)
    (free : hub.lock id = .free) (raw : Bytes) :
    ∃ after, hub.start provider (.message id raw) =
      (.finished (.replied (.ok (provider.reply raw (provider.handle hub.env context raw).1))),
        after) := by
  have taken : ((hub.lock id).acquire hub.nextTicket).1 = true := by rw [free]; rfl
  have live := (isOpen_iff.1 found).2
  simp only [start, enter, found, ↓reduceIte, acquire_of_taken _ _ taken]
  let later : Hub Env Ctx := { hub with nextTicket := hub.nextTicket + 1 }
  have same : later.context? id = some context := has
  have lively : later.state? id = some .live := live
  exact messageAfter_admitRequest ((context?_setLock _).trans same)
    ((state?_setLock _).trans lively) raw

/-- A request to an open session that has waited for the lock is replied to once it has it. -/
theorem resume_message_of_handed (found : hub.isOpen id = true)
    (has : hub.context? id = some context) {ticket : Ticket} {waiting : List Ticket}
    (handed : hub.lock id = .handed ticket waiting) (raw : Bytes) :
    ∃ after, hub.resume provider (.message id ticket raw) =
      (.finished (.replied (.ok (provider.reply raw (provider.handle hub.env context raw).1))),
        after) := by
  have taken : ((hub.lock id).takeUp ticket).1 = true := by rw [handed, Lock.takeUp, if_pos rfl]
  have live := (isOpen_iff.1 found).2
  simp only [resume, takeUp_eq, taken]
  exact messageAfter_admitRequest ((context?_setLock _).trans has) ((state?_setLock _).trans live)
    raw

end Hub

/-! ## Every request -/

open Interleaving in
/-- In any world that comes about by any interleaving, with any host at any moment: a request over
an open connection is replied to as soon as it has the lock of its session, at once or after it has
waited. The reply reads as the response owed, which always fits into a message if the request cannot
be read, and else unless its length does not fit. No answer waits for a read that never ends, and no
value that is sent nests deeper than `maxSerializeDepth`, whatever the host holds. -/
theorem every_message_replied (switch : LogSwitch) (env : Environment)
    (actions : List (Action Environment)) (id : ConnectionId)
    (found : ((World.initial env).run (introspection switch) actions).hub.isOpen id = true)
    (raw : Bytes) :
    let hub := ((World.initial env).run (introspection switch) actions).hub
    ∃ pins, hub.context? id = some pins ∧
      let state : QueryState := { pins, streamLogs := switch.get hub.env }
      let response := owed hub.env.view state raw
      (∃ reply,
        (hub.lock id = .free → ∃ after,
          hub.start (introspection switch) (.message id raw) =
            (.finished (.replied (.ok reply)), after)) ∧
        (∀ ticket waiting, hub.lock id = .handed ticket waiting → ∃ after,
          hub.resume (introspection switch) (.message id ticket raw) =
            (.finished (.replied (.ok reply)), after)) ∧
        ((response.toItem "res" ResponseBody.toItem).Fits →
          Response.decode reply = .ok response)) ∧
      (∀ e, Request.decode raw = .error e →
        (response.toItem "res" ResponseBody.toItem).Fits) ∧
      (∀ body field, (hub.env.view.answer state body).1 ≠ .error (.endlessRead field)) ∧
      (∀ value ∈ response.body.values, value.nesting ≤ maxSerializeDepth) ∧
      ∀ levels value pins,
        (hub.env.view.serialize levels value pins).1.nesting ≤ levels := by
  intro hub
  have sound : ((World.initial env).run (introspection switch) actions).Sound :=
    (World.initial_sound env).run actions
  obtain ⟨-, present⟩ := sound.live_of_published (Hub.isOpen_iff.1 found).1
  obtain ⟨pins, has⟩ := Option.isSome_iff_exists.1 present
  refine ⟨pins, has, ⟨_, fun free => Hub.start_message_of_free found has free raw,
    fun _ _ handed => Hub.resume_message_of_handed found has handed raw, decode_reply⟩,
    fun e malformed => ?_, fun body field => ?_, (isAnswer_owed _ _ _).1,
    hub.env.view.nesting_serialize_le⟩
  · obtain ⟨number, same⟩ := owed_of_malformed malformed
    rw [same]
    exact fits_malformed number
  · exact HostView.settled_answer hub.env.readsEnd _ body field

/-- A class that extends itself, with a static field for an array that holds itself. -/
def entangled : Environment :=
  let host := InMemoryHost.empty.define "A" fun definition =>
    (definition.extending "A").withStaticField "f" (.array (.cls "A")) (.object { id := 1 })
  { host := (host.newArray (.cls "A") [.object { id := 1 }]).2 }

/-- The question for the static fields of that class. -/
def entangledQuestion : Bytes :=
  (Envelope.toItem "req" RequestBody.toItem { id := 5, body := .staticFields "A" }).bytes

open Interleaving in
/-- The array is sent eight levels deep, and the reply reads as that. -/
theorem every_message_replied_entangled :
    let hub := ((World.initial entangled).run (introspection .shared)
      [.connect .newRecording, .proceed 0, .proceed 0, .proceed 0]).hub
    hub.isOpen 1 = true ∧ ∃ reply after response,
      hub.start (introspection .shared) (.message 1 entangledQuestion) =
        (.finished (.replied (.ok reply)), after) ∧
      Response.decode reply = .ok response ∧ response.id = 5 ∧
        response.body.values.map Value.nesting = [8] := by
  intro hub
  have found : hub.isOpen 1 = true := by decide +kernel
  have free : hub.lock 1 = .free := by decide +kernel
  obtain ⟨pins, has, ⟨reply, atOnce, -, reads⟩, -⟩ :=
    every_message_replied .shared entangled _ 1 found entangledQuestion
  obtain rfl : pins = {} := by
    have none : hub.context? 1 = some {} := by decide +kernel
    exact Option.some.inj (has.symm.trans none)
  obtain ⟨after, replied⟩ := atOnce free
  exact ⟨found, reply, after, _, replied, reads (by decide +kernel), by decide +kernel,
    by decide +kernel⟩

end Inspector
