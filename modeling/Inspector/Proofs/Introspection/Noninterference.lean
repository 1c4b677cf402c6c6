import Inspector.Proofs.Introspection.ObjectIds
import Inspector.Proofs.Introspection.SharedHost
import Inspector.Proofs.Session.Separation

/-!
# Clients do not disturb each other

Clients share a host, its pins and a switch for log lines. Still the replies that one of them gets
depend on nothing but its own requests and the changes of the host (`sessions_noninterfering`). What
it is told is what it would be told if it were alone (`received_replies`), since no answer looks at
anything that a request of another client can write.
-/

namespace Inspector

/-! ## What is done with an agent -/

/-- What is done with the sessions of an agent and with its host, one after the other. -/
inductive AgentEvent where
  | connect (transport : Transport)
  | disconnect (id : ConnectionId)
  | message (id : ConnectionId) (raw : Bytes)
  | hostChange (change : HostChange)

/-- The reply to a request that is finished. -/
def Progress.reply? : Progress → Option Bytes
  | .finished (.replied (.ok reply)) => some reply
  | _ => none

/-- The hub after an event, and the reply that it brings, with the connection that it goes to. -/
def AgentEvent.run (switch : LogSwitch) (hub : Hub Environment PinTable) :
    AgentEvent → Option (ConnectionId × Bytes) × Hub Environment PinTable
  | connect transport => (none, (hub.connect (introspection switch) transport).2)
  | disconnect id => (none, (hub.start (introspection switch) (.disconnect id)).2)
  | message id raw =>
    let (progress, hub) := hub.start (introspection switch) (.message id raw)
    (progress.reply?.map (id, ·), hub)
  | hostChange change =>
    (none, { hub with env := { hub.env with host := change.apply hub.env.host } })

/-- All replies, in order. -/
def replies (switch : LogSwitch) (hub : Hub Environment PinTable) :
    List AgentEvent → List (ConnectionId × Bytes)
  | [] => []
  | event :: rest => (event.run switch hub).1.toList ++ replies switch (event.run switch hub).2 rest

/-- The replies that go to one client. -/
def received (client : ConnectionId) (replies : List (ConnectionId × Bytes)) : List Bytes :=
  (replies.filter (·.1 = client)).map (·.2)

/-! ## What concerns one client -/

/-- What a client does, and how the host changes meanwhile. -/
inductive OwnEvent where
  | came
  | asked (raw : Bytes)
  | left
  | changed (change : HostChange)

/-- The events that concern one client: those of its own, from the time on when it comes, and the
changes of the host. Clients are numbered as they come, and `next` is the number of the next. -/
def ownEvents (client next : ConnectionId) : List AgentEvent → List OwnEvent
  | [] => []
  | .connect _ :: rest =>
    if next = client then .came :: ownEvents client (next + 1) rest
    else ownEvents client (next + 1) rest
  | .disconnect id :: rest =>
    if id = client ∧ client < next then .left :: ownEvents client next rest
    else ownEvents client next rest
  | .message id raw :: rest =>
    if id = client ∧ client < next then .asked raw :: ownEvents client next rest
    else ownEvents client next rest
  | .hostChange change :: rest => .changed change :: ownEvents client next rest

/-- What a client would be told if it were alone; `known` are the objects that it knows of, if its
session is open. -/
def repliesAlone (switch : LogSwitch) (env : Environment) (known : Option PinTable) :
    List OwnEvent → List Bytes
  | [] => []
  | .came :: rest => repliesAlone switch env (some {}) rest
  | .left :: rest => repliesAlone switch env none rest
  | .changed change :: rest =>
    repliesAlone switch { env with host := change.apply env.host } known rest
  | .asked raw :: rest =>
    match known with
    | none => repliesAlone switch env none rest
    | some pins =>
      let provider := introspection switch
      provider.reply raw (provider.handle env pins raw).1 ::
        repliesAlone switch env (some (provider.handle env pins raw).2.1) rest

/-- How many requests a client makes while its session is open. -/
def requestsMade (isOpen : Bool) : List OwnEvent → Nat
  | [] => 0
  | .came :: rest => requestsMade true rest
  | .left :: rest => requestsMade false rest
  | .changed _ :: rest => requestsMade isOpen rest
  | .asked _ :: rest => isOpen.toNat + requestsMade isOpen rest

theorem length_repliesAlone (switch : LogSwitch) (env : Environment) (known : Option PinTable)
    (events : List OwnEvent) :
    (repliesAlone switch env known events).length = requestsMade known.isSome events := by
  induction events generalizing env known with
  | nil => rfl
  | cons event rest ih =>
    cases event with
    | came => exact ih env (some {})
    | left => exact ih env none
    | changed change => exact ih _ known
    | asked raw =>
      cases known with
      | none =>
        rw [requestsMade, Option.isSome_none, Bool.toNat_false, Nat.zero_add]
        exact ih env none
      | some pins =>
        rw [requestsMade, Option.isSome_some, Bool.toNat_true, Nat.add_comm]
        exact congrArg Nat.succ (ih env (some _))

/-! ## The hub against the client alone -/

variable {switch : LogSwitch} {hub after : Hub Environment PinTable} {client : ConnectionId}
  {env : Environment} {known : Option PinTable}

/-- The session of a client is open with the objects that it knows of, or cannot be found, and the
environment looks like the one that it would see alone. -/
structure Mirrors (hub : Hub Environment PinTable) (client : ConnectionId) (env : Environment)
    (known : Option PinTable) : Prop where
  alike : env.Alike hub.env
  ready : ∀ pins, known = some pins → hub.Ready client pins ∧ client < hub.nextId
  absent : known = none → client ∉ hub.published

theorem alike_of_serves {later : Environment}
    (serves : Hub.Serves (introspection switch) env later) : env.Alike later := by
  cases serves with
  | nothing => exact .refl env
  | handling pins raw => exact env.alike_handle switch pins raw
  | ending pins => exact env.alike_releaseAll pins.pinned

/-- What is done for another client is not noticed. -/
theorem Mirrors.of_untouched (mirrors : Mirrors hub client env known)
    (untouched : Hub.Untouched client hub after)
    (serves : Hub.Serves (introspection switch) hub.env after.env) :
    Mirrors after client env known where
  alike := mirrors.alike.trans (alike_of_serves serves)
  ready pins same := by
    obtain ⟨ready, known⟩ := mirrors.ready pins same
    exact ⟨ready.of_untouched untouched, untouched.next ▸ known⟩
  absent none := fun found => mirrors.absent none (untouched.listed.1 found)

theorem Mirrors.change (mirrors : Mirrors hub client env known) (change : HostChange) :
    Mirrors { hub with env := { hub.env with host := change.apply hub.env.host } } client
      { env with host := change.apply env.host } known where
  alike := mirrors.alike.change change
  ready pins same := by
    obtain ⟨⟨listed, session⟩, known⟩ := mirrors.ready pins same
    exact ⟨⟨listed, session⟩, known⟩
  absent := mirrors.absent

/-- A client that comes has an open session and knows of nothing. -/
theorem Mirrors.came (switch : LogSwitch) (mirrors : Mirrors hub client env known)
    (own : hub.nextId = client) (transport : Transport) :
    Mirrors (hub.connect (introspection switch) transport).2 client env (some {}) where
  alike := mirrors.alike
  ready pins same := by
    cases same
    subst own
    exact ⟨Hub.ready_connect transport rfl, Nat.lt_succ_self _⟩
  absent := nofun

theorem Mirrors.otherCame (switch : LogSwitch) (mirrors : Mirrors hub client env known)
    (other : hub.nextId ≠ client) (transport : Transport) :
    Mirrors (hub.connect (introspection switch) transport).2 client env known where
  alike := mirrors.alike
  ready pins same := by
    obtain ⟨⟨listed, session⟩, known⟩ := mirrors.ready pins same
    refine ⟨⟨List.mem_append_left _ listed, ?_⟩, Nat.lt_succ_of_lt known⟩
    exact (Table.get?_set_of_ne _ _ other.symm).trans session
  absent none := by
    intro found
    rcases List.mem_append.1 found with old | new
    · exact mirrors.absent none old
    · exact other (List.mem_singleton.1 new).symm

theorem Mirrors.left (switch : LogSwitch) (mirrors : Mirrors hub client env known) :
    Mirrors (hub.disconnect (introspection switch) client).2 client env none where
  alike := mirrors.alike.trans (alike_of_serves (hub.serves_disconnect client))
  ready := nofun
  absent := fun _ => (hub.absent_disconnect client).1

/-- A client gets the reply that it would get alone. -/
theorem Mirrors.asked (switch : LogSwitch) {pins : PinTable}
    (mirrors : Mirrors hub client env (some pins)) (raw : Bytes) :
    (hub.start (introspection switch) (.message client raw)).1.reply? =
        some ((introspection switch).reply raw ((introspection switch).handle env pins raw).1) ∧
      Mirrors (hub.start (introspection switch) (.message client raw)).2 client env
        (some ((introspection switch).handle env pins raw).2.1) ∧
      (hub.start (introspection switch) (.message client raw)).2.nextId = hub.nextId := by
  obtain ⟨ready, known⟩ := mirrors.ready pins rfl
  obtain ⟨reply, table⟩ := mirrors.alike.handle switch pins raw
  have serves : Hub.Serves (introspection switch) hub.env
      (hub.start (introspection switch) (.message client raw)).2.env :=
    hub.serves_message client raw
  obtain ⟨after, started, later, next⟩ := ready.message (introspection switch) raw
  rw [started] at serves ⊢
  rw [reply]
  rw [table] at later
  refine ⟨rfl, ⟨mirrors.alike.trans (alike_of_serves serves), ?_, nofun⟩, next⟩
  rintro pins' ⟨⟩
  exact ⟨later, next ▸ known⟩

theorem received_append (client : ConnectionId) (first second : List (ConnectionId × Bytes)) :
    received client (first ++ second) = received client first ++ received client second := by
  rw [received, List.filter_append, List.map_append, ← received, ← received]

/-- Replies to others do not go to the client. -/
theorem received_other {id : ConnectionId} (other : id ≠ client) (reply : Option Bytes) :
    received client (reply.map (id, ·)).toList = [] := by
  cases reply with
  | none => rfl
  | some bytes => simp [received, other]

theorem received_own (client : ConnectionId) (reply : Option Bytes) :
    received client (reply.map (client, ·)).toList = reply.toList := by
  cases reply with
  | none => rfl
  | some bytes => simp [received]

/-- A client is told what it would be told alone. -/
theorem received_replies (mirrors : Mirrors hub client env known) (events : List AgentEvent) :
    received client (replies switch hub events) =
      repliesAlone switch env known (ownEvents client hub.nextId events) := by
  induction events generalizing hub env known with
  | nil => rfl
  | cons event rest ih =>
    rw [replies, received_append]
    cases event with
    | connect transport =>
      rw [ownEvents]
      split
      · rename_i own
        exact ih (mirrors.came switch own transport)
      · rename_i other
        exact ih (mirrors.otherCame switch other transport)
    | hostChange change => exact ih (mirrors.change change)
    | disconnect id =>
      have next : (hub.disconnect (introspection switch) id).2.nextId = hub.nextId :=
        (hub.absent_disconnect id).2
      rw [ownEvents, ← next]
      by_cases own : id = client
      · subst own
        split
        · exact ih (mirrors.left switch)
        · rename_i early
          have none : known = none := by
            cases known with
            | none => rfl
            | some pins => exact absurd ⟨rfl, next ▸ (mirrors.ready pins rfl).2⟩ early
          rw [none]
          exact ih (mirrors.left switch)
      · rw [if_neg fun same => own same.1]
        exact ih (mirrors.of_untouched (Hub.untouched_disconnect own) (hub.serves_disconnect id))
    | message id raw =>
      rw [ownEvents]
      by_cases own : id = client
      · subst own
        cases known with
        | none =>
          -- the session is not open yet, or not any more
          have refused : hub.start (introspection switch) (.message id raw) =
              (.finished (.replied (.error (.notFound id))), hub) :=
            Hub.start_message_of_absent (mirrors.absent rfl) raw
          have onwards := ih mirrors
          simp only [AgentEvent.run, refused]
          split <;> exact onwards
        | some pins =>
          obtain ⟨reply, later, next⟩ := mirrors.asked switch raw
          rw [if_pos ⟨rfl, (mirrors.ready pins rfl).2⟩, ← next]
          have onwards := ih later
          simp only [AgentEvent.run, reply, repliesAlone]
          exact congrArg₂ (· ++ ·) (received_own id _) onwards
      · have untouched : Hub.Untouched client hub
            (hub.start (introspection switch) (.message id raw)).2 :=
          Hub.untouched_message own raw
        rw [if_neg fun same => own same.1, ← untouched.next]
        have onwards := ih (mirrors.of_untouched untouched (hub.serves_message id raw))
        exact (congrArg (· ++ _) (received_other own _)).trans onwards

/-! ## Two courses of events -/

/-- Two courses of events begin with the same host and no sessions. A client of the first and one of
the second come, ask the same and leave, and the host is changed, in the same order; all else may
differ, whatever other clients ask, are told of, fail on or leave. Then both clients get the same
replies, one for each request that they make while they are there. -/
theorem sessions_noninterfering (switch : LogSwitch) (env : Environment)
    (first second : List AgentEvent) (client counterpart : ConnectionId)
    (same : ownEvents client 1 first = ownEvents counterpart 1 second) :
    received client (replies switch { env } first) =
        received counterpart (replies switch { env } second) ∧
      (received client (replies switch { env } first)).length =
        requestsMade false (ownEvents client 1 first) := by
  have alone (client : ConnectionId) (events : List AgentEvent) :
      received client (replies switch { env } events) =
        repliesAlone switch env none (ownEvents client 1 events) := by
    have mirrors : Mirrors { env } client env none := ⟨.refl env, nofun, fun _ => nofun⟩
    exact received_replies mirrors events
  refine ⟨?_, ?_⟩
  · rw [alone, alone, same]
  · rw [alone, length_repliesAlone]
    rfl

/-- A client asks for arrays, one of which is changed, looks into another, and sends what is no
request. -/
def quiet : List AgentEvent :=
  [.connect .newRecording, .message 1 (asking (.staticFields "A")),
    .hostChange (.setArrayElement { id := 8 } 0 .null), .message 1 (asking (.readSequence 1)),
    .message 1 [1, 2, 3], .disconnect 1]

/-- The same client comes second. Another one has been told of the arrays before, turns the log
stream off and leaves; and somebody asks too early for the second. -/
def crowded : List AgentEvent :=
  [.connect .newRecording, .message 1 (asking (.staticFields "A")),
    .message 2 (asking (.staticFields "A")), .connect .newStalling,
    .message 1 (asking (.setLogStream false)), .message 2 (asking (.staticFields "A")),
    .hostChange (.setArrayElement { id := 8 } 0 .null), .message 1 [7], .disconnect 1,
    .message 2 (asking (.readSequence 1)), .message 1 (asking .loadedClasses),
    .message 2 [1, 2, 3], .disconnect 2]

/-- The client gets the same three replies in the crowd. -/
theorem sessions_noninterfering_crowded :
    ownEvents 1 1 quiet = ownEvents 2 1 crowded ∧
      received 1 (replies .shared { env := sharing } quiet) =
        received 2 (replies .shared { env := sharing } crowded) ∧
      (received 1 (replies .shared { env := sharing } quiet)).length = 3 := by
  have same : ownEvents 1 1 quiet = ownEvents 2 1 crowded := by simp [quiet, crowded, ownEvents]
  have three : requestsMade false (ownEvents 1 1 quiet) = 3 := by
    simp [quiet, ownEvents, requestsMade]
  obtain ⟨equal, count⟩ := sessions_noninterfering .shared sharing quiet crowded 1 2 same
  exact ⟨same, equal, count.trans three⟩

end Inspector
