import Inspector.Proofs.Session.Deliveries

/-!
# Requests that are answered over their connections, interleaved

A request whose reply goes over its connection is first a request like any other. When its reply is
there, the session is looked up again, and then the reply is sent. Here the steps of such requests
come in between the steps of operations on sessions, of broadcasts and of other sends.

* `Exchange` says how far such a request has come.
* `Switchboard` holds the exchanges beside all other traffic, and the requests that handlers were
  given; a list of `Action`s is one interleaving.
* What the hub does for an operation are steps of the operation alone (`Switchboard.exists_start`,
  `Switchboard.exists_binary`, `Switchboard.exists_resume`): its runs are among the interleavings.
-/

namespace Inspector.Dispatching

open Interleaving
open Broadcasting (Traffic)

variable {Env Ctx : Type}

/-! ## Exchanges -/

/-- How far a request has come that is answered over its connection. -/
inductive Exchange where
  /-- The operation of a number asks for the reply. -/
  | asking (id : ConnectionId) (task : Nat)
  /-- The request was handled, or there was no session. -/
  | answered (id : ConnectionId) (result : Except SessionError Bytes)
  | sending (id : ConnectionId) (frame : Bytes) (send : Sending)
  /-- Nothing is sent. -/
  | refused (error : SessionError)

/-- The answer that is told of, if there is one. -/
def answer? (told : History) : Option (Except SessionError Bytes) :=
  told.findSome? fun
    | (_, .answered result) => some result
    | _ => none

namespace Exchange

/-- What becomes of an exchange when an operation has come to an answer. -/
def hear (answer : Option (Nat × Except SessionError Bytes)) : Exchange → Exchange
  | asking id task =>
    match answer with
    | some (own, result) => if own = task then answered id result else asking id task
    | none => asking id task
  | exchange => exchange

/-- Makes the frame of the reply and looks the session up again. -/
def lookUp (hub : Hub Env Ctx) : Exchange → Exchange
  | answered _ (.error error) => refused error
  | answered id (.ok reply) =>
    if hub.isOpen id then sending id (Gzip.compress reply) .due else refused (.notFound id)
  | exchange => exchange

/-- The next step of the send of the reply. -/
def deliver (hub : Hub Env Ctx) : Exchange → Hub Env Ctx × Exchange × Ledger
  | sending id frame send =>
    let (hub, next, happened) := send.step hub { sender := none, recipient := id, frame }
    (hub, sending id frame next, happened)
  | exchange => (hub, exchange, [])

/-- The result, once it is there. -/
def result? : Exchange → Option (Except DispatchError Unit)
  | sending _ _ send => send.result?.map (·.mapError .delivery)
  | refused error => some (.error (.session error))
  | _ => none

end Exchange

/-! ## Interleavings -/

/-- Sessions, broadcasts and exchanges, and the requests that handlers were given. -/
structure Switchboard (Env Ctx : Type) where
  traffic : Traffic Env Ctx
  exchanges : List Exchange := []
  handled : List (ConnectionId × Bytes) := []

/-- What can happen next. -/
inductive Action (Env : Type) where
  | traffic (action : Broadcasting.Action Env)
  | request (id : ConnectionId) (raw : Bytes)
  | lookUp (number : Nat)
  | deliver (number : Nat)

/-- The request that a handler is given in the next step of an operation. -/
def given (hub : Hub Env Ctx) : Point Ctx → List (ConnectionId × Bytes)
  | .handling id request => if (hub.context? id).isSome then [(id, request)] else []
  | _ => []

variable (provider : ContextProvider Env Ctx)

/-- The requests that handlers are given in a step. -/
def givenIn (world : World Env Ctx) : Broadcasting.Action Env → List (ConnectionId × Bytes)
  | .operation (.proceed task) => (world.tasks[task]?.map (given world.hub)).getD []
  | _ => []

/-- The operation that comes to an answer in a step, with its answer. -/
def answerIn (world : World Env Ctx) :
    Broadcasting.Action Env → Option (Nat × Except SessionError Bytes)
  | .operation (.proceed task) =>
    world.tasks[task]?.bind fun point =>
      (answer? (point.step provider world.hub).2.2).map fun result => (task, result)
  | _ => none

namespace Switchboard

/-- Before anything has happened. -/
def initial (env : Env) : Switchboard Env Ctx := { traffic := .initial env }

def world (board : Switchboard Env Ctx) : World Env Ctx := board.traffic.world

def hub (board : Switchboard Env Ctx) : Hub Env Ctx := board.world.hub

/-- One step. -/
def step (board : Switchboard Env Ctx) : Action Env → Switchboard Env Ctx
  | .traffic action =>
    { traffic := board.traffic.step provider action
      exchanges := board.exchanges.map (·.hear (answerIn provider board.world action))
      handled := board.handled ++ givenIn board.world action }
  | .request id raw =>
    { board with
      traffic := board.traffic.step provider (.operation (.message id raw))
      exchanges := board.exchanges ++ [.asking id board.world.tasks.length] }
  | .lookUp number =>
    match board.exchanges[number]? with
    | none => board
    | some exchange =>
      { board with exchanges := board.exchanges.set number (exchange.lookUp board.hub) }
  | .deliver number =>
    match board.exchanges[number]? with
    | none => board
    | some exchange =>
      let (hub, exchange, happened) := exchange.deliver board.hub
      { board with
        traffic := board.traffic.noted hub happened
        exchanges := board.exchanges.set number exchange }

/-- One step after the other. -/
def run (board : Switchboard Env Ctx) (actions : List (Action Env)) : Switchboard Env Ctx :=
  actions.foldl (step provider) board

end Switchboard

/-! ## Operations that are left alone, and what is told of them -/

variable {provider} {hub : Hub Env Ctx} {id : ConnectionId} {raw : Bytes}

/-- Leads from a hub and an operation to what they are after some steps of the operation alone, and
tells what is told in between. -/
inductive Tells (provider : ContextProvider Env Ctx) :
    Hub Env Ctx × Point Ctx → History → Hub Env Ctx × Point Ctx → Prop
  | rest (state : Hub Env Ctx × Point Ctx) : Tells provider state [] state
  | step {hub hub' : Hub Env Ctx} {point point' : Point Ctx} {events told : History}
      {last : Hub Env Ctx × Point Ctx} :
      point.step provider hub = (hub', point', events) → Tells provider (hub', point') told last →
      Tells provider (hub, point) (events ++ told) last

/-- A request alone comes where the hub has brought it, and tells the same result. -/
def Brings (provider : ContextProvider Env Ctx) (hub : Hub Env Ctx) (point : Point Ctx)
    (id : ConnectionId) (raw : Bytes) (run : Run Env Ctx) : Prop :=
  (∃ result, run.1 = .finished (.replied result) ∧
    Tells provider (hub, point) [(id, .answered result)] (run.2, .finished)) ∨
  ∃ ticket, run.1 = .waits (.message id ticket raw) ∧
    Tells provider (hub, point) [] (run.2, .waiting id ticket (.asking raw))

theorem Brings.step {hub' : Hub Env Ctx} {point point' : Point Ctx} {run : Run Env Ctx}
    (stepped : point.step provider hub = (hub', point', []))
    (brings : Brings provider hub' point' id raw run) : Brings provider hub point id raw run := by
  rcases brings with ⟨result, progress, tells⟩ | ⟨ticket, progress, tells⟩
  · exact .inl ⟨result, progress, .step stepped tells⟩
  · exact .inr ⟨ticket, progress, .step stepped tells⟩

theorem brings_leaving (result : Except SessionError Bytes) :
    Brings provider hub (.leaving id result) id raw
      (.finished (.replied result), hub.unlock id) :=
  .inl ⟨result, rfl, .step rfl (.rest _)⟩

theorem admitRequest_brings (hub : Hub Env Ctx) (id : ConnectionId) (raw : Bytes) :
    Brings provider hub (.holding id (.asking raw)) id raw
      ((hub.admitRequest id).2.messageAfter provider (hub.admitRequest id).1 id raw) := by
  rw [Hub.admitRequest]
  split
  · rename_i able
    refine .step (if_pos able) ?_
    dsimp only [Hub.messageAfter, Hub.runMessage, Hub.handle]
    cases has : hub.context? id with
    | none => exact .step (by rw [Point.step, has]) (brings_leaving _)
    | some context => exact .step (by rw [Point.step, has]) (brings_leaving _)
  · rename_i unable
    exact .step (if_neg unable) (brings_leaving _)

theorem start_brings (hub : Hub Env Ctx) (id : ConnectionId) (raw : Bytes) :
    Brings provider hub (.looking id raw) id raw (hub.start provider (.message id raw)) := by
  simp only [Hub.start, Hub.enter]
  split
  · rename_i found
    refine .step (if_pos found) ?_
    split
    · rename_i ticket after queued
      have stepped : (Point.locking id (.asking raw)).step provider hub =
          (after, .waiting id ticket (.asking raw), []) := by
        rw [Point.step, queued]
      exact .step stepped (.inr ⟨ticket, rfl, .rest _⟩)
    · rename_i after taken
      exact .step (by rw [Point.step, taken]) (admitRequest_brings after id raw)
  · rename_i absent
    have stepped : (Point.looking id raw).step provider hub =
        (hub, .finished, [(id, .answered (.error (.notFound id)))]) := if_neg absent
    exact .inl ⟨_, rfl, .step stepped (.rest _)⟩

theorem resume_brings (hub : Hub Env Ctx) (id : ConnectionId) (ticket : Ticket) (raw : Bytes) :
    Brings provider hub (.waiting id ticket (.asking raw)) id raw
      (hub.resume provider (.message id ticket raw)) := by
  rw [Hub.resume]
  split
  · rename_i after missed
    exact .step (by rw [Point.step, missed]) (.inr ⟨ticket, rfl, .rest _⟩)
  · rename_i after taken
    exact .step (by rw [Point.step, taken]) (admitRequest_brings after id raw)

/-! ## The hub's own exchanges -/

/-- Sends the reply of a request that has come to one. -/
def sendsOn (id : ConnectionId) : Run Env Ctx → Run Env Ctx
  | (.finished (.replied result), hub) => hub.sendReply id result
  | (.waits (.message own ticket raw), hub) => (.waits (.binary own ticket raw), hub)
  | run => run

theorem binaryAfter_eq (entry : Hub.Entry) (hub : Hub Env Ctx) (id : ConnectionId) (raw : Bytes) :
    hub.binaryAfter provider entry id raw =
      sendsOn id (hub.messageAfter provider entry id raw) := by
  cases entry <;> rfl

theorem start_binary (hub : Hub Env Ctx) (id : ConnectionId) (raw : Bytes) :
    hub.start provider (.binary id raw) =
      sendsOn id (hub.start provider (.message id raw)) :=
  binaryAfter_eq ..

theorem resume_binary (hub : Hub Env Ctx) (id : ConnectionId) (ticket : Ticket) (raw : Bytes) :
    hub.resume provider (.binary id ticket raw) =
      sendsOn id (hub.resume provider (.message id ticket raw)) := by
  rw [Hub.resume, Hub.resume]
  split
  · rfl
  · exact binaryAfter_eq ..

/-- An exchange has come where the hub has brought it. -/
def Exchange.StandsAt (tasks : List (Point Ctx)) (exchange : Exchange) : Progress → Prop
  | .finished (.answered result) => exchange.result? = some result
  | .waits (.binary id ticket raw) => ∃ task, exchange = .asking id task ∧
      tasks[task]? = some (.waiting id ticket (.asking raw))
  | .waits (.reply id frame) => exchange = .sending id frame .heldBack
  | _ => False

theorem answer?_append (told more : History) :
    answer? (told ++ more) = (answer? told).or (answer? more) :=
  List.findSome?_append

/-- Of what an operation tells, an exchange hears the first answer. -/
theorem Exchange.hear_hear (task : Nat) (first second : Option (Except SessionError Bytes))
    (exchange : Exchange) :
    (exchange.hear (first.map fun result => (task, result))).hear
        (second.map fun result => (task, result)) =
      exchange.hear ((first.or second).map fun result => (task, result)) := by
  cases exchange with
  | asking id own =>
    cases first with
    | none => rfl
    | some result =>
      by_cases same : task = own
      · simp [hear, same]
      · cases second <;> simp [hear, same]
  | answered id result => rfl
  | sending id frame send => rfl
  | refused error => rfl

namespace Switchboard

variable {board : Switchboard Env Ctx} {number task : Nat}

theorem run_append (board : Switchboard Env Ctx) (actions more : List (Action Env)) :
    board.run provider (actions ++ more) = (board.run provider actions).run provider more :=
  List.foldl_append

/-! ## The other traffic -/

/-- What a step does beside the exchanges are steps of the other traffic. -/
theorem step_traffic (provider : ContextProvider Env Ctx) (board : Switchboard Env Ctx)
    (action : Action Env) :
    ∃ actions, (board.step provider action).traffic = board.traffic.run provider actions := by
  cases action with
  | traffic action => exact ⟨[action], rfl⟩
  | request id raw => exact ⟨[.operation (.message id raw)], rfl⟩
  | lookUp number =>
    refine ⟨[], ?_⟩
    rw [step]
    split <;> rfl
  | deliver number =>
    rw [step]
    split
    · exact ⟨[], rfl⟩
    · rename_i exchange _
      cases exchange with
      | sending id frame send => exact ⟨[.other id frame send], rfl⟩
      | asking id task => exact ⟨[], board.traffic.noted_nil⟩
      | answered id result => exact ⟨[], board.traffic.noted_nil⟩
      | refused error => exact ⟨[], board.traffic.noted_nil⟩

theorem kept_run {board : Switchboard Env Ctx} (kept : board.traffic.Kept provider)
    (actions : List (Action Env)) : (board.run provider actions).traffic.Kept provider := by
  induction actions generalizing board with
  | nil => exact kept
  | cons action actions ih =>
    obtain ⟨steps, same⟩ := board.step_traffic provider action
    have next : (board.step provider action).traffic.Kept provider := by
      rw [same]
      exact kept.run steps
    exact ih next

theorem traffic_run (provider : ContextProvider Env Ctx) (board : Switchboard Env Ctx)
    (actions : List (Broadcasting.Action Env)) :
    (board.run provider (actions.map .traffic)).traffic = board.traffic.run provider actions := by
  induction actions generalizing board with
  | nil => rfl
  | cons action actions ih => exact ih (board.step provider (.traffic action))

theorem world_proceed (provider : ContextProvider Env Ctx) (traffic : Traffic Env Ctx)
    (task steps : Nat) :
    (traffic.run provider (.replicate steps (.operation (.proceed task)))).world =
      traffic.world.run provider (.replicate steps (.proceed task)) := by
  induction steps generalizing traffic with
  | zero => rfl
  | succ steps ih => exact ih (traffic.step provider (.operation (.proceed task)))

/-- An operation on sessions that is started and left alone comes where the hub brings it. -/
theorem exists_alone {operation : Interleaving.Action Env} {point after : Point Ctx}
    {last : Hub Env Ctx}
    (launched : ∀ transports,
      board.world.step provider (Broadcasting.sparing transports operation) =
        board.world.launch point)
    (alone : Alone provider (board.hub, point) (last, after)) :
    ∃ more, (board.run provider more).hub = last := by
  let begun := board.traffic.step provider (.operation operation)
  have world : begun.world = board.world.launch point := launched _
  have there : begun.world.tasks[board.world.tasks.length]? = some point := by
    rw [world]
    exact List.getElem?_concat_length
  obtain ⟨steps, reached, -⟩ := alone.exists_proceeds (by rw [world]; rfl) there
  let actions : List (Broadcasting.Action Env) :=
    .operation operation :: .replicate steps (.operation (.proceed board.world.tasks.length))
  refine ⟨actions.map .traffic, ?_⟩
  rw [hub, Switchboard.world, traffic_run]
  exact (congrArg World.hub (world_proceed provider begun _ steps)).trans reached

theorem exists_connect (provider : ContextProvider Env Ctx) (board : Switchboard Env Ctx)
    (transport : Transport) :
    ∃ more, (board.run provider more).hub = (board.hub.connect provider transport).2 := by
  have launched (transports : Table ConnectionId Transport) :
      board.world.step provider (Broadcasting.sparing transports (.connect transport)) =
        board.world.launch (.allocating transport) := rfl
  exact exists_alone launched (connect_alone transport)

/-- What the hub does for an operation on sessions are steps of the operation alone. -/
theorem exists_start (provider : ContextProvider Env Ctx) (board : Switchboard Env Ctx)
    {operation : Operation} {point : Point Ctx}
    (begins : Point.ofOperation operation = some point) :
    ∃ more, (board.run provider more).hub = (board.hub.start provider operation).2 := by
  obtain ⟨after, -, alone⟩ := start_alone begins
  have launched : ∃ action : Interleaving.Action Env, ∀ transports,
      board.world.step provider (Broadcasting.sparing transports action) =
        board.world.launch point := by
    cases operation with
    | disconnect id => cases begins; exact ⟨.disconnect [id], fun _ => rfl⟩
    | disconnectAll => cases begins; exact ⟨.disconnectAll, fun _ => rfl⟩
    | message id request => cases begins; exact ⟨.message id request, fun _ => rfl⟩
    | _ => cases begins
  obtain ⟨action, launched⟩ := launched
  exact exists_alone launched alone

theorem exists_broadcast (provider : ContextProvider Env Ctx) {board : Switchboard Env Ctx}
    (kept : board.traffic.Kept provider) (line : String) :
    ∃ more, (board.run provider more).hub = (board.hub.start provider (.broadcast line)).2 := by
  have distinct : board.hub.snapshot.Nodup :=
    kept.orderly.sound.snapshot_ascending.imp Nat.ne_of_lt
  obtain ⟨ids, round, reached, -⟩ := board.traffic.exists_start provider distinct line
  let actions : List (Broadcasting.Action Env) :=
    .announce line :: .address board.traffic.rounds.length ::
      ids.map (.deliver board.traffic.rounds.length)
  refine ⟨actions.map .traffic, ?_⟩
  rw [hub, Switchboard.world, traffic_run]
  exact reached

/-! ## Exchanges that are left alone -/

/-- One step of an operation, and what an exchange hears of it. -/
theorem step_proceed (provider : ContextProvider Env Ctx) {point : Point Ctx} {exchange : Exchange}
    (there : board.world.tasks[task]? = some point)
    (found : board.exchanges[number]? = some exchange) :
    let stepped := point.step provider board.hub
    let after := board.step provider (.traffic (.operation (.proceed task)))
    after.hub = stepped.1 ∧ after.world.tasks[task]? = some stepped.2.1 ∧
      after.exchanges[number]? =
        some (exchange.hear ((answer? stepped.2.2).map fun result => (task, result))) := by
  intro stepped after
  have moved : after.world = board.world.moved task stepped := by
    have same : board.traffic.world.tasks[task]? = some point := there
    simp only [after, step, world, Traffic.step, Broadcasting.sparing, World.step, same]
    rfl
  have heard : answerIn provider board.world (.operation (.proceed task)) =
      (answer? stepped.2.2).map fun result => (task, result) := by
    rw [answerIn, there]
    rfl
  refine ⟨by rw [hub, moved]; rfl, ?_, ?_⟩
  · rw [moved]
    exact List.getElem?_set_self (List.getElem?_eq_some_iff.1 there).1
  · simp only [after, step, List.getElem?_map, found, heard, Option.map_some]

/-- Steps of an operation alone, and what an exchange hears of them. -/
theorem exists_proceeds {first last : Hub Env Ctx × Point Ctx} {told : History}
    (tells : Tells provider first told last) {exchange : Exchange} (same : board.hub = first.1)
    (there : board.world.tasks[task]? = some first.2)
    (found : board.exchanges[number]? = some exchange) :
    ∃ more, (board.run provider more).hub = last.1 ∧
      (board.run provider more).world.tasks[task]? = some last.2 ∧
      (board.run provider more).exchanges[number]? =
        some (exchange.hear ((answer? told).map fun result => (task, result))) := by
  induction tells generalizing board exchange with
  | rest state =>
    refine ⟨[], same, there, ?_⟩
    cases exchange <;> exact found
  | @step hub hub' point point' events told last stepped tells ih =>
    obtain ⟨reached, here, heard⟩ := step_proceed provider there found
    rw [same, stepped] at reached here heard
    obtain ⟨more, reached, here, heard⟩ := ih reached here heard
    refine ⟨.traffic (.operation (.proceed task)) :: more, reached, here, ?_⟩
    rw [answer?_append, ← Exchange.hear_hear]
    exact heard

theorem step_lookUp (provider : ContextProvider Env Ctx) {exchange : Exchange}
    (found : board.exchanges[number]? = some exchange) :
    let after := board.step provider (.lookUp number)
    after.hub = board.hub ∧ after.exchanges[number]? = some (exchange.lookUp board.hub) := by
  intro after
  simp only [after, step, found]
  exact ⟨rfl, List.getElem?_set_self (List.getElem?_eq_some_iff.1 found).1⟩

theorem step_deliver (provider : ContextProvider Env Ctx) {exchange : Exchange}
    (found : board.exchanges[number]? = some exchange) :
    let after := board.step provider (.deliver number)
    after.hub = (exchange.deliver board.hub).1 ∧
      after.exchanges[number]? = some (exchange.deliver board.hub).2.1 := by
  intro after
  simp only [after, step, found]
  exact ⟨rfl, List.getElem?_set_self (List.getElem?_eq_some_iff.1 found).1⟩

/-- Sending the reply is looking the session up again and a step of the send. -/
theorem exists_sendReply (provider : ContextProvider Env Ctx) {result : Except SessionError Bytes}
    (found : board.exchanges[number]? = some (.answered id result)) :
    ∃ more exchange, (board.run provider more).hub = (board.hub.sendReply id result).2 ∧
      (board.run provider more).exchanges[number]? = some exchange ∧
      exchange.StandsAt (board.run provider more).world.tasks
        (board.hub.sendReply id result).1 := by
  obtain ⟨same, looked⟩ := step_lookUp provider found
  cases result with
  | error error => exact ⟨[.lookUp number], _, same, looked, rfl⟩
  | ok reply =>
    rw [Hub.sendReply]
    split
    · rename_i isOpen
      rw [Exchange.lookUp, if_pos isOpen] at looked
      obtain ⟨sent, delivered⟩ := step_deliver provider looked
      rw [same] at sent delivered
      refine ⟨[.lookUp number, .deliver number], _, sent.trans ?_, delivered, ?_⟩
      · simp only [Exchange.deliver, Sending.step]
        split <;> rename_i sent <;> rw [sent]
      · simp only [Exchange.deliver, Sending.step]
        split <;> rename_i sent <;> rw [sent] <;> rfl
    · rename_i closed
      rw [Exchange.lookUp, if_neg closed] at looked
      exact ⟨[.lookUp number], _, same, looked, rfl⟩

/-- The reply of a request goes on to its connection. -/
theorem exists_sendsOn {point : Point Ctx} {run : Run Env Ctx}
    (brings : Brings provider board.hub point id raw run)
    (there : board.world.tasks[task]? = some point)
    (found : board.exchanges[number]? = some (.asking id task)) :
    ∃ more exchange, (board.run provider more).hub = (sendsOn id run).2 ∧
      (board.run provider more).exchanges[number]? = some exchange ∧
      exchange.StandsAt (board.run provider more).world.tasks (sendsOn id run).1 := by
  obtain ⟨progress, after⟩ := run
  rcases brings with ⟨result, rfl, tells⟩ | ⟨ticket, rfl, tells⟩
  · obtain ⟨first, reached, -, heard⟩ := exists_proceeds tells rfl there found
    have answered : (board.run provider first).exchanges[number]? = some (.answered id result) := by
      rw [heard]
      simp [answer?, Exchange.hear]
    obtain ⟨more, exchange, sent, here, stands⟩ := exists_sendReply provider answered
    rw [reached] at sent stands
    refine ⟨first ++ more, exchange, ?_, ?_, ?_⟩ <;> rw [run_append]
    · exact sent
    · exact here
    · exact stands
  · obtain ⟨more, reached, waits, heard⟩ := exists_proceeds tells rfl there found
    exact ⟨more, _, reached, heard, task, rfl, waits⟩

/-- What the hub does for a request that is answered over its connection are steps of the exchange
alone. -/
theorem exists_binary (provider : ContextProvider Env Ctx) (board : Switchboard Env Ctx)
    (id : ConnectionId) (raw : Bytes) :
    ∃ more exchange,
      let alone := board.run provider (.request id raw :: more)
      alone.hub = (board.hub.start provider (.binary id raw)).2 ∧
      alone.exchanges[board.exchanges.length]? = some exchange ∧
      exchange.StandsAt alone.world.tasks (board.hub.start provider (.binary id raw)).1 := by
  let after := board.step provider (.request id raw)
  have there : after.world.tasks[board.world.tasks.length]? = some (.looking id raw) :=
    List.getElem?_concat_length
  have found : after.exchanges[board.exchanges.length]? =
      some (.asking id board.world.tasks.length) := List.getElem?_concat_length
  rw [start_binary]
  exact exists_sendsOn (start_brings board.hub id raw) there found

/-- So is what it does when such a request goes on after it had to wait. -/
theorem exists_resume {exchange : Exchange} {suspended : Suspended}
    (found : board.exchanges[number]? = some exchange)
    (stands : exchange.StandsAt board.world.tasks (.waits suspended)) :
    ∃ more exchange, (board.run provider more).hub = (board.hub.resume provider suspended).2 ∧
      (board.run provider more).exchanges[number]? = some exchange ∧
      exchange.StandsAt (board.run provider more).world.tasks
        (board.hub.resume provider suspended).1 := by
  cases suspended with
  | binary id ticket raw =>
    obtain ⟨task, rfl, there⟩ := stands
    rw [resume_binary]
    exact exists_sendsOn (resume_brings board.hub id ticket raw) there found
  | reply id frame =>
    cases stands
    obtain ⟨sent, delivered⟩ := step_deliver provider found
    refine ⟨[.deliver number], _, sent.trans ?_, delivered, ?_⟩
    · simp only [Exchange.deliver, Sending.step, Hub.resume]
      split <;> rename_i sent <;> rw [sent]
    · simp only [Exchange.deliver, Sending.step, Hub.resume]
      split <;> rename_i sent <;> rw [sent] <;> rfl
  | _ => exact stands.elim

end Switchboard

end Inspector.Dispatching
