import Inspector.Proofs.Session.Contexts
import Inspector.Proofs.Session.Sending
import Inspector.Session.Schedule

/-!
# Broadcasts, interleaved

A broadcast makes its message and takes its snapshot, and then it sends to the recipients at once.
Here its sends take their steps in any order, between the steps of operations on sessions and of
other sends, and while transports change at their other ends.

* `Round` says how far a broadcast has come.
* `Traffic` holds the broadcasts that were started, the operations on sessions, and a ledger of all
  sends; a list of `Action`s is one interleaving.
* A broadcast that is left alone does what the hub does (`Traffic.exists_start`,
  `Traffic.exists_resume`): the runs of the hub are among the interleavings.
-/

namespace Inspector.Broadcasting

open Interleaving (World)

variable {Env Ctx : Type} (provider : ContextProvider Env Ctx)

/-! ## Broadcasts -/

/-- How far a broadcast has come. -/
inductive Round where
  | announced (line : String)
  /-- The line has made no message. -/
  | failed
  | delivering (frame : Bytes) (sends : Table ConnectionId Sending)

/-- The send to a recipient as the hub reports it. -/
def toDelivery (entry : ConnectionId × Sending) : Delivery where
  recipient := entry.1
  result := entry.2.result?

namespace Round

/-- Makes the message of a broadcast and takes its snapshot. -/
def address (hub : Hub Env Ctx) : Round → Round
  | announced line =>
    match provider.encodeLine line with
    | .error _ => failed
    | .ok message => delivering (Gzip.compress message) (hub.snapshot.map fun id => (id, .due))
  | round => round

/-- The next step of the send to a recipient. -/
def deliver (hub : Hub Env Ctx) (number : Nat) (id : ConnectionId) :
    Round → Hub Env Ctx × Round × Ledger
  | delivering frame sends =>
    match sends.get? id with
    | none => (hub, delivering frame sends, [])
    | some sending =>
      let letter : Letter := { sender := some number, recipient := id, frame }
      let (hub, next, happened) := sending.step hub letter
      (hub, delivering frame (sends.modify id fun _ => next), happened)
  | round => (hub, round, [])

/-- The report, once all sends are over. -/
def report? : Round → Option BroadcastReport
  | announced _ => none
  | failed => some {}
  | delivering _ sends => Hub.report? (sends.map toDelivery)

end Round

/-! ## Interleavings -/

/-- Sessions, broadcasts, and what has happened to all letters. -/
structure Traffic (Env Ctx : Type) where
  world : World Env Ctx
  rounds : List Round := []
  ledger : Ledger := []

/-- What can happen next. -/
inductive Action (Env : Type) where
  /-- A step of an operation on sessions. It does not change transports from outside. -/
  | operation (action : Interleaving.Action Env)
  | announce (line : String)
  | address (number : Nat)
  | deliver (number : Nat) (id : ConnectionId)
  /-- A step of a send that belongs to no broadcast. -/
  | other (id : ConnectionId) (frame : Bytes) (sending : Sending)
  /-- Something happens at the other end of a transport. -/
  | change (id : ConnectionId) (next : Transport)

/-- The same step with the given transports, if it is one that changes them. -/
def sparing (transports : Table ConnectionId Transport) :
    Interleaving.Action Env → Interleaving.Action Env
  | .outside env _ tickets => .outside env transports tickets
  | action => action

namespace Traffic

/-- The traffic before anything has happened. -/
def initial (env : Env) : Traffic Env Ctx := { world := .initial env }

/-- The hub after a step of a send, and what has happened in it. -/
def noted (traffic : Traffic Env Ctx) (hub : Hub Env Ctx) (happened : Ledger) : Traffic Env Ctx :=
  { traffic with world := { traffic.world with hub }, ledger := traffic.ledger ++ happened }

/-- One step. -/
def step (traffic : Traffic Env Ctx) : Action Env → Traffic Env Ctx
  | .operation action =>
    { traffic with
      world := traffic.world.step provider (sparing traffic.world.hub.transports action) }
  | .announce line => { traffic with rounds := traffic.rounds ++ [.announced line] }
  | .address number =>
    match traffic.rounds[number]? with
    | none => traffic
    | some round =>
      let round := round.address provider traffic.world.hub
      { traffic with rounds := traffic.rounds.set number round }
  | .deliver number id =>
    match traffic.rounds[number]? with
    | none => traffic
    | some round =>
      let (hub, round, happened) := round.deliver traffic.world.hub number id
      { traffic.noted hub happened with rounds := traffic.rounds.set number round }
  | .other id frame sending =>
    let (hub, _, happened) :=
      sending.step traffic.world.hub { sender := none, recipient := id, frame }
    traffic.noted hub happened
  | .change id next =>
    match traffic.world.hub.transports.get? id with
    | none => traffic
    | some transport =>
      if transport.Grown [] next then
        let transports := traffic.world.hub.transports.set id next
        traffic.noted { traffic.world.hub with transports } []
      else traffic

/-- One step after the other. -/
def run (traffic : Traffic Env Ctx) (actions : List (Action Env)) : Traffic Env Ctx :=
  actions.foldl (step provider) traffic

/-- The report of a broadcast, once all its sends are over. -/
def report? (traffic : Traffic Env Ctx) (number : Nat) : Option BroadcastReport :=
  traffic.rounds[number]?.bind Round.report?

end Traffic

/-! ## Broadcasts that are left alone -/

variable {provider} {hub : Hub Env Ctx} {frame : Bytes} {number : Nat}

/-- The next step of each send, one after the other. -/
def stepEach (hub : Hub Env Ctx) (number : Nat) (frame : Bytes) :
    Table ConnectionId Sending → Hub Env Ctx × Table ConnectionId Sending
  | [] => (hub, [])
  | (id, sending) :: rest =>
    let (hub, next, _) := sending.step hub { sender := some number, recipient := id, frame }
    let (hub, others) := stepEach hub number frame rest
    (hub, (id, next) :: others)

/-- A delivery of the hub as a send. -/
def ofDelivery (delivery : Delivery) : ConnectionId × Sending :=
  (delivery.recipient, .ofResult delivery.result)

theorem stepEach_due (ids : List ConnectionId) :
    stepEach hub number frame (ids.map fun id => (id, .due)) =
      ((hub.deliverEach frame ids).2, (hub.deliverEach frame ids).1.map ofDelivery) := by
  induction ids generalizing hub with
  | nil => rfl
  | cons id rest ih =>
    rw [List.map_cons, stepEach, Sending.step, Hub.deliverEach]
    simp only [ih]
    rfl

theorem stepEach_ofDelivery (deliveries : List Delivery) :
    stepEach hub number frame (deliveries.map ofDelivery) =
      ((hub.redeliverEach frame deliveries).2,
        (hub.redeliverEach frame deliveries).1.map ofDelivery) := by
  induction deliveries generalizing hub with
  | nil => rfl
  | cons delivery rest ih =>
    obtain ⟨id, _ | result⟩ := delivery
    · rw [List.map_cons, ofDelivery, stepEach, Sending.ofResult, Sending.step, Hub.redeliverEach]
      simp only [ih]
      rfl
    · rw [List.map_cons, ofDelivery, stepEach, Sending.ofResult, Sending.step, Hub.redeliverEach]
      simp only [ih]
      rfl

namespace Round

/-- Where a broadcast of the hub that waits goes on. -/
def ofDeliveries (frame : Bytes) (deliveries : List Delivery) : Round :=
  delivering frame (deliveries.map ofDelivery)

/-- A broadcast has come where the hub has brought it. -/
def StandsAt (round : Round) : Progress → Prop
  | .finished (.broadcast report) => round.report? = some report
  | .waits (.broadcast frame deliveries) => round = ofDeliveries frame deliveries
  | _ => False

theorem report?_ofDeliveries (frame : Bytes) (deliveries : List Delivery) :
    (ofDeliveries frame deliveries).report? = Hub.report? deliveries := by
  have same : deliveries.map (toDelivery ∘ ofDelivery) = deliveries := by
    refine (List.map_congr_left fun delivery _ => ?_).trans (List.map_id _)
    obtain ⟨recipient, _ | result⟩ := delivery <;> rfl
  rw [ofDeliveries, report?, List.map_map, same]

/-- The step of a send where it stands among the others. -/
theorem deliver_eq {front back : Table ConnectionId Sending} {id : ConnectionId}
    {sending : Sending} (distinct : ((front ++ (id, sending) :: back).map (·.1)).Nodup) :
    let stepped := sending.step hub { sender := some number, recipient := id, frame }
    (delivering frame (front ++ (id, sending) :: back)).deliver hub number id =
      (stepped.1, delivering frame (front ++ (id, stepped.2.1) :: back), stepped.2.2) := by
  intro stepped
  have found : Table.get? (front ++ (id, sending) :: back) id = some sending :=
    Table.get?_of_mem distinct (List.mem_append_right _ List.mem_cons_self)
  rw [List.map_append, List.map_cons, List.nodup_append, List.nodup_cons] at distinct
  obtain ⟨-, ⟨behind, -⟩, apart⟩ := distinct
  have before : id ∉ front.map (·.1) := fun present => apart id present id List.mem_cons_self rfl
  have changed : Table.modify (front ++ (id, sending) :: back) id (fun _ => stepped.2.1) =
      front ++ (id, stepped.2.1) :: back := by
    have early := Table.modify_of_not_mem before fun _ => stepped.2.1
    have late := Table.modify_of_not_mem behind fun _ => stepped.2.1
    rw [Table.modify] at early late ⊢
    rw [List.map_append, List.map_cons, early, late]
    simp
  rw [deliver, found]
  dsimp only
  rw [changed]

end Round

namespace Traffic

variable {traffic : Traffic Env Ctx}

theorem run_append (traffic : Traffic Env Ctx) (actions more : List (Action Env)) :
    traffic.run provider (actions ++ more) = (traffic.run provider actions).run provider more :=
  List.foldl_append

theorem noted_nil (traffic : Traffic Env Ctx) :
    traffic.noted traffic.world.hub [] = traffic := by
  rw [noted, List.append_nil]

theorem step_address {round : Round} (found : traffic.rounds[number]? = some round) :
    traffic.step provider (.address number) =
      { traffic with
        rounds := traffic.rounds.set number (round.address provider traffic.world.hub) } := by
  rw [step, found]

theorem step_deliver {round : Round} (found : traffic.rounds[number]? = some round)
    (id : ConnectionId) :
    traffic.step provider (.deliver number id) =
      { traffic.noted (round.deliver traffic.world.hub number id).1
          (round.deliver traffic.world.hub number id).2.2 with
        rounds := traffic.rounds.set number (round.deliver traffic.world.hub number id).2.1 } := by
  rw [step, found]

/-- One step of each send of a broadcast, in their order. -/
theorem run_deliver (provider : ContextProvider Env Ctx) (front : Table ConnectionId Sending)
    {sends : Table ConnectionId Sending}
    (found : traffic.rounds[number]? = some (.delivering frame (front ++ sends)))
    (distinct : ((front ++ sends).map (·.1)).Nodup) :
    let last := traffic.run provider ((sends.map (·.1)).map (.deliver number))
    let stepped := stepEach traffic.world.hub number frame sends
    last.world.hub = stepped.1 ∧
      last.rounds = traffic.rounds.set number (.delivering frame (front ++ stepped.2)) := by
  -- sends that have had their step go to the front, where the rest does not reach them
  induction sends generalizing traffic front with
  | nil =>
    obtain ⟨bound, here⟩ := List.getElem?_eq_some_iff.1 found
    exact ⟨rfl, by rw [stepEach, ← here, List.set_getElem_self]; rfl⟩
  | cons entry rest ih =>
    obtain ⟨id, sending⟩ := entry
    intro last stepped
    let first := sending.step traffic.world.hub { sender := some number, recipient := id, frame }
    let round : Round := .delivering frame ((front ++ [(id, first.2.1)]) ++ rest)
    have delivered : (Round.delivering frame (front ++ (id, sending) :: rest)).deliver
        traffic.world.hub number id = (first.1, round, first.2.2) := by
      rw [Round.deliver_eq distinct]
      simp [round, first]
    have next : traffic.step provider (.deliver number id) =
        { traffic.noted first.1 first.2.2 with rounds := traffic.rounds.set number round } := by
      rw [step_deliver found, delivered]
    have here : (traffic.step provider (.deliver number id)).rounds[number]? = some round := by
      rw [next]
      exact List.getElem?_set_self (List.getElem?_eq_some_iff.1 found).1
    obtain ⟨reached, rounds⟩ := ih (front ++ [(id, first.2.1)]) here (by simpa using distinct)
    refine ⟨reached.trans ?_, rounds.trans ?_⟩
    · rw [next]
      rfl
    · rw [next]
      refine (List.set_set ..).trans ?_
      rw [List.append_assoc]
      rfl

theorem set_last (rounds : List Round) (old new : Round) :
    (rounds ++ [old]).set rounds.length new = rounds ++ [new] := by
  simp

/-- What the hub does for a broadcast are steps of the broadcast alone. -/
theorem exists_start (provider : ContextProvider Env Ctx) (traffic : Traffic Env Ctx)
    (distinct : traffic.world.hub.snapshot.Nodup) (line : String) :
    let number := traffic.rounds.length
    ∃ (ids : List ConnectionId) (round : Round),
      let alone := traffic.run provider
        (.announce line :: .address number :: ids.map (.deliver number))
      alone.world.hub = (traffic.world.hub.start provider (.broadcast line)).2 ∧
      alone.rounds = traffic.rounds ++ [round] ∧
      round.StandsAt (traffic.world.hub.start provider (.broadcast line)).1 := by
  intro number
  let hub := traffic.world.hub
  let round := (Round.announced line).address provider hub
  have addressed : traffic.run provider [.announce line, .address number] =
      { traffic with rounds := traffic.rounds ++ [round] } := by
    have last : (traffic.step provider (.announce line)).rounds[number]? = some (.announced line) :=
      List.getElem?_concat_length
    refine (step_address last).trans ?_
    have same : (traffic.step provider (.announce line)).rounds.set number round = _ := set_last ..
    rw [← same]
    rfl
  cases made : provider.encodeLine line with
  | error reason =>
    have failed : round = .failed := by
      simp only [round, Round.address, made]
    refine ⟨[], .failed, ?_, ?_, ?_⟩
    · rw [List.map_nil, addressed]
      simp only [Hub.start, Hub.broadcast, Hub.startLine, made]
    · rw [List.map_nil, addressed, failed]
    · simp only [Hub.start, Hub.broadcast, Hub.startLine, made]
      rfl
  | ok message =>
    let sends : Table ConnectionId Sending := hub.snapshot.map fun id => (id, .due)
    let frame := Gzip.compress message
    have ready : round = .delivering frame ([] ++ sends) := by
      simp only [round, Round.address, made]
      rfl
    have here : (traffic.run provider [.announce line, .address number]).rounds[number]? =
        some (.delivering frame ([] ++ sends)) := by
      rw [addressed, ready]
      exact List.getElem?_concat_length
    obtain ⟨reached, others⟩ :=
      run_deliver provider [] here (by simpa [sends, Function.comp_def] using distinct)
    rw [addressed, stepEach_due] at reached others
    have first : traffic.run provider (.announce line :: .address number ::
        (sends.map (·.1)).map (.deliver number)) =
        (traffic.run provider [.announce line, .address number]).run provider
          ((sends.map (·.1)).map (.deliver number)) := rfl
    refine ⟨sends.map (·.1), .ofDeliveries frame (hub.deliverEach frame hub.snapshot).1, ?_, ?_, ?_⟩
    · rw [first, addressed]
      refine reached.trans ?_
      simp only [Hub.start, Hub.broadcast, Hub.startLine, made]
      split <;> rfl
    · rw [first, addressed]
      exact others.trans (set_last ..)
    · simp only [Hub.start, Hub.broadcast, Hub.startLine, made]
      split
      · rename_i report finished
        exact (Round.report?_ofDeliveries ..).trans finished
      · rfl

/-- So is what it does for a broadcast that waits. -/
theorem exists_resume (provider : ContextProvider Env Ctx) {deliveries : List Delivery}
    (found : traffic.rounds[number]? = some (.ofDeliveries frame deliveries))
    (distinct : (deliveries.map (·.recipient)).Nodup) :
    ∃ (ids : List ConnectionId) (round : Round),
      let alone := traffic.run provider (ids.map (.deliver number))
      alone.world.hub = (traffic.world.hub.resume provider (.broadcast frame deliveries)).2 ∧
      alone.rounds = traffic.rounds.set number round ∧
      round.StandsAt (traffic.world.hub.resume provider (.broadcast frame deliveries)).1 := by
  let hub := traffic.world.hub
  obtain ⟨reached, others⟩ := run_deliver provider [] found
    (by simpa [ofDelivery, Function.comp_def] using distinct)
  rw [stepEach_ofDelivery] at reached others
  refine ⟨_, .ofDeliveries frame (hub.redeliverEach frame deliveries).1, reached.trans ?_, others,
    ?_⟩
  · simp only [Hub.resume]
    split <;> rfl
  · simp only [Hub.resume]
    split
    · rename_i report finished
      exact (Round.report?_ofDeliveries ..).trans finished
    · rfl

/-! ## The other ends of transports -/

theorem exists_change {id : ConnectionId} {transport next : Transport}
    (found : traffic.world.hub.transports.get? id = some transport)
    (grown : transport.Grown [] next) :
    ∃ more, (traffic.run provider more).world.hub =
      { traffic.world.hub with transports := traffic.world.hub.transports.set id next } := by
  refine ⟨[.change id next], ?_⟩
  change (traffic.step provider (.change id next)).world.hub = _
  rw [step, found]
  dsimp only
  rw [if_pos grown]
  rfl

variable {schedule : Schedule Env Ctx}

/-- Taking a message off a channel is an interleaving. -/
theorem exists_receive (same : schedule.hub = traffic.world.hub) (id : ConnectionId) :
    ∃ more, (traffic.run provider more).world.hub = (schedule.receive id).2.hub := by
  rw [Schedule.receive, same]
  split
  · rename_i channel found
    split
    · exact ⟨[], same.symm⟩
    · split
      · rename_i frame queue first
        refine exists_change found (.channel rfl ⟨[frame], ?_⟩)
        rw [first, List.append_nil]
        rfl
      · exact ⟨[], same.symm⟩
  · exact ⟨[], same.symm⟩

/-- Cutting a connection, letting sends through and dropping the other end are interleavings. -/
theorem exists_changeTransport (same : schedule.hub = traffic.world.hub) (id : ConnectionId)
    {change : Transport → Option Transport}
    (one : change ∈ [Transport.cut?, Transport.release?, Transport.dropReceiver?]) :
    ∃ more, (traffic.run provider more).world.hub = (schedule.changeTransport id change).2.hub := by
  have grown {transport next : Transport} (changed : change transport = some next) :
      transport.Grown [] next := by
    simp only [List.mem_cons, List.not_mem_nil, or_false] at one
    rcases one with rfl | rfl | rfl
    · exact Transport.cut_grown changed
    · exact Transport.release_grown changed
    · exact Transport.dropReceiver_grown changed
  rw [Schedule.changeTransport, same]
  split
  · exact ⟨[], same.symm⟩
  · rename_i next changed
    obtain ⟨transport, found, changed⟩ := Option.bind_eq_some_iff.1 changed
    exact exists_change found (grown changed)

end Traffic

end Inspector.Broadcasting
