import Inspector.Proofs.Session.Exchanges

/-!
# One client's transport beside the others

Whatever becomes of one client's transport, as long as it does not hold sends back, the others do
not notice: in two runs of the same steps that differ in this transport only, all else stays the
same. The results of sends to the client differ, and they are shown to nobody but those who wait for
the report of a broadcast or for the end of an exchange of this client.

* `Hub.Beside`: two hubs that are the same but for one transport.
* `Switchboard.Beside`: two switchboards that are the same but for one transport and the results of
  the sends over it.
* Each step leads from two such switchboards to two such switchboards (`Beside.step`), and so does
  every run (`Beside.runUnder`).
-/

namespace Inspector

variable {Env Ctx : Type} {provider : ContextProvider Env Ctx}

theorem Table.get?_set_congr {κ α : Type} [DecidableEq κ] {table table' : Table κ α} {other : κ}
    (same : table'.get? other = table.get? other) (key : κ) (value : α) :
    (table'.set key value).get? other = (table.set key value).get? other := by
  by_cases here : other = key
  · rw [here, get?_set_self, get?_set_self]
  · rw [get?_set_of_ne _ _ here, get?_set_of_ne _ _ here, same]

/-! ## Hubs -/

namespace Hub

/-- Two hubs are the same but for the transport of one connection. -/
structure Beside (id : ConnectionId) (hub hub' : Hub Env Ctx) : Prop where
  only : hub' = { hub with transports := hub'.transports }
  others : ∀ other, other ≠ id → hub'.transports.get? other = hub.transports.get? other

variable {id : ConnectionId} {hub hub' after after' : Hub Env Ctx}

theorem Beside.refl (id : ConnectionId) (hub : Hub Env Ctx) : Beside id hub hub :=
  ⟨rfl, fun _ _ => rfl⟩

/-- Whoever does not look at transports does not notice a difference. -/
theorem Beside.same (beside : Beside id hub hub') {α : Type} (view : Hub Env Ctx → α)
    (blind : ∀ (hub : Hub Env Ctx) transports, view { hub with transports } = view hub) :
    view hub' = view hub := by
  rw [beside.only]
  exact blind hub hub'.transports

/-- Whatever becomes of the client's own transport does not make more of a difference. -/
theorem Beside.of_alters {change change' : Transport → Transport → Prop}
    (beside : Beside id hub hub') (alters : Alters id change hub after)
    (alters' : Alters id change' hub' after') : Beside id after after' where
  only := by rw [alters'.only, alters.only, beside.only]
  others other differ := by
    rw [alters'.others other differ, alters.others other differ, beside.others other differ]

/-- The transport of a connection holds no sends back. -/
def Passing (id : ConnectionId) (hub : Hub Env Ctx) : Prop :=
  ∀ transport, hub.transports.get? id = some transport → transport.passes = true

end Hub

namespace Interleaving.Point

/-- What the next step of an operation does to the transports. -/
def placed (transports : Table ConnectionId Transport) : Point Ctx → Table ConnectionId Transport
  | publishing id _ transport => transports.set id transport
  | _ => transports

/-- Operations on sessions do not look at transports. -/
theorem step_setTransports (hub : Hub Env Ctx) (transports : Table ConnectionId Transport)
    (point : Point Ctx) :
    point.step provider { hub with transports } =
      ({ (point.step provider hub).1 with transports := point.placed transports },
        (point.step provider hub).2) := by
  cases point with
  | allocating transport => rfl
  | creating id transport =>
    simp only [step]
    split <;> rfl
  | publishing id context transport => rfl
  | listing => rfl
  | removing id rest =>
    simp only [step]
    split <;> rfl
  | removed id rest => rfl
  | releasing id context rest => rfl
  | ending id context rest => cases context <;> rfl
  | ended id rest => rfl
  | looking id request =>
    have same : { hub with transports }.isOpen id = hub.isOpen id := rfl
    simp only [step, same]
    split <;> rfl
  | handling id request =>
    have same : { hub with transports }.context? id = hub.context? id := rfl
    simp only [step, same]
    split <;> rfl
  | leaving id result => rfl
  | locking id errand =>
    cases taken : ((hub.lock id).acquire hub.nextTicket).1 with
    | true =>
      have taken' : (({ hub with transports }.lock id).acquire hub.nextTicket).1 = true := taken
      simp only [step, Hub.acquire_of_taken _ _ taken, Hub.acquire_of_taken _ _ taken']
      rfl
    | false =>
      have queued' : (({ hub with transports }.lock id).acquire hub.nextTicket).1 = false := taken
      simp only [step, Hub.acquire_of_queued _ _ taken, Hub.acquire_of_queued _ _ queued']
      rfl
  | waiting id ticket errand =>
    have same : { hub with transports }.lock id = hub.lock id := rfl
    simp only [step, Hub.takeUp_eq, same]
    cases ((hub.lock id).takeUp ticket).1 <;> rfl
  | holding id errand =>
    cases errand with
    | closing rest => rfl
    | asking request =>
      have same : { hub with transports }.canHandle id = hub.canHandle id := rfl
      simp only [step, same]
      split <;> rfl
  | finished => rfl

theorem transports_step (hub : Hub Env Ctx) (point : Point Ctx) :
    (point.step provider hub).1.transports = point.placed hub.transports :=
  congrArg (·.1.transports) (step_setTransports hub hub.transports point)

theorem get?_placed {transports transports' : Table ConnectionId Transport} {other : ConnectionId}
    (same : transports'.get? other = transports.get? other) (point : Point Ctx) :
    (point.placed transports').get? other = (point.placed transports).get? other := by
  cases point with
  | publishing own context transport => exact Table.get?_set_congr same own transport
  | _ => exact same

/-- The same step of an operation in both runs. -/
theorem step_beside (provider : ContextProvider Env Ctx) {id : ConnectionId}
    {hub hub' : Hub Env Ctx} (beside : hub.Beside id hub') (point : Point Ctx) :
    (point.step provider hub).1.Beside id (point.step provider hub').1 ∧
      (point.step provider hub').2 = (point.step provider hub).2 := by
  have same : point.step provider hub' =
      ({ (point.step provider hub).1 with transports := point.placed hub'.transports },
        (point.step provider hub).2) := by
    rw [beside.only]
    exact step_setTransports hub hub'.transports point
  rw [same]
  refine ⟨⟨rfl, fun other differ => ?_⟩, rfl⟩
  rw [transports_step]
  exact get?_placed (beside.others other differ) point

end Interleaving.Point

/-! ## Sends -/

namespace Hub

variable {id : ConnectionId} {hub hub' : Hub Env Ctx}

/-- A send to another client goes the same way in both runs. -/
theorem Beside.sendBy (beside : Beside id hub hub') {other : ConnectionId} (differ : other ≠ id)
    (step : Transport → Bytes → Option (Except SendError Unit) × Transport) (frame : Bytes) :
    (hub'.sendBy step other frame).1 = (hub.sendBy step other frame).1 ∧
      Beside id (hub.sendBy step other frame).2 (hub'.sendBy step other frame).2 := by
  have same := beside.others other differ
  rw [Hub.sendBy, Hub.sendBy, same]
  split
  · exact ⟨rfl, beside⟩
  · refine ⟨rfl, by rw [beside.only], fun third apart => ?_⟩
    exact Table.get?_set_congr (beside.others third apart) ..

end Hub

/-- What is written down of all but one client. -/
def Ledger.besides (ledger : Ledger) (id : ConnectionId) : Ledger :=
  ledger.filter fun entry => entry.1.recipient ≠ id

theorem Ledger.besides_append (ledger more : Ledger) (id : ConnectionId) :
    (ledger ++ more).besides id = ledger.besides id ++ more.besides id :=
  List.filter_append ..

theorem Ledger.taken_besides (ledger : Ledger) {id other : ConnectionId} (differ : other ≠ id) :
    (ledger.besides id).taken other = ledger.taken other := by
  rw [besides, taken, taken, List.filterMap_filter]
  refine List.filterMap_congr fun entry _ => ?_
  by_cases same : entry.1.recipient = id
  · have apart : ¬(entry.1.recipient = other ∧ entry.2 = .ended (.ok ())) := fun both =>
      differ (both.1.symm.trans same)
    simp [same, same ▸ apart]
  · simp [same]

namespace Sending

/-- A send to a recipient as all but one client see it. -/
def seen (id recipient : ConnectionId) : Sending → Sending
  | finished result => if recipient = id then finished (.ok ()) else finished result
  | sending => sending

variable {id recipient : ConnectionId} {sending sending' : Sending}

theorem seen_of_ne (differ : recipient ≠ id) (sending : Sending) :
    sending.seen id recipient = sending := by
  cases sending with
  | finished result => exact if_neg differ
  | _ => rfl

theorem seen_of_finished (ended : sending.result?.isSome = true) :
    sending.seen id id = finished (.ok ()) := by
  cases sending with
  | finished result => exact if_pos rfl
  | _ => cases ended

/-- The same step of a send in both runs. -/
theorem step_beside {hub hub' : Hub Env Ctx} (beside : hub.Beside id hub')
    (passing : hub.Passing id) (passing' : hub'.Passing id) (letter : Letter)
    (same : sending'.seen id letter.recipient = sending.seen id letter.recipient) :
    (sending.step hub letter).1.Beside id (sending'.step hub' letter).1 ∧
      (sending'.step hub' letter).2.1.seen id letter.recipient =
        (sending.step hub letter).2.1.seen id letter.recipient ∧
      (sending'.step hub' letter).2.2.besides id = (sending.step hub letter).2.2.besides id := by
  by_cases own : letter.recipient = id
  · -- the results may differ, but both sends are over, and nothing is written down of others
    subst own
    have hidden (hub : Hub Env Ctx) (sending : Sending) :
        (sending.step hub letter).2.2.besides letter.recipient = [] := by
      refine List.filter_eq_nil_iff.2 fun entry happened => ?_
      simp [sending.fst_of_mem_step hub letter happened]
    refine ⟨beside.of_alters (sending.step_carries hub letter) (sending'.step_carries hub' letter),
      ?_, ?_⟩
    · rw [seen_of_finished (sending.step_finished passing),
        seen_of_finished (sending'.step_finished passing')]
    · rw [hidden, hidden]
  · rw [seen_of_ne own, seen_of_ne own] at same
    subst same
    rw [seen_of_ne own, seen_of_ne own]
    cases sending' with
    | due =>
      obtain ⟨result, after⟩ := beside.sendBy own Transport.send letter.frame
      simp only [step, Hub.send, result, and_true]
      exact after
    | heldBack =>
      obtain ⟨result, after⟩ := beside.sendBy own Transport.resend letter.frame
      simp only [step, Hub.resend, result, and_true]
      exact after
    | finished result => exact ⟨beside, rfl, rfl⟩

end Sending

/-! ## Broadcasts -/

namespace Table

variable {κ α β : Type} [DecidableEq κ]

theorem get?_map (table : Table κ α) (f : κ → α → β) (key : κ) :
    get? (table.map fun entry => (entry.1, f entry.1 entry.2)) key =
      (table.get? key).map (f key) := by
  induction table with
  | nil => rfl
  | cons entry rest ih =>
    rw [List.map_cons, get?, get?, ih]
    split
    · rename_i same
      rw [same]
      rfl
    · rfl

theorem map_modify (table : Table κ α) (f : κ → α → β) (key : κ) (value : α) :
    (table.modify key fun _ => value).map (fun entry => (entry.1, f entry.1 entry.2)) =
      Table.modify (table.map fun entry => (entry.1, f entry.1 entry.2)) key
        fun _ => f key value := by
  rw [modify, modify, List.map_map, List.map_map]
  refine List.map_congr_left fun entry _ => ?_
  dsimp only [Function.comp_apply]
  split
  · rename_i same
    rw [same]
  · rfl

end Table

namespace Broadcasting

variable {id : ConnectionId} {hub hub' : Hub Env Ctx}

namespace Round

/-- A broadcast as all but one client see it. -/
def seen (id : ConnectionId) : Round → Round
  | delivering frame sends =>
    delivering frame (sends.map fun entry => (entry.1, entry.2.seen id entry.1))
  | round => round

theorem seen_address (hub : Hub Env Ctx) (round : Round) :
    (round.address provider hub).seen id = (round.seen id).address provider hub := by
  cases round with
  | announced line =>
    have same : (announced line).seen id = announced line := rfl
    cases made : provider.encodeLine line with
    | error reason =>
      simp only [same, address, made]
      rfl
    | ok message =>
      simp only [address, made, seen, List.map_map]
      rfl
  | failed => rfl
  | delivering frame sends => rfl

theorem address_beside (beside : hub.Beside id hub') (round : Round) :
    round.address provider hub' = round.address provider hub := by
  rw [beside.only]
  cases round <;> rfl

/-- The same step of a send in both runs. -/
theorem deliver_beside (beside : hub.Beside id hub') (passing : hub.Passing id)
    (passing' : hub'.Passing id) {round round' : Round} (same : round'.seen id = round.seen id)
    (number : Nat) (own : ConnectionId) :
    (round.deliver hub number own).1.Beside id (round'.deliver hub' number own).1 ∧
      (round'.deliver hub' number own).2.1.seen id = (round.deliver hub number own).2.1.seen id ∧
      (round'.deliver hub' number own).2.2.besides id =
        (round.deliver hub number own).2.2.besides id := by
  cases round with
  | announced line =>
    cases round' <;> cases same
    exact ⟨beside, rfl, rfl⟩
  | failed =>
    cases round' <;> cases same
    exact ⟨beside, rfl, rfl⟩
  | delivering frame sends =>
    cases round' with
    | announced line => cases same
    | failed => cases same
    | delivering frame' sends' =>
      simp only [seen, delivering.injEq] at same
      obtain ⟨rfl, same⟩ := same
      have here := congrArg (Table.get? · own) same
      simp only [Table.get?_map] at here
      cases found : sends.get? own with
      | none =>
        rw [found, Option.map_none, Option.map_eq_none_iff] at here
        simp only [deliver, found, here, seen, same]
        exact ⟨beside, trivial, trivial⟩
      | some sending =>
        rw [found, Option.map_some, Option.map_eq_some_iff] at here
        obtain ⟨sending', found', here⟩ := here
        let letter : Letter := { sender := some number, recipient := own, frame := frame' }
        obtain ⟨after, next, happened⟩ :=
          Sending.step_beside beside passing passing' letter here
        simp only [deliver, found, found', seen, Table.map_modify, same]
        refine ⟨after, ?_, happened⟩
        have follows : (sending'.step hub' letter).2.1.seen id own = _ := next
        rw [follows]

end Round

/-- The traffic of two runs is the same but for one transport and the results of sends over it. -/
structure Traffic.Beside (id : ConnectionId) (traffic traffic' : Traffic Env Ctx) : Prop where
  hub : traffic.world.hub.Beside id traffic'.world.hub
  tasks : traffic'.world.tasks = traffic.world.tasks
  history : traffic'.world.history = traffic.world.history
  rounds : traffic'.rounds.map (Round.seen id) = traffic.rounds.map (Round.seen id)
  ledger : traffic'.ledger.besides id = traffic.ledger.besides id

namespace Traffic

variable {traffic traffic' : Traffic Env Ctx}

theorem Beside.noted (beside : Beside id traffic traffic') {after after' : Hub Env Ctx}
    (reached : after.Beside id after') {happened happened' : Ledger}
    (same : happened'.besides id = happened.besides id) :
    Beside id (traffic.noted after happened) (traffic'.noted after' happened') where
  hub := reached
  tasks := beside.tasks
  history := beside.history
  rounds := beside.rounds
  ledger := by
    rw [Traffic.noted, Traffic.noted, Ledger.besides_append, Ledger.besides_append, beside.ledger,
      same]

theorem Beside.setRound (beside : Beside id traffic traffic') {round round' : Round}
    (same : round'.seen id = round.seen id) (number : Nat) :
    Beside id { traffic with rounds := traffic.rounds.set number round }
      { traffic' with rounds := traffic'.rounds.set number round' } :=
  { beside with rounds := by rw [List.map_set, List.map_set, beside.rounds, same] }

/-- A round in one run has its counterpart in the other. -/
theorem Beside.round (beside : Beside id traffic traffic') (number : Nat) :
    (traffic'.rounds[number]?).map (Round.seen id) =
      (traffic.rounds[number]?).map (Round.seen id) := by
  rw [← List.getElem?_map, ← List.getElem?_map, beside.rounds]

theorem Beside.operation (beside : Beside id traffic traffic') (action : Interleaving.Action Env) :
    Beside id (traffic.step provider (.operation action))
      (traffic'.step provider (.operation action)) := by
  obtain ⟨hub, tasks, history, rounds, ledger⟩ := beside
  cases action with
  | proceed task =>
    simp only [step, sparing, Interleaving.World.step, tasks]
    split
    · exact ⟨hub, tasks, history, rounds, ledger⟩
    · rename_i point _
      obtain ⟨reached, same⟩ := Interleaving.Point.step_beside provider hub point
      refine ⟨reached, ?_, ?_, rounds, ledger⟩
      · simp only [Interleaving.World.moved, tasks, same]
      · simp only [Interleaving.World.moved, history, same]
  | outside env transports tickets =>
    refine ⟨⟨?_, hub.others⟩, tasks, history, rounds, ledger⟩
    simp only [step, sparing, Interleaving.World.step]
    rw [hub.only]
  | connect transport =>
    exact ⟨hub, congrArg (· ++ _) tasks, history, rounds, ledger⟩
  | disconnect ids =>
    exact ⟨hub, congrArg (· ++ _) tasks, history, rounds, ledger⟩
  | disconnectAll =>
    exact ⟨hub, congrArg (· ++ _) tasks, history, rounds, ledger⟩
  | message own request =>
    exact ⟨hub, congrArg (· ++ _) tasks, history, rounds, ledger⟩

theorem change_grows (provider : ContextProvider Env Ctx) (traffic : Traffic Env Ctx)
    (own : ConnectionId) (next : Transport) :
    ∃ after, traffic.step provider (.change own next) = traffic.noted after [] ∧
      traffic.world.hub.Grows own [] after := by
  have same : traffic.world.hub.Grows own [] traffic.world.hub := (Hub.Carries.refl own _).grows
  rw [step]
  split
  · exact ⟨_, traffic.noted_nil.symm, same⟩
  · rename_i transport found
    split
    · rename_i grown
      exact ⟨_, rfl, .of_set found grown⟩
    · exact ⟨_, traffic.noted_nil.symm, same⟩

theorem Beside.change (beside : Beside id traffic traffic') (own : ConnectionId)
    (next : Transport) :
    Beside id (traffic.step provider (.change own next))
      (traffic'.step provider (.change own next)) := by
  by_cases same : own = id
  · subst same
    obtain ⟨after, changed, grows⟩ := traffic.change_grows provider own next
    obtain ⟨after', changed', grows'⟩ := traffic'.change_grows provider own next
    rw [changed, changed']
    exact beside.noted (beside.hub.of_alters grows grows') rfl
  · simp only [Traffic.step, beside.hub.others own same]
    split
    · exact beside
    · split
      · refine beside.noted ⟨by rw [beside.hub.only], fun other differ => ?_⟩ rfl
        exact Table.get?_set_congr (beside.hub.others other differ) ..
      · exact beside

/-- The same step in both runs. -/
theorem Beside.step (beside : Beside id traffic traffic') (passing : traffic.world.hub.Passing id)
    (passing' : traffic'.world.hub.Passing id) (action : Action Env) :
    Beside id (traffic.step provider action) (traffic'.step provider action) := by
  cases action with
  | operation action => exact beside.operation action
  | announce line =>
    exact { beside with rounds := by simp only [Traffic.step, List.map_append, beside.rounds] }
  | address number =>
    have here := beside.round number
    cases found : traffic.rounds[number]? with
    | none =>
      rw [found, Option.map_none, Option.map_eq_none_iff] at here
      simp only [Traffic.step, found, here]
      exact beside
    | some round =>
      rw [found, Option.map_some, Option.map_eq_some_iff] at here
      obtain ⟨round', found', same⟩ := here
      rw [step_address found, step_address found']
      refine beside.setRound ?_ number
      rw [Round.seen_address, same, Round.address_beside beside.hub, Round.seen_address]
  | deliver number own =>
    have here := beside.round number
    cases found : traffic.rounds[number]? with
    | none =>
      rw [found, Option.map_none, Option.map_eq_none_iff] at here
      simp only [Traffic.step, found, here]
      exact beside
    | some round =>
      rw [found, Option.map_some, Option.map_eq_some_iff] at here
      obtain ⟨round', found', same⟩ := here
      obtain ⟨reached, next, happened⟩ :=
        Round.deliver_beside beside.hub passing passing' same number own
      rw [step_deliver found, step_deliver found']
      exact (beside.noted reached happened).setRound next number
  | other own frame sending =>
    obtain ⟨reached, -, happened⟩ := Sending.step_beside beside.hub passing passing'
      { sender := none, recipient := own, frame } (rfl : sending.seen id own = sending.seen id own)
    exact beside.noted reached happened
  | change own next => exact beside.change own next

end Traffic

end Broadcasting

/-! ## Exchanges -/

namespace Dispatching

open Broadcasting (Traffic)

variable {id : ConnectionId} {hub hub' : Hub Env Ctx}

namespace Exchange

/-- An exchange as all but one client see it. -/
def seen (id : ConnectionId) : Exchange → Exchange
  | sending own frame send => sending own frame (send.seen id own)
  | exchange => exchange

theorem seen_hear (answer : Option (Nat × Except SessionError Bytes)) (exchange : Exchange) :
    (exchange.hear answer).seen id = (exchange.seen id).hear answer := by
  cases exchange with
  | asking own task =>
    rcases answer with _ | ⟨other, result⟩
    · rfl
    · have same : (asking own task).seen id = asking own task := rfl
      rw [same, hear]
      by_cases here : other = task
      · rw [if_pos here]
        rfl
      · rw [if_neg here]
        rfl
  | _ => rfl

theorem seen_lookUp (hub : Hub Env Ctx) (exchange : Exchange) :
    (exchange.lookUp hub).seen id = (exchange.seen id).lookUp hub := by
  cases exchange with
  | answered own result =>
    cases result with
    | error error => rfl
    | ok reply =>
      have same : (answered own (.ok reply)).seen id = answered own (.ok reply) := rfl
      rw [same, lookUp]
      by_cases isOpen : hub.isOpen own = true
      · rw [if_pos isOpen]
        rfl
      · rw [if_neg isOpen]
        rfl
  | _ => rfl

theorem lookUp_beside (beside : hub.Beside id hub') (exchange : Exchange) :
    exchange.lookUp hub' = exchange.lookUp hub := by
  rw [beside.only]
  cases exchange with
  | answered own result => cases result <;> rfl
  | _ => rfl

/-- The same step of the send of a reply in both runs. -/
theorem deliver_beside (beside : hub.Beside id hub') (passing : hub.Passing id)
    (passing' : hub'.Passing id) {exchange exchange' : Exchange}
    (same : exchange'.seen id = exchange.seen id) :
    (exchange.deliver hub).1.Beside id (exchange'.deliver hub').1 ∧
      (exchange'.deliver hub').2.1.seen id = (exchange.deliver hub).2.1.seen id ∧
      (exchange'.deliver hub').2.2.besides id = (exchange.deliver hub).2.2.besides id := by
  cases exchange with
  | sending own frame send =>
    cases exchange' with
    | sending own' frame' send' =>
      simp only [seen, sending.injEq] at same
      obtain ⟨rfl, rfl, same⟩ := same
      obtain ⟨reached, next, happened⟩ := Sending.step_beside beside passing passing'
        { sender := none, recipient := own', frame := frame' } same
      exact ⟨reached, congrArg (sending own' frame') next, happened⟩
    | _ => cases same
  | _ =>
    cases exchange' <;> cases same
    exact ⟨beside, rfl, rfl⟩

end Exchange

namespace Switchboard

/-- The switchboards of two runs are the same but for one transport and the results of sends over
it. -/
structure Beside (id : ConnectionId) (board board' : Switchboard Env Ctx) : Prop where
  traffic : board.traffic.Beside id board'.traffic
  exchanges : board'.exchanges.map (Exchange.seen id) = board.exchanges.map (Exchange.seen id)
  handled : board'.handled = board.handled

variable {board board' : Switchboard Env Ctx}

/-- An exchange in one run has its counterpart in the other. -/
theorem Beside.exchange (beside : Beside id board board') (number : Nat) :
    (board'.exchanges[number]?).map (Exchange.seen id) =
      (board.exchanges[number]?).map (Exchange.seen id) := by
  rw [← List.getElem?_map, ← List.getElem?_map, beside.exchanges]

/-- The same answers come in both runs. -/
theorem Beside.answerIn_eq (beside : Beside id board board') (action : Broadcasting.Action Env) :
    answerIn provider board'.world action = answerIn provider board.world action := by
  have tasks : board'.world.tasks = board.world.tasks := beside.traffic.tasks
  have hub : board.world.hub.Beside id board'.world.hub := beside.traffic.hub
  cases action with
  | operation operation =>
    cases operation with
    | proceed task =>
      rw [answerIn, answerIn, tasks]
      refine congrArg (Option.bind _) (funext fun point => ?_)
      rw [(point.step_beside provider hub).2]
    | _ => rfl
  | _ => rfl

/-- Handlers are given the same requests in both runs. -/
theorem Beside.givenIn_eq (beside : Beside id board board') (action : Broadcasting.Action Env) :
    givenIn board'.world action = givenIn board.world action := by
  have tasks : board'.world.tasks = board.world.tasks := beside.traffic.tasks
  have hub : board.world.hub.Beside id board'.world.hub := beside.traffic.hub
  cases action with
  | operation operation =>
    cases operation with
    | proceed task =>
      rw [givenIn, givenIn, tasks, hub.only]
      rfl
    | _ => rfl
  | _ => rfl

/-- The same step in both runs. -/
theorem Beside.step (beside : Beside id board board') (passing : board.hub.Passing id)
    (passing' : board'.hub.Passing id) (action : Action Env) :
    Beside id (board.step provider action) (board'.step provider action) := by
  cases action with
  | traffic action =>
    refine ⟨beside.traffic.step passing passing' action, ?_, ?_⟩
    · simp only [Switchboard.step, List.map_map, Function.comp_def, Exchange.seen_hear]
      rw [beside.answerIn_eq]
      have same := congrArg (List.map (Exchange.hear (answerIn provider board.world action)))
        beside.exchanges
      simpa only [List.map_map, Function.comp_def] using same
    · simp only [Switchboard.step, beside.handled, beside.givenIn_eq]
  | request own raw =>
    refine ⟨beside.traffic.operation _, ?_, beside.handled⟩
    have tasks : board'.world.tasks = board.world.tasks := beside.traffic.tasks
    simp only [Switchboard.step, List.map_append, beside.exchanges, tasks]
  | lookUp number =>
    have here := beside.exchange number
    cases found : board.exchanges[number]? with
    | none =>
      rw [found, Option.map_none, Option.map_eq_none_iff] at here
      simp only [Switchboard.step, found, here]
      exact beside
    | some exchange =>
      rw [found, Option.map_some, Option.map_eq_some_iff] at here
      obtain ⟨exchange', found', same⟩ := here
      have hub : board.hub.Beside id board'.hub := beside.traffic.hub
      simp only [Switchboard.step, found, found']
      refine { beside with exchanges := ?_ }
      rw [List.map_set, List.map_set, beside.exchanges, Exchange.seen_lookUp, same,
        Exchange.lookUp_beside hub, Exchange.seen_lookUp]
  | deliver number =>
    have here := beside.exchange number
    cases found : board.exchanges[number]? with
    | none =>
      rw [found, Option.map_none, Option.map_eq_none_iff] at here
      simp only [Switchboard.step, found, here]
      exact beside
    | some exchange =>
      rw [found, Option.map_some, Option.map_eq_some_iff] at here
      obtain ⟨exchange', found', same⟩ := here
      obtain ⟨reached, next, happened⟩ :=
        Exchange.deliver_beside beside.traffic.hub passing passing' same
      simp only [Switchboard.step, found, found']
      refine ⟨beside.traffic.noted reached happened, ?_, beside.handled⟩
      dsimp only
      rw [List.map_set, List.map_set, beside.exchanges]
      exact congrArg _ next

/-! ## Runs -/

/-- The same switchboard with another transport for a client. -/
def meddled (board : Switchboard Env Ctx) (id : ConnectionId) (fate : Transport → Transport) :
    Switchboard Env Ctx :=
  let transports := board.hub.transports.modify id fate
  { board with traffic := board.traffic.noted { board.hub with transports } [] }

/-- One step after the other, while somebody changes the transport of a client before each step. -/
def runUnder (provider : ContextProvider Env Ctx) (id : ConnectionId) (board : Switchboard Env Ctx)
    (fate : Nat → Transport → Transport) : List (Action Env) → Switchboard Env Ctx
  | [] => board
  | action :: rest =>
    ((board.meddled id (fate 0)).step provider action).runUnder provider id
      (fun count => fate (count + 1)) rest

theorem passing_meddled (board : Switchboard Env Ctx) {fate : Transport → Transport}
    (passes : ∀ transport, (fate transport).passes = true) :
    (board.meddled id fate).hub.Passing id := by
  intro transport found
  have changed : (board.hub.transports.modify id fate).get? id = some transport := found
  rw [Table.get?_modify, if_pos rfl] at changed
  obtain ⟨before, -, rfl⟩ := Option.map_eq_some_iff.1 changed
  exact passes before

theorem Beside.meddled (beside : Beside id board board') (fate fate' : Transport → Transport) :
    Beside id (board.meddled id fate) (board'.meddled id fate') := by
  have hub : board.hub.Beside id board'.hub := beside.traffic.hub
  refine { beside with
    traffic := beside.traffic.noted ⟨by rw [hub.only], fun other differ => ?_⟩ rfl }
  dsimp only
  rw [Table.get?_modify, Table.get?_modify, if_neg differ.symm, if_neg differ.symm]
  exact hub.others other differ

/-- All steps are the same in both runs. -/
theorem Beside.runUnder (beside : Beside id board board') (actions : List (Action Env))
    {fate fate' : Nat → Transport → Transport}
    (passes : ∀ count transport, (fate count transport).passes = true)
    (passes' : ∀ count transport, (fate' count transport).passes = true) :
    Beside id (board.runUnder provider id fate actions)
      (board'.runUnder provider id fate' actions) := by
  induction actions generalizing board board' fate fate' with
  | nil => exact beside
  | cons action rest ih =>
    refine ih ?_ (fun count => passes (count + 1)) fun count => passes' (count + 1)
    exact (beside.meddled (fate 0) (fate' 0)).step (board.passing_meddled (passes 0))
      (board'.passing_meddled (passes' 0)) action

theorem Beside.refl (id : ConnectionId) (board : Switchboard Env Ctx) : Beside id board board :=
  ⟨⟨.refl id _, rfl, rfl, rfl, rfl⟩, rfl, rfl⟩

theorem kept_meddled (kept : board.traffic.Kept provider) (id : ConnectionId)
    (fate : Transport → Transport) : (board.meddled id fate).traffic.Kept provider := by
  let transports := board.hub.transports.modify id fate
  refine ⟨kept.orderly.step (.outside board.hub.env transports 0), fun other => ?_,
    fun number other => ?_, kept.distinct⟩
  · refine (kept.housed other).trans ?_
    change _ = ((board.hub.transports.modify id fate).get? other).isSome
    rw [Table.get?_modify]
    split
    · rw [Option.isSome_map]
      rfl
    · rfl
  · change Ledger.between (board.traffic.ledger ++ []) number other = _
    rw [List.append_nil]
    exact kept.posted number other

theorem kept_runUnder (kept : board.traffic.Kept provider) (id : ConnectionId)
    (fate : Nat → Transport → Transport) (actions : List (Action Env)) :
    (board.runUnder provider id fate actions).traffic.Kept provider := by
  induction actions generalizing board fate with
  | nil => exact kept
  | cons action rest ih => exact ih (kept_run (kept_meddled kept id (fate 0)) [action]) _

end Switchboard

/-! ## What the others notice -/

open Switchboard

/-- Connects, disconnects, requests answered over their connections and log lines take their steps
in any order. The same steps are taken twice, and before each of them the transport of one client
becomes, in each run, anything that does not hold sends back: one that accepts, one that is cut, one
whose queue is full or whose other end is gone.

After any number of steps, in both runs:

* the transports of all other clients have taken the same messages in the same order, and are the
  same;
* handlers, also those of the client itself, were given the same requests in the same order, and
  contexts and environment are the same;
* the same sessions are open, and all operations stand at the same points.

Nothing is assumed of the contexts, which may share their environment. What the hub does when it
runs an operation as far as it goes is one of the interleavings, and so is what is done at the other
ends of transports. -/
theorem transport_failures_isolated (provider : ContextProvider Env Ctx) (env : Env)
    (client : ConnectionId) (actions : List (Action Env)) (fate fate' : Nat → Transport → Transport)
    (passes : ∀ count transport, (fate count transport).passes = true)
    (passes' : ∀ count transport, (fate' count transport).passes = true) (count : Nat) :
    let board : Switchboard Env Ctx :=
      (initial env).runUnder provider client fate (actions.take count)
    let board' : Switchboard Env Ctx :=
      (initial env).runUnder provider client fate' (actions.take count)
    (∀ other, other ≠ client →
      board'.traffic.ledger.taken other = board.traffic.ledger.taken other ∧
      board'.hub.transports.get? other = board.hub.transports.get? other) ∧
    (board'.handled = board.handled ∧ board'.hub.env = board.hub.env ∧
      ∀ id, board'.hub.context? id = board.hub.context? id) ∧
    (board'.hub.published = board.hub.published ∧
      (∀ id, board'.hub.isOpen id = board.hub.isOpen id) ∧
      (∀ id, board'.hub.state? id = board.hub.state? id) ∧
      board'.hub.snapshot = board.hub.snapshot ∧
      board'.world.tasks = board.world.tasks ∧ board'.world.history = board.world.history) ∧
    ((∀ transport, ∃ more,
        (board.run provider more).hub = (board.hub.connect provider transport).2) ∧
      (∀ operation (point : Interleaving.Point Ctx),
        Interleaving.Point.ofOperation operation = some point → ∃ more,
          (board.run provider more).hub = (board.hub.start provider operation).2) ∧
      (∀ line, ∃ more,
        (board.run provider more).hub = (board.hub.start provider (.broadcast line)).2) ∧
      (∀ id raw, ∃ more exchange,
        let alone := board.run provider (.request id raw :: more)
        alone.hub = (board.hub.start provider (.binary id raw)).2 ∧
        alone.exchanges[board.exchanges.length]? = some exchange ∧
        exchange.StandsAt alone.world.tasks (board.hub.start provider (.binary id raw)).1) ∧
      ∀ (number : Nat) (exchange : Exchange) suspended, board.exchanges[number]? = some exchange →
        exchange.StandsAt board.world.tasks (.waits suspended) → ∃ more, ∃ exchange' : Exchange,
          (board.run provider more).hub = (board.hub.resume provider suspended).2 ∧
          (board.run provider more).exchanges[number]? = some exchange' ∧
          exchange'.StandsAt (board.run provider more).world.tasks
            (board.hub.resume provider suspended).1) := by
  intro board board'
  have beside : Beside client board board' :=
    (Beside.refl client (initial env)).runUnder (actions.take count) passes passes'
  have kept : board.traffic.Kept provider :=
    kept_runUnder (Traffic.initial_kept env) client fate (actions.take count)
  have hub : board.hub.Beside client board'.hub := beside.traffic.hub
  refine ⟨fun other differ => ⟨?_, hub.others other differ⟩,
    ⟨beside.handled, hub.same Hub.env fun _ _ => rfl,
      fun id => hub.same (Hub.context? · id) fun _ _ => rfl⟩,
    ⟨hub.same Hub.published fun _ _ => rfl, fun id => hub.same (Hub.isOpen · id) fun _ _ => rfl,
      fun id => hub.same (Hub.state? · id) fun _ _ => rfl, hub.same Hub.snapshot fun _ _ => rfl,
      beside.traffic.tasks, beside.traffic.history⟩,
    board.exists_connect provider, fun _ _ begins => board.exists_start provider begins,
    exists_broadcast provider kept, board.exists_binary provider,
    fun _ _ _ found stands => exists_resume found stands⟩
  rw [← Ledger.taken_besides _ differ, beside.traffic.ledger, Ledger.taken_besides _ differ]

/-- Contexts that say what they are told. -/
def parrot : ContextProvider Unit Unit where
  create _ := .ok ()
  handle _ _ request := (.replied request, (), ())
  teardown _ _ := ((), none)
  encodeLine _ := .ok []
  encodeFailure _ _ := []
  streamLogs _ := true

/-- A connection is opened. -/
def opening (task : Nat) : List (Action Unit) :=
  .traffic (.operation (.connect .newRecording)) ::
    .replicate 3 (.traffic (.operation (.proceed task)))

/-- A request is answered over its connection. -/
def asked (id : ConnectionId) (raw : Bytes) (task number : Nat) : List (Action Unit) :=
  .request id raw :: .replicate 5 (.traffic (.operation (.proceed task))) ++
    [.lookUp number, .deliver number]

/-- The reply to the first client is taken in one run and lost in the other. The second client gets
its reply in both. -/
theorem transport_failures_isolated_cut :
    let actions := opening 0 ++ opening 1 ++ asked 1 [8] 2 0 ++ asked 2 [9] 3 1
    let intact (_ : Nat) (transport : Transport) : Transport :=
      if transport.passes then transport else .newRecording
    let cut (_ : Nat) (_ : Transport) : Transport := .recording { cut := true }
    let board : Switchboard Unit Unit := (initial ()).runUnder parrot 1 intact actions
    let board' : Switchboard Unit Unit := (initial ()).runUnder parrot 1 cut actions
    board.exchanges.map Exchange.result? = [some (.ok ()), some (.ok ())] ∧
    board'.exchanges.map Exchange.result? =
      [some (.error (.delivery (.connectionLost "transport cut"))), some (.ok ())] ∧
    board.handled = [(1, [8]), (2, [9])] ∧ board'.handled = board.handled ∧
    board.traffic.ledger.taken 2 = [Gzip.compress [9]] ∧
    board'.traffic.ledger.taken 2 = board.traffic.ledger.taken 2 := by
  intro actions intact cut board board'
  have passes : ∀ count transport, (intact count transport).passes = true := by
    intro count transport
    dsimp only [intact]
    split
    · rename_i passes
      exact passes
    · rfl
  obtain ⟨others, ⟨handled, -⟩, -⟩ := transport_failures_isolated parrot () 1 actions intact cut
    passes (fun _ _ => rfl) actions.length
  rw [List.take_length] at others handled
  refine ⟨?_, ?_, ?_, ?_, ?_, ?_⟩
  · decide +kernel
  · decide +kernel
  · decide +kernel
  · dsimp only [board, board']
    exact handled
  · decide +kernel
  · dsimp only [board, board']
    exact (others 2 (by decide)).1

end Dispatching

end Inspector
