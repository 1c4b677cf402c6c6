import Inspector.Proofs.Session.Deliveries

/-!
# Whom a broadcast reaches

Whatever else happens between its snapshot and its report, a broadcast makes one send to each
connection of its snapshot and none to others (`broadcast_reaches_snapshot`): a broadcast keeps its
recipients (`Traffic.later_run`), and its report counts sends that are over (`report_eq`).
-/

namespace Inspector.Broadcasting

variable {Env Ctx : Type} {provider : ContextProvider Env Ctx} {hub : Hub Env Ctx}

/-! ## One broadcast -/

namespace Round

/-- How a broadcast that has its recipients goes on. -/
inductive Later : Round → Round → Prop
  | failed : Later failed failed
  | delivering {frame : Bytes} {sends next : Table ConnectionId Sending} :
      next.map (·.1) = sends.map (·.1) → Later (delivering frame sends) (delivering frame next)

/-- A broadcast that has its recipients keeps them. -/
theorem Later.goes {number : Nat} {first round next : Round} (later : Later first round)
    (goes : Goes provider hub number round next) : Later first next := by
  cases later with
  | failed => cases goes <;> exact .failed
  | delivering same =>
    cases goes with
    | address => exact .delivering same
    | deliver id =>
      rw [deliver]
      split
      · exact .delivering same
      · exact .delivering ((Table.keys_modify ..).trans same)

end Round

namespace Traffic

variable {traffic : Traffic Env Ctx}

theorem later_step (provider : ContextProvider Env Ctx) {number : Nat} {first round : Round}
    (found : traffic.rounds[number]? = some round) (later : first.Later round)
    (action : Action Env) :
    ∃ next, (traffic.step provider action).rounds[number]? = some next ∧ first.Later next := by
  have bound := (List.getElem?_eq_some_iff.1 found).1
  rcases traffic.step_rounds provider action with
    same | ⟨line, same⟩ | ⟨own, old, new, here, goes, same⟩ <;> rw [same]
  · exact ⟨round, found, later⟩
  · exact ⟨round, (List.getElem?_append_left bound).trans found, later⟩
  · by_cases own' : own = number
    · subst own'
      cases here.symm.trans found
      exact ⟨new, List.getElem?_set_self bound, later.goes goes⟩
    · exact ⟨round, (List.getElem?_set_ne own').trans found, later⟩

theorem later_run (provider : ContextProvider Env Ctx) {number : Nat} {first round : Round}
    (found : traffic.rounds[number]? = some round) (later : first.Later round)
    (actions : List (Action Env)) :
    ∃ next, (traffic.run provider actions).rounds[number]? = some next ∧ first.Later next := by
  induction actions generalizing traffic round with
  | nil => exact ⟨round, found, later⟩
  | cons action actions ih =>
    obtain ⟨next, found', later'⟩ := later_step provider found later action
    exact ih found' later'

end Traffic

/-! ## Reports -/

theorem wentWell_iff {sending : Sending} {result : Except SendError Unit}
    (finished : sending.result? = some result) :
    Hub.wentWell sending.result? = true ↔ result = .ok () := by
  rw [finished]
  cases result <;> simp [Hub.wentWell]

/-- A report tells of all sends, each of which is over. -/
theorem report_eq {frame : Bytes} {sends : Table ConnectionId Sending} {report : BroadcastReport}
    (distinct : (sends.map (·.1)).Nodup)
    (reported : (Round.delivering frame sends).report? = some report) :
    report.recipients = sends.map (·.1) ∧ ∃ results : ConnectionId → Except SendError Unit,
      (∀ id ∈ report.recipients, sends.get? id = some (.finished (results id))) ∧
      report.delivered = report.recipients.countP (fun id => results id = .ok ()) ∧
      report.delivered + report.failed = report.recipients.length := by
  rw [Round.report?, Hub.report?] at reported
  split at reported
  · rename_i finished
    cases reported
    let results (id : ConnectionId) : Except SendError Unit :=
      ((sends.get? id).bind (·.result?)).getD (.ok ())
    have ended {id : ConnectionId} {sending : Sending} (among : (id, sending) ∈ sends) :
        sending = .finished (results id) := by
      have found := Table.get?_of_mem distinct among
      have some : (toDelivery (id, sending)).result.isSome = true :=
        List.all_eq_true.1 finished _ (List.mem_map_of_mem among)
      cases sending with
      | finished result => simp [results, found, Sending.result?]
      | _ => cases some
    have recipients : (sends.map toDelivery).map (·.recipient) = sends.map (·.1) := List.map_map
    refine ⟨recipients, results, ?_, ?_, ?_⟩
    · intro id among
      rw [recipients] at among
      obtain ⟨⟨own, sending⟩, present, rfl⟩ := List.mem_map.1 among
      rw [← ended present]
      exact Table.get?_of_mem distinct present
    · dsimp only
      rw [recipients, List.countP_map, List.countP_map]
      refine List.countP_congr fun entry present => ?_
      have result : entry.2.result? = some (results entry.1) := by rw [ended present]; rfl
      exact (wentWell_iff result).trans decide_eq_true_iff.symm
    · dsimp only
      rw [List.length_map,
        List.length_eq_countP_add_countP fun delivery : Delivery => Hub.wentWell delivery.result]
      simp
  · cases reported

theorem stepEach_finished {frame : Bytes} {number : Nat} {sends : Table ConnectionId Sending}
    (distinct : (sends.map (·.1)).Nodup)
    (passes : ∀ id ∈ sends.map (·.1), ∀ transport, hub.transports.get? id = some transport →
      transport.passes = true) :
    ∀ entry ∈ (stepEach hub number frame sends).2, entry.2.result?.isSome = true := by
  induction sends generalizing hub with
  | nil => exact List.forall_mem_nil _
  | cons first rest ih =>
    obtain ⟨id, sending⟩ := first
    obtain ⟨absent, distinct⟩ := List.nodup_cons.1 distinct
    let letter : Letter := { sender := some number, recipient := id, frame }
    intro entry among
    rcases List.mem_cons.1 among with rfl | later
    · exact sending.step_finished fun transport found =>
        passes id List.mem_cons_self transport found
    · refine ih distinct (fun other present transport found => ?_) entry later
      have differ : other ≠ id := fun same => absent (same ▸ present)
      have unchanged := (sending.step_carries hub letter).others other differ
      exact passes other (List.mem_cons_of_mem _ present) transport (unchanged.symm.trans found)

namespace Traffic

variable {traffic : Traffic Env Ctx} {number : Nat} {frame : Bytes}
  {sends : Table ConnectionId Sending}

theorem Kept.between_eq (kept : traffic.Kept provider) {round : Round}
    (found : traffic.rounds[number]? = some round) (id : ConnectionId) :
    traffic.ledger.between number id = round.entries number id := by
  rw [kept.posted, told, found]
  rfl

theorem Kept.between_of_not_mem (kept : traffic.Kept provider)
    (found : traffic.rounds[number]? = some (.delivering frame sends)) {id : ConnectionId}
    (absent : id ∉ sends.map (·.1)) : traffic.ledger.between number id = [] := by
  rw [kept.between_eq found, Round.entries]
  cases here : sends.get? id with
  | none => rfl
  | some sending => exact (absent (Table.mem_keys_of_get? here)).elim

theorem Kept.exists_sending (kept : traffic.Kept provider)
    (found : traffic.rounds[number]? = some (.delivering frame sends)) {id : ConnectionId}
    (among : id ∈ sends.map (·.1)) : ∃ sending : Sending, traffic.ledger.between number id =
      sending.entries { sender := some number, recipient := id, frame } := by
  obtain ⟨⟨own, sending⟩, present, rfl⟩ := List.mem_map.1 among
  have distinct := kept.distinct _ (List.mem_of_getElem? found)
  refine ⟨sending, ?_⟩
  rw [kept.between_eq found, Round.entries, Table.get?_of_mem distinct present]
  rfl

theorem Kept.of_report (kept : traffic.Kept provider)
    (found : traffic.rounds[number]? = some (.delivering frame sends)) {report : BroadcastReport}
    (reported : traffic.report? number = some report) :
    let letter (id : ConnectionId) : Letter := { sender := some number, recipient := id, frame }
    report.recipients = sends.map (·.1) ∧ ∃ results : ConnectionId → Except SendError Unit,
      (∀ id ∈ sends.map (·.1), traffic.ledger.between number id =
        [(letter id, .begun), (letter id, .ended (results id))]) ∧
      report.delivered = (sends.map (·.1)).countP (fun id => results id = .ok ()) ∧
      report.delivered + report.failed = (sends.map (·.1)).length := by
  intro letter
  have distinct := kept.distinct _ (List.mem_of_getElem? found)
  rw [report?, found, Option.bind_some] at reported
  obtain ⟨recipients, results, finished, delivered, all⟩ := report_eq distinct reported
  rw [recipients] at finished delivered all
  refine ⟨recipients, results, fun id among => ?_, delivered, all⟩
  rw [kept.between_eq found, Round.entries, finished id among]
  rfl

/-- A broadcast waits for transports that hold its sends back, and for nothing else. -/
theorem Kept.exists_report (kept : traffic.Kept provider)
    (found : traffic.rounds[number]? = some (.delivering frame sends))
    (passes : ∀ id ∈ sends.map (·.1), ∀ transport,
      traffic.world.hub.transports.get? id = some transport → transport.passes = true) :
    ∃ report, (traffic.run provider ((sends.map (·.1)).map (.deliver number))).report? number =
      some report := by
  have distinct := kept.distinct _ (List.mem_of_getElem? found)
  let stepped := (stepEach traffic.world.hub number frame sends).2
  obtain ⟨-, rounds⟩ := run_deliver provider [] found distinct
  have here : (traffic.run provider ((sends.map (·.1)).map (.deliver number))).rounds[number]? =
      some (.delivering frame stepped) := by
    rw [rounds]
    exact List.getElem?_set_self (List.getElem?_eq_some_iff.1 found).1
  have finished : ∀ entry ∈ stepped, entry.2.result?.isSome = true :=
    stepEach_finished distinct passes
  have all : ((stepped.map toDelivery).all fun delivery => delivery.result.isSome) = true := by
    rw [List.all_map]
    exact List.all_eq_true.2 finished
  rw [report?, here, Option.bind_some, Round.report?, Hub.report?, if_pos all]
  exact ⟨_, rfl⟩

end Traffic

/-! ## Whom a broadcast reaches -/

open Traffic

/-- A broadcast is announced after any steps, then makes its message and takes its snapshot, and
then any steps follow.

* Its recipients are the connections that are published at the snapshot, in ascending order.
* If the line makes no message, nothing is sent and the report is empty.
* Otherwise there is no send to others at any time, and one at most to each recipient. By the time
  of the report each recipient has had one send of the one message, whether its session is still
  there or not, and the report counts the sends that went well and the others. Once no recipient's
  transport holds sends back, one step more of each send brings the report.
* Every recipient has a transport, and from any time on transports have taken what the ledger says
  and nothing else: the sends in the ledger are all there are. A recorder holds all of it behind
  what it held; off the front of a channel's queue, messages may have been taken at its other end.
* The steps of a broadcast leave sessions and operations as they are, and the transports of all but
  the one recipient that a step is about. Behind what that one's transport holds there is then what
  the ledger says that it took in the step, and it has not changed otherwise.

What the hub does for a broadcast are steps of the broadcast alone, and what is done at the other
ends of transports is one of the interleavings. -/
theorem broadcast_reaches_snapshot (provider : ContextProvider Env Ctx) (env : Env)
    (before after : List (Action Env)) (number : Nat) (line : String)
    (announced :
      ((initial env).run provider before).rounds[number]? = some (.announced line)) :
    let first : Traffic Env Ctx := (initial env).run provider before
    let last := (first.step provider (.address number)).run provider after
    let recipients := first.world.hub.snapshot
    (recipients.Pairwise (· < ·) ∧ ∀ id, id ∈ recipients ↔ id ∈ first.world.hub.published) ∧
    (∀ reason, provider.encodeLine line = .error reason →
      last.report? number = some {} ∧ ∀ id, last.ledger.between number id = []) ∧
    (∀ message, provider.encodeLine line = .ok message →
      let letter (id : ConnectionId) : Letter :=
        { sender := some number, recipient := id, frame := Gzip.compress message }
      (∀ id, id ∉ recipients → last.ledger.between number id = []) ∧
      (∀ id ∈ recipients, ∃ sending : Sending,
        last.ledger.between number id = sending.entries (letter id)) ∧
      (∀ report, last.report? number = some report →
        report.recipients = recipients ∧
        ∃ results : ConnectionId → Except SendError Unit,
          (∀ id ∈ recipients, last.ledger.between number id =
            [(letter id, .begun), (letter id, .ended (results id))]) ∧
          report.delivered = recipients.countP (fun id => results id = .ok ()) ∧
          report.delivered + report.failed = recipients.length) ∧
      ((∀ id ∈ recipients, ∀ transport,
          last.world.hub.transports.get? id = some transport → transport.passes = true) →
        ∃ report,
          (last.run provider (recipients.map (.deliver number))).report? number = some report)) ∧
    ((∀ id ∈ recipients, (first.world.hub.transports.get? id).isSome = true) ∧
      ∀ earlier later, after = earlier ++ later →
        Grew ((first.step provider (.address number)).run provider earlier) last) ∧
    (∀ traffic : Traffic Env Ctx, ∀ own,
      (traffic.step provider (.address own)).world = traffic.world ∧
      ∀ id, ∃ transports, (traffic.step provider (.deliver own id)).world =
          { traffic.world with hub := { traffic.world.hub with transports } } ∧
        (∀ other, other ≠ id → transports.get? other = traffic.world.hub.transports.get? other) ∧
        ∃ happened, (traffic.step provider (.deliver own id)).ledger = traffic.ledger ++ happened ∧
          Option.Rel (·.Took (happened.taken id) ·) (traffic.world.hub.transports.get? id)
            (transports.get? id)) ∧
    ((∀ line, ∃ (ids : List ConnectionId) (round : Round),
        let alone := last.run provider (.announce line :: .address last.rounds.length ::
          ids.map (.deliver last.rounds.length))
        alone.world.hub = (last.world.hub.start provider (.broadcast line)).2 ∧
        alone.rounds = last.rounds ++ [round] ∧
        round.StandsAt (last.world.hub.start provider (.broadcast line)).1) ∧
      (∀ own frame deliveries, last.rounds[own]? = some (.ofDeliveries frame deliveries) →
        ∃ (ids : List ConnectionId) (round : Round),
          let alone := last.run provider (ids.map (.deliver own))
          alone.world.hub = (last.world.hub.resume provider (.broadcast frame deliveries)).2 ∧
          alone.rounds = last.rounds.set own round ∧
          round.StandsAt (last.world.hub.resume provider (.broadcast frame deliveries)).1) ∧
      ∀ schedule : Schedule Env Ctx, schedule.hub = last.world.hub → ∀ id,
        (∃ more, (last.run provider more).world.hub = (schedule.receive id).2.hub) ∧
        ∀ change ∈ [Transport.cut?, Transport.release?, Transport.dropReceiver?],
          ∃ more, (last.run provider more).world.hub =
            (schedule.changeTransport id change).2.hub) := by
  intro first last recipients
  have kept : first.Kept provider := (initial_kept env).run before
  have sound := kept.orderly.sound
  have lastKept : last.Kept provider := (kept.step _).run after
  have here : (first.step provider (.address number)).rounds[number]? =
      some ((Round.announced line).address provider first.world.hub) := by
    rw [step_address announced]
    exact List.getElem?_set_self (List.getElem?_eq_some_iff.1 announced).1
  refine ⟨⟨sound.snapshot_ascending, fun _ => sound.mem_snapshot⟩, fun reason refused => ?_,
    fun message made => ?_, ⟨fun id among => ?_, fun earlier later split => ?_⟩,
    fun traffic own => ⟨world_address provider traffic own, fun id => ?_⟩,
    fun line => exists_start provider last ?_ line,
    fun own frame deliveries found => exists_resume provider found ?_,
    fun schedule same id => ⟨exists_receive same id, fun _ => exists_changeTransport same id⟩⟩
  · rw [Round.address, refused] at here
    obtain ⟨round, found, later⟩ := later_run provider here .failed after
    cases later
    exact ⟨by rw [report?, found]; rfl, fun id => lastKept.between_eq found id⟩
  · rw [Round.address, made] at here
    obtain ⟨round, found, later⟩ := later_run provider here (.delivering rfl) after
    cases later with
    | @delivering _ _ sends keys =>
    -- whatever came after the snapshot, the recipients are still those of the snapshot
    have same : sends.map (·.1) = recipients := by
      simpa [recipients, Function.comp_def] using keys
    rw [← same]
    exact ⟨fun id absent => lastKept.between_of_not_mem found absent,
      fun id among => lastKept.exists_sending found among,
      fun report reported => lastKept.of_report found reported, lastKept.exists_report found⟩
  · obtain ⟨live, -⟩ := sound.live_of_published (sound.mem_snapshot.1 among)
    obtain ⟨session, settled, -⟩ := Option.map_eq_some_iff.1 live
    rw [← kept.housed id, settled]
    rfl
  · have same : last = _ := (congrArg _ split).trans (run_append ..)
    rw [same]
    exact ((kept.step _).run earlier).grew_run later
  · obtain ⟨happened, carries, tight⟩ := traffic.deliver_carries provider own id
    exact ⟨_, carries.world, carries.hub.others, happened, carries.ledger, tight.own⟩
  · exact lastKept.orderly.sound.snapshot_ascending.imp Nat.ne_of_lt
  · have distinct := lastKept.distinct _ (List.mem_of_getElem? found)
    rwa [Round.ofDeliveries, Round.recipients, List.map_map] at distinct

/-- Makes a message of every line but the empty one. -/
def crier : ContextProvider Unit Unit where
  create _ := .ok ()
  handle _ _ request := (.replied request, (), ())
  teardown _ _ := ((), none)
  encodeLine line := if line = "" then .error "nothing to say" else .ok [7]
  encodeFailure _ _ := []
  streamLogs _ := true

/-- An operation is started and takes some steps. -/
def operate (action : Interleaving.Action Unit) (task steps : Nat) : List (Action Unit) :=
  .operation action :: .replicate steps (.operation (.proceed task))

/-- The first recipient is closed while its send is held back, and gets the message when its
transport lets it through. The queue of the second is full. The third connection comes after the
snapshot and gets nothing. -/
theorem broadcast_reaches_closed_session :
    let before := operate (.connect .newStalling) 0 3 ++
      operate (.connect (.channel { capacity := 1, queue := [[5]] })) 1 3 ++ [.announce "hello"]
    let after := [.deliver 0 1] ++ operate (.connect .newRecording) 2 3 ++
      operate (.disconnect [1]) 3 9 ++
      [.deliver 0 2, .change 1 (.stalling {} { released := true }), .deliver 0 1]
    let first : Traffic Unit Unit := (initial ()).run crier before
    let last := (first.step crier (.address 0)).run crier after
    last.world.hub.state? 1 = some .closed ∧ last.world.hub.published = [2, 3] ∧
    last.report? 0 = some { recipients := [1, 2], delivered := 1, failed := 1 } ∧
    (last.world.hub.transports.get? 1).bind Transport.frames? = some [Gzip.compress [7]] ∧
    (∃ result, last.ledger.between 0 2 =
      [({ sender := some 0, recipient := 2, frame := Gzip.compress [7] }, .begun),
        ({ sender := some 0, recipient := 2, frame := Gzip.compress [7] }, .ended result)]) ∧
    last.ledger.between 0 3 = [] := by
  intro before after first last
  have announced : first.rounds[0]? = some (.announced "hello") := rfl
  have snapshot : first.world.hub.snapshot = [1, 2] := by
    have found : first.world.hub.published.filter first.world.hub.isOpen = [1, 2] := by
      decide +kernel
    rw [Hub.snapshot, found]
    exact List.mergeSort_of_pairwise (by decide)
  -- sorting does not evaluate, so the snapshot is put in by hand
  have addressed : first.step crier (.address 0) =
      { first with rounds := [.delivering (Gzip.compress [7]) [(1, .due), (2, .due)]] } := by
    rw [step_address announced, Round.address, snapshot]
    rfl
  have reported : last.report? 0 = some { recipients := [1, 2], delivered := 1, failed := 1 } := by
    simp only [last, addressed]
    decide +kernel
  obtain ⟨-, -, reaches, -⟩ := broadcast_reaches_snapshot crier () before after 0 "hello" announced
  obtain ⟨nobody, -, sent, -⟩ := reaches [7] rfl
  obtain ⟨-, results, once, -⟩ := sent _ reported
  refine ⟨?_, ?_, reported, ?_, ⟨results 2, once 2 ?_⟩, nobody 3 ?_⟩
  · simp only [last, addressed]
    decide +kernel
  · simp only [last, addressed]
    decide +kernel
  · simp only [last, addressed]
    decide +kernel
  · exact snapshot ▸ by decide
  · exact snapshot ▸ by decide

end Inspector.Broadcasting
