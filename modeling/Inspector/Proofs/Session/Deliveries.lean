import Inspector.Proofs.Session.Lifecycle
import Inspector.Proofs.Session.Traffic

/-!
# What the ledger tells of deliveries

At any time of any interleaving (`Traffic.Kept`):

* the snapshot has the published connections in ascending order (`Sound.mem_snapshot`,
  `Sound.snapshot_ascending`), and these have transports;
* the ledger and the broadcasts tell the same of each send (`Kept.posted`);
* each transport has taken since any earlier time what the ledger says and nothing else; a recorder
  holds all of it behind what it held, a channel what was not taken off the front of its queue
  (`Kept.grew_run`).

A step is one of an operation on sessions, which leaves the transports alone, or it is about one
transport at most (`Traffic.step_carries`). A step of a broadcast puts what is taken behind what the
transport holds and changes nothing else of it (`Traffic.deliver_carries`).
-/

namespace Inspector

/-! ## Snapshots -/

namespace Interleaving

variable {Env Ctx : Type} {provider : ContextProvider Env Ctx} {world : World Env Ctx}

theorem World.Sound.mem_snapshot (sound : world.Sound) {id : ConnectionId} :
    id ∈ world.hub.snapshot ↔ id ∈ world.hub.published := by
  rw [Hub.snapshot, List.mem_mergeSort, List.mem_filter, and_iff_left_iff_imp]
  exact fun found => Hub.isOpen_iff.2 ⟨found, (sound.live_of_published found).1⟩

theorem World.Sound.nodup_published (sound : world.Sound) : world.hub.published.Nodup := by
  refine List.nodup_iff_count_le_one.2 fun id => ?_
  have live := (sound id).1.live
  have states := Stage.inState_sum_le_one (world.account id).session
  have same : (world.account id).published = world.hub.published.count id := rfl
  omega

theorem World.Sound.snapshot_ascending (sound : world.Sound) :
    world.hub.snapshot.Pairwise (· < ·) := by
  have sorted : world.hub.snapshot.Pairwise (· ≤ ·) := by
    refine (List.pairwise_mergeSort ?_ ?_ _).imp fun most => of_decide_eq_true most
    · intro a b c first second
      simp only [decide_eq_true_eq] at first second ⊢
      exact first.trans second
    · intro a b
      simpa using Nat.le_total a b
  have distinct : world.hub.snapshot.Nodup :=
    (List.mergeSort_perm _ _).nodup_iff.2 (sound.nodup_published.filter _)
  exact (sorted.and distinct).imp fun both => Nat.lt_of_le_of_ne both.1 both.2

end Interleaving

/-! ## Who has a transport -/

namespace Hub

variable {Env Ctx : Type} {hub after : Hub Env Ctx}

/-- The connections with a session are those with a transport. -/
def Housed (hub : Hub Env Ctx) : Prop :=
  ∀ id, (hub.sessions.get? id).isSome = (hub.transports.get? id).isSome

/-- The same connections have sessions, and the transports are the same. -/
structure KeepsHomes (hub after : Hub Env Ctx) : Prop where
  transports : after.transports = hub.transports
  sessions : ∀ id, (after.sessions.get? id).isSome = (hub.sessions.get? id).isSome

theorem KeepsHomes.of_same (transports : after.transports = hub.transports)
    (sessions : after.sessions = hub.sessions) : KeepsHomes hub after :=
  ⟨transports, fun _ => by rw [sessions]⟩

theorem keepsHomes_modify (hub : Hub Env Ctx) (id : ConnectionId) (f : Session Ctx → Session Ctx) :
    hub.KeepsHomes { hub with sessions := hub.sessions.modify id f } := by
  refine ⟨rfl, fun other => ?_⟩
  rw [Table.get?_modify]
  split <;> simp

theorem keepsHomes_acquire (hub : Hub Env Ctx) (id : ConnectionId) :
    hub.KeepsHomes (hub.acquire id).2 :=
  ⟨rfl, (keepsHomes_modify { hub with nextTicket := hub.nextTicket + 1 } id _).sessions⟩

theorem keepsHomes_takeUp (hub : Hub Env Ctx) (id : ConnectionId) (ticket : Ticket) :
    hub.KeepsHomes (hub.takeUp id ticket).2 :=
  keepsHomes_modify hub id _

theorem Housed.of_keepsHomes (housed : hub.Housed) (keeps : hub.KeepsHomes after) :
    after.Housed := by
  intro id
  rw [keeps.sessions, keeps.transports, housed id]

theorem Housed.publish (housed : hub.Housed) (id : ConnectionId) (context : Ctx)
    (transport : Transport) : (hub.publish id context transport).Housed := by
  intro other
  by_cases same : other = id
  · simp [Hub.publish, same]
  · simp only [Hub.publish, Table.get?_set_of_ne _ _ same]
    exact housed other

theorem Housed.of_alters {id : ConnectionId} {change : Transport → Transport → Prop}
    (housed : hub.Housed) (alters : Alters id change hub after) : after.Housed := by
  intro other
  have sessions : after.sessions = hub.sessions := by rw [alters.only]
  rw [sessions, housed other]
  by_cases same : other = id
  · have own := alters.own
    rw [← same] at own
    generalize hub.transports.get? other = old, after.transports.get? other = new at own
    cases own <;> rfl
  · rw [alters.others other same]

end Hub

namespace Interleaving

variable {Env Ctx : Type} {provider : ContextProvider Env Ctx} {world : World Env Ctx}

/-- Transports come with the sessions that are published, and in no other way. -/
theorem Point.step_keepsHomes (provider : ContextProvider Env Ctx) (hub : Hub Env Ctx)
    (point : Point Ctx) :
    (∃ id context transport, point = .publishing id context transport) ∨
      hub.KeepsHomes (point.step provider hub).1 := by
  cases point with
  | publishing id context transport => exact .inl ⟨id, context, transport, rfl⟩
  | creating id transport =>
    right
    rw [step]
    split <;> exact .of_same rfl rfl
  | removing id rest =>
    right
    rw [step]
    split <;> exact .of_same rfl rfl
  | ending id context rest => cases context <;> exact .inr (.of_same rfl rfl)
  | looking id request =>
    right
    rw [step]
    split <;> exact .of_same rfl rfl
  | handling id request =>
    right
    rw [step]
    split
    · exact .of_same rfl rfl
    · rename_i context has
      exact ⟨rfl, (hub.keepsHomes_modify id _).sessions⟩
  | locking id errand =>
    right
    rw [step]
    split
    · rename_i after taken
      have keeps := hub.keepsHomes_acquire id
      rwa [taken] at keeps
    · rename_i ticket after queued
      have keeps := hub.keepsHomes_acquire id
      rwa [queued] at keeps
  | waiting id ticket errand =>
    right
    rw [step]
    split
    · rename_i after taken
      have keeps := hub.keepsHomes_takeUp id ticket
      rwa [taken] at keeps
    · rename_i after missed
      have keeps := hub.keepsHomes_takeUp id ticket
      rwa [missed] at keeps
  | holding id errand =>
    right
    cases errand with
    | closing rest => exact hub.keepsHomes_modify id _
    | asking request =>
      rw [step]
      split <;> exact .of_same rfl rfl
  | removed id rest => exact .inr (hub.keepsHomes_modify id _)
  | releasing id context rest => exact .inr (hub.keepsHomes_modify id _)
  | ended id rest => exact .inr (hub.keepsHomes_modify id _)
  | leaving id result => exact .inr (hub.keepsHomes_modify id _)
  | _ => exact .inr (.of_same rfl rfl)

/-- A step keeps everybody housed, and it takes or changes no transport. -/
theorem World.Orderly.step_housed (orderly : world.Orderly provider) (housed : world.hub.Housed)
    (action : Action Env) :
    let after := (world.step provider (Broadcasting.sparing world.hub.transports action)).hub
    after.Housed ∧ ∀ id transport, world.hub.transports.get? id = some transport →
      after.transports.get? id = some transport := by
  intro after
  cases action with
  | proceed task =>
    cases found : world.tasks[task]? with
    | none =>
      have same : after = world.hub := by
        simp only [after, Broadcasting.sparing, World.step, found]
      rw [same]
      exact ⟨housed, fun _ _ => id⟩
    | some point =>
      have same : after = (point.step provider world.hub).1 := by
        simp only [after, Broadcasting.sparing, World.step, found, World.moved]
      rw [same]
      rcases point.step_keepsHomes provider world.hub with ⟨own, context, transport, rfl⟩ | keeps
      · refine ⟨housed.publish own context transport, fun id has known => ?_⟩
        have differ : id ≠ own := by
          rintro rfl
          -- a transport without a session
          have unsettled : world.hub.sessions.get? id = none := orderly.unsettled found
          have home := housed id
          rw [unsettled, known] at home
          cases home
        exact (Table.get?_set_of_ne _ _ differ).trans known
      · exact ⟨housed.of_keepsHomes keeps, fun _ _ => by rw [keeps.transports]; exact id⟩
  | _ => exact ⟨housed, fun _ _ => id⟩

end Interleaving

/-! ## Broadcasts -/

namespace Broadcasting

variable {Env Ctx : Type} {provider : ContextProvider Env Ctx} {hub : Hub Env Ctx}

namespace Round

/-- Whom a broadcast sends to. -/
def recipients : Round → List ConnectionId
  | delivering _ sends => sends.map (·.1)
  | _ => []

/-- What has happened to the letter of a broadcast to a recipient. -/
def entries (number : Nat) (id : ConnectionId) : Round → Ledger
  | delivering frame sends =>
    (sends.get? id).elim [] (·.entries { sender := some number, recipient := id, frame })
  | _ => []

theorem entries_due (number : Nat) (id : ConnectionId) (frame : Bytes) (ids : List ConnectionId) :
    (delivering frame (ids.map fun id => (id, .due))).entries number id = [] := by
  induction ids with
  | nil => rfl
  | cons first rest ih =>
    rw [entries, List.map_cons, Table.get?]
    split
    · rfl
    · exact ih

theorem entries_address (number : Nat) (id : ConnectionId) (round : Round) :
    (round.address provider hub).entries number id = round.entries number id := by
  cases round with
  | announced line =>
    rw [address]
    split
    · rfl
    · exact entries_due ..
  | _ => rfl

/-- One step of a broadcast. -/
inductive Goes (provider : ContextProvider Env Ctx) (hub : Hub Env Ctx) (number : Nat) :
    Round → Round → Prop
  | address (round : Round) : Goes provider hub number round (round.address provider hub)
  | deliver (round : Round) (id : ConnectionId) :
      Goes provider hub number round (round.deliver hub number id).2.1

theorem recipients_deliver (round : Round) (number : Nat) (id : ConnectionId) :
    (round.deliver hub number id).2.1.recipients = round.recipients := by
  cases round with
  | delivering frame sends =>
    rw [deliver]
    split
    · rfl
    · exact Table.keys_modify ..
  | _ => rfl

theorem Goes.nodup {number : Nat} {round next : Round} (goes : Goes provider hub number round next)
    (distinct : hub.snapshot.Nodup) (before : round.recipients.Nodup) :
    next.recipients.Nodup := by
  cases goes with
  | deliver id => rwa [recipients_deliver]
  | address =>
    cases round with
    | announced line =>
      rw [Round.address]
      split
      · exact List.nodup_nil
      · simpa [recipients, Function.comp_def] using distinct
    | _ => exact before

theorem mem_deliver {number : Nat} {id : ConnectionId} {round : Round}
    {entry : Letter × Dealing} (found : entry ∈ (round.deliver hub number id).2.2) :
    entry.1.sender = some number ∧ entry.1.recipient = id := by
  cases round with
  | delivering frame sends =>
    rw [deliver] at found
    split at found
    · cases found
    · have same := Sending.fst_of_mem_step _ _ _ found
      rw [same]
      exact ⟨rfl, rfl⟩
  | _ => cases found

theorem deliver_carries (number : Nat) (id : ConnectionId) (round : Round) :
    hub.Carries id ((round.deliver hub number id).2.2.taken id)
      (round.deliver hub number id).1 := by
  cases round with
  | delivering frame sends =>
    rw [deliver]
    split
    · exact Hub.Carries.refl id hub
    · exact Sending.step_carries hub { sender := some number, recipient := id, frame } _
  | _ => exact Hub.Carries.refl id hub

/-- The state of a broadcast and what is written down of it go on together. -/
theorem entries_deliver (round : Round) (number : Nat) (id other : ConnectionId) :
    (round.deliver hub number id).2.1.entries number other =
      round.entries number other ++ (round.deliver hub number id).2.2.between number other := by
  cases round with
  | delivering frame sends =>
    have about (entry : Letter × Dealing) := @mem_deliver _ _ hub number id
      (delivering frame sends) entry
    cases found : sends.get? id with
    | none =>
      rw [deliver, found]
      exact (List.append_nil _).symm
    | some sending =>
      rw [deliver, found] at about ⊢
      simp only [entries, Table.get?_modify]
      -- what happens in the step is about this recipient only
      by_cases same : id = other
      · subst same
        rw [Ledger.between_eq_self about, if_pos rfl, found]
        exact Sending.step_entries ..
      · have none : Ledger.between _ number other = [] :=
          Ledger.between_eq_nil fun entry happened both => same ((about entry happened).2 ▸ both.2)
        rw [if_neg same, none, List.append_nil]
  | _ => exact (List.append_nil _).symm

end Round

/-! ## What one step does -/

/-- What the broadcasts tell of the sends of one of them to a recipient. -/
def told (rounds : List Round) (number : Nat) (id : ConnectionId) : Ledger :=
  rounds[number]?.elim [] (·.entries number id)

theorem told_announce (rounds : List Round) (line : String) (number : Nat) (id : ConnectionId) :
    told (rounds ++ [.announced line]) number id = told rounds number id := by
  rw [told, told, List.getElem?_append]
  split
  · rfl
  · rename_i beyond
    rw [List.getElem?_eq_none (Nat.le_of_not_lt beyond)]
    cases number - rounds.length <;> rfl

theorem told_set {rounds : List Round} {number : Nat} {round next : Round} {happened : Ledger}
    (found : rounds[number]? = some round)
    (goes : ∀ id, next.entries number id = round.entries number id ++ happened.between number id)
    (about : ∀ entry ∈ happened, entry.1.sender = some number) (other : Nat) (id : ConnectionId) :
    told (rounds.set number next) other id =
      told rounds other id ++ happened.between other id := by
  rw [told, told]
  by_cases same : number = other
  · subst same
    rw [List.getElem?_set_self (List.getElem?_eq_some_iff.1 found).1, found]
    exact goes id
  · have none : happened.between other id = [] := by
      refine Ledger.between_eq_nil fun entry present both => same ?_
      have sender := (about entry present).symm.trans both.1
      exact Option.some.inj sender
    rw [List.getElem?_set_ne same, none, List.append_nil]

namespace Traffic

variable {traffic next : Traffic Env Ctx}

/-- What a step does to the broadcasts. -/
theorem step_rounds (provider : ContextProvider Env Ctx) (traffic : Traffic Env Ctx)
    (action : Action Env) :
    (traffic.step provider action).rounds = traffic.rounds ∨
      (∃ line, (traffic.step provider action).rounds = traffic.rounds ++ [.announced line]) ∨
      ∃ number round next, traffic.rounds[number]? = some round ∧
        Round.Goes provider traffic.world.hub number round next ∧
        (traffic.step provider action).rounds = traffic.rounds.set number next := by
  cases action with
  | announce line => exact .inr (.inl ⟨line, rfl⟩)
  | address number =>
    cases found : traffic.rounds[number]? with
    | none => exact .inl (by rw [step, found])
    | some round =>
      exact .inr (.inr ⟨number, round, _, found, .address round, by rw [step_address found]⟩)
  | deliver number id =>
    cases found : traffic.rounds[number]? with
    | none => exact .inl (by rw [step, found])
    | some round =>
      exact .inr (.inr ⟨number, round, _, found, .deliver round id, by rw [step_deliver found]⟩)
  | change id transport =>
    left
    rw [step]
    split
    · rfl
    · split <;> rfl
  | _ => exact .inl rfl

theorem world_address (provider : ContextProvider Env Ctx) (traffic : Traffic Env Ctx)
    (number : Nat) : (traffic.step provider (.address number)).world = traffic.world := by
  cases found : traffic.rounds[number]? with
  | none => rw [step, found]
  | some round => rw [step_address found]

/-- A step that is no operation's: the transport of one connection may have taken something or may
have been changed at its other end, and the ledger and the broadcasts tell what was taken. -/
structure Carries (id : ConnectionId) (happened : Ledger) (traffic next : Traffic Env Ctx) :
    Prop where
  only : next = { traffic.noted next.world.hub happened with rounds := next.rounds }
  hub : traffic.world.hub.Grows id (happened.taken id) next.world.hub
  about : ∀ entry ∈ happened, entry.1.recipient = id
  told : ∀ number id, told next.rounds number id =
    told traffic.rounds number id ++ happened.between number id

theorem Carries.of_rounds (id : ConnectionId) {rounds : List Round}
    (same : ∀ number id, Broadcasting.told rounds number id =
      Broadcasting.told traffic.rounds number id) :
    Carries id [] traffic { traffic with rounds } where
  only := by simp [noted]
  hub := (Hub.Carries.refl id _).grows
  about := List.forall_mem_nil _
  told number id := (same number id).trans (List.append_nil _).symm

theorem Carries.refl (id : ConnectionId) (traffic : Traffic Env Ctx) :
    Carries id [] traffic traffic :=
  of_rounds id fun _ _ => rfl

theorem Carries.ledger {id : ConnectionId} {happened : Ledger}
    (carries : Carries id happened traffic next) : next.ledger = traffic.ledger ++ happened := by
  rw [carries.only]
  rfl

/-- Nothing changes in the world but transports. -/
theorem Carries.world {id : ConnectionId} {happened : Ledger}
    (carries : Carries id happened traffic next) :
    next.world = { traffic.world with
      hub := { traffic.world.hub with transports := next.world.hub.transports } } := by
  have world : next.world = { traffic.world with hub := next.world.hub } :=
    congrArg Traffic.world carries.only
  rwa [carries.hub.only] at world

/-- A step of a broadcast is about one recipient, whose transport takes what is told and does not
change otherwise. -/
theorem deliver_carries (provider : ContextProvider Env Ctx) (traffic : Traffic Env Ctx)
    (number : Nat) (id : ConnectionId) :
    ∃ happened, Carries id happened traffic (traffic.step provider (.deliver number id)) ∧
      traffic.world.hub.Carries id (happened.taken id)
        (traffic.step provider (.deliver number id)).world.hub := by
  cases found : traffic.rounds[number]? with
  | none =>
    rw [step, found]
    exact ⟨[], .refl id traffic, Hub.Carries.refl id traffic.world.hub⟩
  | some round =>
    have carries := @Round.deliver_carries _ _ traffic.world.hub number id round
    rw [step_deliver found]
    refine ⟨_, ⟨rfl, carries.grows, fun _ happened => (Round.mem_deliver happened).2,
      told_set found (round.entries_deliver number id) ?_⟩, carries⟩
    exact fun _ happened => (Round.mem_deliver happened).1

/-- Every step is a step of an operation, or it carries something or nothing. -/
theorem step_carries (provider : ContextProvider Env Ctx) (traffic : Traffic Env Ctx)
    (action : Action Env) :
    (∃ operation, action = .operation operation) ∨
      ∃ id happened, Carries id happened traffic (traffic.step provider action) := by
  cases action with
  | operation action => exact .inl ⟨action, rfl⟩
  | announce line => exact .inr ⟨0, [], .of_rounds 0 fun _ _ => told_announce ..⟩
  | address number =>
    right
    refine ⟨0, [], ?_⟩
    cases found : traffic.rounds[number]? with
    | none =>
      rw [step, found]
      exact .refl 0 traffic
    | some round =>
      have goes (id : ConnectionId) : (round.address provider traffic.world.hub).entries number id =
          round.entries number id ++ Ledger.between [] number id :=
        (round.entries_address number id).trans (List.append_nil _).symm
      rw [step_address found]
      exact .of_rounds 0 fun other id =>
        (told_set found goes (List.forall_mem_nil _) other id).trans (List.append_nil _)
  | deliver number id =>
    obtain ⟨happened, carries, -⟩ := traffic.deliver_carries provider number id
    exact .inr ⟨id, happened, carries⟩
  | other id frame sending =>
    right
    let letter : Letter := { sender := none, recipient := id, frame }
    have about (entry : Letter × Dealing) :=
      @sending.fst_of_mem_step _ _ traffic.world.hub letter entry
    refine ⟨id, _, rfl, (sending.step_carries traffic.world.hub letter).grows,
      fun entry happened => ?_, fun number other => ?_⟩
    · rw [about entry happened]
    · refine (List.append_nil _).symm.trans (congrArg _ (Eq.symm ?_))
      refine Ledger.between_eq_nil fun entry happened both => ?_
      rw [about entry happened] at both
      cases both.1
  | change id transport =>
    right
    refine ⟨id, [], ?_⟩
    rw [step]
    split
    · exact .refl id traffic
    · rename_i before found
      split
      · rename_i grown
        exact ⟨rfl, .of_set found grown, List.forall_mem_nil _,
          fun _ _ => (List.append_nil _).symm⟩
      · exact .refl id traffic

/-! ## What holds at any time -/

/-- Sessions and transports are in order, and the ledger and the broadcasts tell the same. -/
structure Kept (provider : ContextProvider Env Ctx) (traffic : Traffic Env Ctx) : Prop where
  orderly : traffic.world.Orderly provider
  housed : traffic.world.hub.Housed
  posted : ∀ number id, traffic.ledger.between number id = told traffic.rounds number id
  distinct : ∀ round ∈ traffic.rounds, round.recipients.Nodup

theorem initial_kept (env : Env) : (initial env : Traffic Env Ctx).Kept provider where
  orderly := Interleaving.World.initial_orderly env
  housed _ := rfl
  posted _ _ := rfl
  distinct := List.forall_mem_nil _

theorem Kept.step_distinct (kept : traffic.Kept provider) (action : Action Env) :
    ∀ round ∈ (traffic.step provider action).rounds, round.recipients.Nodup := by
  intro round among
  rcases traffic.step_rounds provider action with
    same | ⟨line, same⟩ | ⟨number, old, new, here, goes, same⟩ <;> rw [same] at among
  · exact kept.distinct round among
  · rcases List.mem_append.1 among with before | now
    · exact kept.distinct round before
    · rw [List.mem_singleton.1 now]
      exact List.nodup_nil
  · rcases List.mem_or_eq_of_mem_set among with before | rfl
    · exact kept.distinct round before
    · have ascending := kept.orderly.sound.snapshot_ascending
      exact goes.nodup (ascending.imp Nat.ne_of_lt) (kept.distinct old (List.mem_of_getElem? here))

theorem Kept.step (kept : traffic.Kept provider) (action : Action Env) :
    (traffic.step provider action).Kept provider := by
  rcases traffic.step_carries provider action with ⟨operation, rfl⟩ | ⟨id, happened, carries⟩
  · exact ⟨kept.orderly.step _, (kept.orderly.step_housed kept.housed operation).1, kept.posted,
      kept.distinct⟩
  · refine ⟨?_, kept.housed.of_alters carries.hub, fun number id => ?_,
      kept.step_distinct action⟩
    · -- for sessions and operations, this is a change of transports from outside
      rw [carries.world]
      exact kept.orderly.step (.outside _ _ 0)
    · rw [carries.told, ← kept.posted, carries.ledger]
      exact Ledger.between_append ..

theorem Kept.run (kept : traffic.Kept provider) (actions : List (Action Env)) :
    (traffic.run provider actions).Kept provider := by
  induction actions generalizing traffic with
  | nil => exact kept
  | cons action actions ih => exact ih (kept.step action)

/-- By the ledger, each transport has taken something since and nothing else. Of what it held and
what it took, a recorder holds all, and a channel what was not taken off at its other end. -/
def Grew (traffic next : Traffic Env Ctx) : Prop :=
  ∃ happened, next.ledger = traffic.ledger ++ happened ∧
    ∀ id transport, traffic.world.hub.transports.get? id = some transport →
      ∃ after, next.world.hub.transports.get? id = some after ∧
        transport.Grown (happened.taken id) after

theorem Grew.refl (traffic : Traffic Env Ctx) : Grew traffic traffic :=
  ⟨[], (List.append_nil _).symm, fun _ transport found => ⟨transport, found, .refl transport⟩⟩

theorem Grew.trans {last : Traffic Env Ctx} (first : Grew traffic next) (second : Grew next last) :
    Grew traffic last := by
  obtain ⟨happened, ledger, grown⟩ := first
  obtain ⟨later, ledger', grown'⟩ := second
  refine ⟨happened ++ later, by rw [ledger', ledger, List.append_assoc], fun id old found => ?_⟩
  obtain ⟨middle, found', before⟩ := grown id old found
  obtain ⟨new, found'', after⟩ := grown' id middle found'
  refine ⟨new, found'', ?_⟩
  rw [Ledger.taken_append]
  exact before.trans after

theorem Carries.grew {id : ConnectionId} {happened : Ledger}
    (carries : Carries id happened traffic next) : Grew traffic next := by
  refine ⟨happened, carries.ledger, fun other transport found => ?_⟩
  by_cases same : other = id
  · subst same
    have own := carries.hub.own
    rw [found] at own
    generalize next.world.hub.transports.get? other = after at own ⊢
    cases own with
    | some grown => exact ⟨_, rfl, grown⟩
  · have none : happened.taken other = [] :=
      Ledger.taken_eq_nil fun entry present => carries.about entry present ▸ Ne.symm same
    rw [none, carries.hub.others other same]
    exact ⟨transport, found, .refl transport⟩

theorem Kept.grew_step (kept : traffic.Kept provider) (action : Action Env) :
    Grew traffic (traffic.step provider action) := by
  rcases traffic.step_carries provider action with ⟨operation, rfl⟩ | ⟨id, happened, carries⟩
  · have keeps := (kept.orderly.step_housed kept.housed operation).2
    exact ⟨[], (List.append_nil _).symm, fun id transport found =>
      ⟨transport, keeps id transport found, .refl transport⟩⟩
  · exact carries.grew

theorem Kept.grew_run (kept : traffic.Kept provider) (actions : List (Action Env)) :
    Grew traffic (traffic.run provider actions) := by
  induction actions generalizing traffic with
  | nil => exact .refl traffic
  | cons action actions ih => exact (kept.grew_step action).trans (ih (kept.step action))

end Traffic

end Broadcasting

end Inspector
