import Inspector.Proofs.Session.Containment
import Inspector.Proofs.Session.Exchanges
import Inspector.Proofs.Session.Separation

/-!
# Sessions at rest that record

Between operations nobody is at the lock of a session if no operation has to wait, and none has to
wait where all transports record. `Stands` says where such a hub is: its next connection, those that
are published, and what was sent to whom. Each operation then leads on to one such hub from another
(`Stands.connect`, `Stands.disconnect`, `Stands.message`, `Stands.binary`, `Stands.startLine`).
-/

namespace Inspector.Hub

open Dispatching (start_binary)

variable {Env Ctx : Type} {provider : ContextProvider Env Ctx} {hub after : Hub Env Ctx}
  {id client next : ConnectionId} {published : List ConnectionId}
  {sent : ConnectionId → List Bytes}

/-- What was sent over a connection whose transport keeps it. -/
def framesOf (hub : Hub Env Ctx) (id : ConnectionId) : List Bytes :=
  ((hub.transports.get? id).bind Transport.frames?).getD []

/-- Every published session is free to take a request, and its transport records. -/
structure Stands (hub : Hub Env Ctx) (next : ConnectionId) (published : List ConnectionId)
    (sent : ConnectionId → List Bytes) : Prop where
  nextId : hub.nextId = next
  listed : hub.published = published
  frames : ∀ id, hub.framesOf id = sent id
  distinct : published.Nodup
  below : ∀ id ∈ published, id < next
  ready : ∀ id ∈ published, ∃ context, hub.reception id = .ready context
  records : ∀ id ∈ published, hub.transports.get? id = some (.recording { frames := sent id })

/-! ## Finding sessions -/

theorem Stands.isOpen_iff (stands : hub.Stands next published sent) :
    hub.isOpen id = true ↔ id ∈ published := by
  constructor
  · intro found
    exact stands.listed ▸ (Hub.isOpen_iff.1 found).1
  · intro found
    obtain ⟨context, ready⟩ := stands.ready id found
    exact (reception_eq_ready.1 ready).1

theorem Stands.isOpen_eq_false (stands : hub.Stands next published sent) (absent : id ∉ published) :
    hub.isOpen id = false :=
  eq_false_of_ne_true fun found => absent (stands.isOpen_iff.1 found)

theorem Stands.mem_snapshot (stands : hub.Stands next published sent) :
    id ∈ hub.snapshot ↔ id ∈ published := by
  rw [snapshot, List.mem_mergeSort, List.mem_filter, stands.listed, and_iff_left_iff_imp]
  exact stands.isOpen_iff.2

theorem Stands.nodup_snapshot (stands : hub.Stands next published sent) : hub.snapshot.Nodup :=
  (List.mergeSort_perm _ _).nodup_iff.2 ((stands.listed ▸ stands.distinct).filter _)

/-! ## Other sessions -/

theorem Untouched.reception_eq (untouched : Untouched client hub after) :
    after.reception client = hub.reception client := by
  have found : after.isOpen client = hub.isOpen client := by
    rw [Bool.eq_iff_iff, Hub.isOpen_iff, Hub.isOpen_iff, untouched.listed, state?, state?,
      untouched.session]
  rw [reception, reception, found, context?, context?, lock, lock, untouched.session]

/-- One session was taken up and is free again. -/
theorem Stands.of_within (stands : hub.Stands next published sent) (within : Within [id] hub after)
    (ready : ∃ context, after.reception id = .ready context) :
    after.Stands next published sent where
  nextId := within.nextId.trans stands.nextId
  listed := within.published.trans stands.listed
  frames other := by rw [framesOf, within.transports]; exact stands.frames other
  distinct := stands.distinct
  below := stands.below
  ready other found := by
    by_cases same : other = id
    · exact same ▸ ready
    · rw [within.reception_eq (mt List.mem_singleton.1 same)]
      exact stands.ready other found
  records other found := by rw [within.transports]; exact stands.records other found

/-- The environment can be changed at any time. -/
theorem Stands.setEnv (stands : hub.Stands next published sent) (env : Env) :
    { hub with env }.Stands next published sent :=
  ⟨stands.nextId, stands.listed, stands.frames, stands.distinct, stands.below, stands.ready,
    stands.records⟩

/-! ## Connecting and disconnecting -/

theorem stands_initial (env : Env) : ({ env } : Hub Env Ctx).Stands 1 [] fun _ => [] :=
  ⟨rfl, rfl, fun _ => rfl, .nil, nofun, nofun, nofun⟩

theorem Ready.reception_eq {context : Ctx} (ready : hub.Ready id context) :
    hub.reception id = .ready context := by
  obtain ⟨listed, session⟩ := ready
  rw [reception_eq_ready, Hub.isOpen_iff, state?, context?, lock, session]
  exact ⟨⟨listed, rfl⟩, rfl, rfl⟩

theorem untouched_publish (differ : id ≠ client) (context : Ctx) (transport : Transport) :
    Untouched client hub (hub.publish id context transport) where
  session := Table.get?_set_of_ne _ _ differ.symm
  listed := by
    rw [publish, List.mem_append, List.mem_singleton, or_iff_left differ.symm]
  next := rfl

theorem Stands.connect (stands : hub.Stands next published sent) {context : Ctx}
    (made : provider.create hub.nextId = .ok context) :
    (hub.connect provider .newRecording).2.Stands (next + 1) (published ++ [next])
      (Function.update sent next []) := by
  obtain ⟨rfl, rfl, frames, distinct, below, ready, records⟩ := stands
  have fresh : hub.nextId ∉ hub.published := fun found => Nat.lt_irrefl _ (below _ found)
  let counted : Hub Env Ctx := { hub with nextId := hub.nextId + 1 }
  have connected : (hub.connect provider .newRecording).2 =
      counted.publish hub.nextId context .newRecording := by
    simp only [Hub.connect, allocate, made, counted]
  have carried (id : ConnectionId) :
      (counted.publish hub.nextId context .newRecording).transports.get? id =
        if id = hub.nextId then some .newRecording else hub.transports.get? id :=
    Table.get?_set ..
  have among {P : ConnectionId → Prop} (old : ∀ id ∈ hub.published, id ≠ hub.nextId → P id)
      (new : P hub.nextId) : ∀ id ∈ hub.published ++ [hub.nextId], P id := by
    intro id found
    rcases List.mem_append.1 found with earlier | latest
    · exact old id earlier fun same => fresh (same ▸ earlier)
    · exact List.mem_singleton.1 latest ▸ new
  rw [connected]
  refine ⟨rfl, rfl, fun id => ?_, distinct.append (List.nodup_singleton _) ?_,
    among (fun id found _ => Nat.lt_succ_of_lt (below id found)) (Nat.lt_succ_self _),
    among (fun id found differ => ?_) ⟨context, ?_⟩,
    among (fun id found differ => ?_) ?_⟩
  · rw [framesOf, carried, Function.update_apply]
    split
    · rfl
    · exact frames id
  · exact List.disjoint_singleton.2 fresh
  · rw [(untouched_publish differ.symm context .newRecording).reception_eq]
    exact ready id found
  · exact (connected ▸ ready_connect .newRecording made).reception_eq
  · rw [carried, if_neg differ, Function.update_of_ne differ]
    exact records id found
  · rw [carried, if_pos rfl, Function.update_self]
    rfl

/-- Something about the environment that is the same after any context was ended. -/
def Lasting {α : Type} (provider : ContextProvider Env Ctx) (look : Env → α) : Prop :=
  ∀ env context, look (provider.teardown env context).1 = look env

/-- Closing a session changes no other part of the hub. -/
theorem disconnect_rest {α : Type} {look : Env → α} (lasting : Lasting provider look)
    (hub : Hub Env Ctx) (id : ConnectionId) :
    let after := (hub.disconnect provider id).2
    after.published = hub.published.filter (· ≠ id) ∧ after.transports = hub.transports ∧
      look after.env = look hub.env := by
  intro after
  have finish (closing : Hub Env Ctx) :
      (closing.finishClose provider id).published = closing.published ∧
        (closing.finishClose provider id).transports = closing.transports ∧
        look (closing.finishClose provider id).env = look closing.env := by
    rw [finishClose]
    cases closing.context? id with
    | none => exact ⟨rfl, rfl, rfl⟩
    | some context => exact ⟨rfl, rfl, lasting closing.env context⟩
  rcases hub.disconnect_cases id with ⟨absent, same⟩ | ⟨closing, begun, same | same⟩
  · refine ⟨?_, congrArg Hub.transports same, congrArg (look ·.env) same⟩
    rw [congrArg Hub.published same]
    refine (List.filter_eq_self.2 fun other found => ?_).symm
    rw [decide_eq_true_eq]
    rintro rfl
    exact absent found
  · simp only [after, same, begun]
    exact ⟨rfl, rfl, rfl⟩
  · simp only [after, same]
    obtain ⟨listed, transports, env⟩ := finish closing
    rw [begun] at listed transports env ⊢
    exact ⟨listed, transports, env⟩

theorem Stands.disconnect {α : Type} {look : Env → α} (lasting : Lasting provider look)
    (stands : hub.Stands next published sent) (id : ConnectionId) :
    let after := (hub.disconnect provider id).2
    after.Stands next (published.filter (· ≠ id)) sent ∧ look after.env = look hub.env := by
  intro after
  obtain ⟨rfl, rfl, frames, distinct, below, ready, records⟩ := stands
  obtain ⟨listed, transports, env⟩ := disconnect_rest lasting hub id
  have kept {other : ConnectionId} (found : other ∈ hub.published.filter (· ≠ id)) :
      other ∈ hub.published ∧ id ≠ other := by
    obtain ⟨found, differ⟩ := List.mem_filter.1 found
    exact ⟨found, (of_decide_eq_true differ).symm⟩
  refine ⟨⟨(absent_disconnect hub id).2, listed, fun other => ?_, distinct.filter _,
    fun other found => below other (kept found).1, fun other found => ?_, fun other found => ?_⟩,
    env⟩
  · exact (congrArg (fun table => ((Table.get? table other).bind Transport.frames?).getD [])
      transports).trans (frames other)
  · have same : after.reception other = hub.reception other :=
      (untouched_disconnect (kept found).2).reception_eq
    exact same ▸ ready other (kept found).1
  · exact (congrArg (Table.get? · other) transports).trans (records other (kept found).1)

/-- Sessions with nobody at their locks are closed one after the other. -/
theorem disconnectEach_cons {rest : List ConnectionId}
    (free : id ∈ hub.published → hub.lock id = .free) :
    hub.disconnectEach provider (id :: rest) =
      (hub.disconnect provider id).2.disconnectEach provider rest := by
  rw [disconnectEach, Hub.disconnect, beginClose]
  by_cases found : hub.published.contains id = true
  · let closing := (hub.unpublish id).advance id .closing
    have lock : closing.lock id = .free := by
      have same : (hub.unpublish id).lock id = hub.lock id := rfl
      rw [← free (List.contains_iff_mem.1 found), ← same]
      simp only [closing, lock_eq, stage?_advance, ↓reduceIte, Stage.lockOf_setState]
    have taken : ((closing.lock id).acquire closing.nextTicket).1 = true := by rw [lock]; rfl
    rw [if_pos found]
    dsimp only
    rw [acquire_of_taken _ _ taken]
  · rw [if_neg found]

theorem Stands.disconnectEach {α : Type} {look : Env → α} (lasting : Lasting provider look)
    (stands : hub.Stands next published sent) (ids : List ConnectionId) :
    let after := (hub.disconnectEach provider ids).2
    after.Stands next (published.filter (· ∉ ids)) sent ∧ look after.env = look hub.env := by
  induction ids generalizing hub published with
  | nil => simpa [Hub.disconnectEach] using stands
  | cons id rest ih =>
    have free (found : id ∈ hub.published) : hub.lock id = .free := by
      obtain ⟨context, ready⟩ := stands.ready id (stands.listed ▸ found)
      exact (reception_eq_ready.1 ready).2.2
    obtain ⟨closed, env⟩ := stands.disconnect lasting id
    obtain ⟨last, env'⟩ := ih closed
    rw [disconnectEach_cons free]
    refine ⟨?_, env'.trans env⟩
    rw [List.filter_filter] at last
    simpa [Bool.and_comm] using last

/-- At the end no session can be found. -/
theorem Stands.disconnectAll {α : Type} {look : Env → α} (lasting : Lasting provider look)
    (stands : hub.Stands next published sent) :
    let after := (hub.start provider .disconnectAll).2
    after.Stands next [] sent ∧ look after.env = look hub.env := by
  obtain ⟨last, env⟩ := stands.disconnectEach lasting hub.published
  have none : published.filter (· ∉ hub.published) = [] := by
    rw [stands.listed]
    exact List.filter_eq_nil_iff.2 (by simp)
  rw [none] at last
  exact ⟨last, env⟩

/-! ## Requests -/

theorem Stands.message_of_absent (provider : ContextProvider Env Ctx)
    (stands : hub.Stands next published sent) (absent : id ∉ published) (raw : Bytes) :
    hub.start provider (.message id raw) = (.finished (.replied (.error (.notFound id))), hub) :=
  start_message_of_closed (stands.isOpen_eq_false absent) raw

/-- A request is handled at once, and nothing is sent. -/
theorem Stands.message (provider : ContextProvider Env Ctx)
    (stands : hub.Stands next published sent) (found : id ∈ published) (raw : Bytes) :
    ∃ context after, hub.start provider (.message id raw) =
        (.finished (.replied (.ok (provider.reply raw (provider.handle hub.env context raw).1))),
          after) ∧
      after.Stands next published sent ∧
      after.env = (provider.handle hub.env context raw).2.2 := by
  obtain ⟨context, ready⟩ := stands.ready id found
  obtain ⟨isOpen, has, free⟩ := reception_eq_ready.1 ready
  obtain ⟨after, replied, handles, lock⟩ := start_message_of_ready provider isOpen has free raw
  have again : after.reception id = .ready (provider.handle hub.env context raw).2.1 :=
    reception_eq_ready.2 ⟨(handles.isOpen_eq id).trans isOpen, handles.context, lock⟩
  refine ⟨context, after, ?_, stands.of_within handles.toWithin ⟨_, again⟩, handles.env⟩
  rw [replied, ContextProvider.reply_eq_respond]

/-! ## Sending -/

/-- Whatever is sent over connections that record is kept at once. -/
theorem Stands.send (stands : hub.Stands next published sent) (found : id ∈ published)
    (frame : Bytes) :
    (hub.send id frame).1 = some (.ok ()) ∧ (hub.send id frame).2.env = hub.env ∧
      (hub.send id frame).2.Stands next published
        (Function.update sent id (sent id ++ [frame])) := by
  let kept : Transport := .recording { frames := sent id ++ [frame] }
  have sends : hub.send id frame =
      (some (.ok ()), { hub with transports := hub.transports.set id kept }) := by
    rw [Hub.send, sendBy, stands.records id found]
    rfl
  rw [sends]
  refine ⟨rfl, rfl, stands.nextId, stands.listed, fun other => ?_, stands.distinct, stands.below,
    stands.ready, fun other listed => ?_⟩
  · rw [framesOf, Table.get?_set, Function.update_apply]
    split
    · rfl
    · exact stands.frames other
  · rw [Table.get?_set, Function.update_apply]
    split
    · rfl
    · exact stands.records other listed

/-- Sending a frame to several connections keeps it once for each. -/
theorem Stands.deliverEach (stands : hub.Stands next published sent) (frame : Bytes)
    {ids : List ConnectionId} (distinct : ids.Nodup) (among : ∀ id ∈ ids, id ∈ published) :
    (∀ delivery ∈ (hub.deliverEach frame ids).1, delivery.result = some (.ok ())) ∧
      (hub.deliverEach frame ids).2.env = hub.env ∧
      (hub.deliverEach frame ids).2.Stands next published
        fun id => if id ∈ ids then sent id ++ [frame] else sent id := by
  induction ids generalizing hub sent with
  | nil => exact ⟨nofun, rfl, by simpa [Hub.deliverEach] using stands⟩
  | cons id rest ih =>
    obtain ⟨absent, distinct⟩ := List.nodup_cons.1 distinct
    obtain ⟨found, among⟩ := List.forall_mem_cons.1 among
    obtain ⟨result, env, next⟩ := stands.send found frame
    obtain ⟨results, env', last⟩ := ih next distinct among
    rw [Hub.deliverEach]
    refine ⟨List.forall_mem_cons.2 ⟨result, results⟩, env'.trans env, ?_⟩
    convert last using 2 with other
    by_cases same : other = id
    · subst same
      simp [absent]
    · simp [same]

/-- A line that makes a message is kept once for each session that can be found. -/
theorem Stands.startLine (stands : hub.Stands next published sent) {line : String} {message : Bytes}
    (encoded : provider.encodeLine line = .ok message) :
    ∃ deliveries after, hub.startLine provider line =
        (some (Gzip.compress message, deliveries), after) ∧
      (report? deliveries).isSome = true ∧ after.env = hub.env ∧
      after.Stands next published
        fun id => if id ∈ published then sent id ++ [Gzip.compress message] else sent id := by
  obtain ⟨results, env, last⟩ := stands.deliverEach (Gzip.compress message) stands.nodup_snapshot
    fun id => stands.mem_snapshot.1
  refine ⟨_, _, by rw [Hub.startLine, encoded], ?_, env, ?_⟩
  · rw [report?, if_pos]
    · rfl
    · exact List.all_eq_true.2 fun delivery found => by rw [results delivery found]; rfl
  · simpa only [stands.mem_snapshot] using last

/-! ## Lines that are read -/

/-- Lines are sent on one after the other, as long as no send is held back. -/
theorem forward_cons {stats later : LogStream.LineStats} {line : String}
    (read : hub.forward provider stats [some line] =
      (.finished (.forwarded (some later)), after)) (rest : List (Option String)) :
    hub.forward provider stats (some line :: rest) = after.forward provider later rest := by
  rw [forward] at read ⊢
  split
  · rename_i wanted
    rw [if_pos wanted] at read
    dsimp only at read ⊢
    split <;> rename_i started <;> rw [started] at read
    · cases read
      rfl
    · dsimp only at read ⊢
      split <;> rename_i reported <;> rw [reported] at read
      · cases read
        rfl
      · cases read
  · rename_i unwanted
    rw [if_neg unwanted] at read
    cases read
    rfl

/-- A line that is not wanted is dropped. -/
theorem forward_of_unwanted (unwanted : provider.streamLogs hub.env = false)
    (stats : LogStream.LineStats) (line : String) :
    hub.forward provider stats [some line] =
      (.finished (.forwarded (some { stats with discarded := stats.discarded + 1 })), hub) := by
  rw [forward, if_neg (by rw [unwanted]; nofun), forward]

/-- A line that makes no message is lost, though it is counted. -/
theorem forward_of_error (wanted : provider.streamLogs hub.env = true) {line : String}
    {reason : String} (refused : provider.encodeLine line = .error reason)
    (stats : LogStream.LineStats) :
    hub.forward provider stats [some line] =
      (.finished (.forwarded (some { stats with forwarded := stats.forwarded + 1 })), hub) := by
  rw [forward, if_pos wanted, Hub.startLine, refused]
  dsimp only
  rw [forward]

/-- A line that is wanted and makes a message is kept once for each session that can be found. -/
theorem Stands.forward (stands : hub.Stands next published sent)
    (wanted : provider.streamLogs hub.env = true) {line : String} {message : Bytes}
    (encoded : provider.encodeLine line = .ok message) (stats : LogStream.LineStats) :
    ∃ after, hub.forward provider stats [some line] =
        (.finished (.forwarded (some { stats with forwarded := stats.forwarded + 1 })), after) ∧
      after.env = hub.env ∧ after.Stands next published
        fun id => if id ∈ published then sent id ++ [Gzip.compress message] else sent id := by
  obtain ⟨deliveries, after, started, reported, env, last⟩ := stands.startLine encoded
  obtain ⟨report, reported⟩ := Option.isSome_iff_exists.1 reported
  refine ⟨after, ?_, env, last⟩
  rw [Hub.forward, if_pos wanted, started]
  dsimp only
  rw [reported]
  dsimp only
  rw [Hub.forward]

/-! ## Replies that are sent -/

theorem Stands.binary_of_absent (provider : ContextProvider Env Ctx)
    (stands : hub.Stands next published sent) (absent : id ∉ published) (raw : Bytes) :
    (hub.start provider (.binary id raw)).2 = hub := by
  rw [start_binary, stands.message_of_absent provider absent]
  rfl

theorem sendReply_of_isOpen (isOpen : hub.isOpen id = true) (reply : Bytes) :
    (hub.sendReply id (.ok reply)).2 = (hub.send id (Gzip.compress reply)).2 := by
  rw [sendReply]
  dsimp only
  rw [if_pos isOpen]
  split <;> rename_i sent <;> rw [sent]

/-- A request is handled at once, and its reply is kept. -/
theorem Stands.binary (provider : ContextProvider Env Ctx)
    (stands : hub.Stands next published sent) (found : id ∈ published) (raw : Bytes) :
    let after := (hub.start provider (.binary id raw)).2
    ∃ context, after.env = (provider.handle hub.env context raw).2.2 ∧
      after.Stands next published (Function.update sent id (sent id ++
        [Gzip.compress (provider.reply raw (provider.handle hub.env context raw).1)])) := by
  intro after
  obtain ⟨context, handled, replied, stands, env⟩ := stands.message provider found raw
  obtain ⟨-, env', last⟩ := stands.send found
    (Gzip.compress (provider.reply raw (provider.handle hub.env context raw).1))
  have sends : after = (handled.send id
      (Gzip.compress (provider.reply raw (provider.handle hub.env context raw).1))).2 := by
    simp only [after, start_binary, replied]
    exact sendReply_of_isOpen (stands.isOpen_iff.2 found) _
  rw [sends]
  exact ⟨context, env'.trans env, last⟩

end Inspector.Hub
