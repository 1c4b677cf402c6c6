import Mathlib.Logic.Function.Basic
import Inspector.Proofs.Session.Lifecycle

/-!
# Failures of contexts

A context can fail on a request, and it can crash. The hub turns both into replies, and what else
they do is no more than what any request does: they may change the context that was asked and the
environment that all contexts share.

* `Hub.Within`: nothing has changed beside the environment and the inside of one session.
* `Desk` is the plain account of requests: it knows the environment and how each session receives a
  request, and nothing of locks, states and lists of sessions.
* The hub gives the replies that the plain account gives (`Hub.serve_desk`), from any state that
  comes about by any interleaving and for requests to any sessions (`context_failures_contained`).
-/

namespace Inspector

variable {Env Ctx : Type}

/-! ## The plain account of requests -/

/-- What a request is answered with. -/
def ContextProvider.respond (provider : ContextProvider Env Ctx) (raw : Bytes) : Handled → Bytes
  | .replied reply => reply
  | .failed message => provider.encodeFailure raw message
  | .crashed (.text message) => provider.encodeFailure raw ("handler panicked: " ++ message)
  | .crashed .silent => provider.encodeFailure raw "handler panicked: non-string panic payload"

theorem ContextProvider.reply_eq_respond (provider : ContextProvider Env Ctx) (raw : Bytes)
    (handled : Handled) : provider.reply raw handled = provider.respond raw handled := by
  match handled with
  | .replied reply => rfl
  | .failed message => rfl
  | .crashed (.text message) => rfl
  | .crashed .silent => rfl

/-- How a connection receives a request. -/
inductive Reception (Ctx : Type) where
  /-- There is no open session. -/
  | absent
  /-- Somebody is at the lock of the session. -/
  | busy
  | ready (context : Ctx)

/-- What requests depend on and what they can change. -/
structure Desk (Env Ctx : Type) where
  env : Env
  reception : ConnectionId → Reception Ctx

namespace Desk

variable (provider : ContextProvider Env Ctx)

/-- One request, with its result if it comes to one at once. -/
def ask (desk : Desk Env Ctx) (id : ConnectionId) (raw : Bytes) :
    Option (Except SessionError Bytes) × Desk Env Ctx :=
  match desk.reception id with
  | .absent => (some (.error (.notFound id)), desk)
  | .busy => (none, desk)
  | .ready context =>
    let (handled, context, env) := provider.handle desk.env context raw
    (some (.ok (provider.respond raw handled)),
      { env, reception := Function.update desk.reception id (.ready context) })

/-- Requests one after the other. -/
def serve (desk : Desk Env Ctx) :
    List (ConnectionId × Bytes) → List (Option (Except SessionError Bytes)) × Desk Env Ctx
  | [] => ([], desk)
  | (id, raw) :: rest =>
    let (result, desk) := desk.ask provider id raw
    let (results, desk) := desk.serve rest
    (result :: results, desk)

end Desk

/-- The result of a request that has come to one. -/
def Progress.result? : Progress → Option (Except SessionError Bytes)
  | .finished (.replied result) => some result
  | _ => none

namespace Hub

/-- How a connection receives a request. -/
def reception (hub : Hub Env Ctx) (id : ConnectionId) : Reception Ctx :=
  if hub.isOpen id then
    match hub.context? id, hub.lock id with
    | some context, .free => .ready context
    | _, _ => .busy
  else .absent

/-- What requests depend on. -/
def desk (hub : Hub Env Ctx) : Desk Env Ctx where
  env := hub.env
  reception := hub.reception

/-- Starts requests one after the other. -/
def serve (provider : ContextProvider Env Ctx) (hub : Hub Env Ctx) :
    List (ConnectionId × Bytes) → List (Option (Except SessionError Bytes)) × Hub Env Ctx
  | [] => ([], hub)
  | (id, raw) :: rest =>
    let (progress, hub) := hub.start provider (.message id raw)
    let (results, hub) := hub.serve provider rest
    (progress.result? :: results, hub)

/-! ## The inside of sessions -/

/-- Nothing has changed beside the environment, the number of tickets, and the contexts and locks of
some sessions. -/
structure Within (ids : List ConnectionId) (hub after : Hub Env Ctx) : Prop where
  published : after.published = hub.published
  nextId : after.nextId = hub.nextId
  transports : after.transports = hub.transports
  others : ∀ other, other ∉ ids → after.sessions.get? other = hub.sessions.get? other
  state : ∀ id, after.state? id = hub.state? id

variable {provider : ContextProvider Env Ctx} {hub after last : Hub Env Ctx}
  {id other : ConnectionId} {ids more : List ConnectionId} {context : Ctx}

theorem Within.refl (ids : List ConnectionId) (hub : Hub Env Ctx) : Within ids hub hub :=
  ⟨rfl, rfl, rfl, fun _ _ => rfl, fun _ => rfl⟩

theorem Within.trans (first : Within ids hub after) (second : Within ids after last) :
    Within ids hub last where
  published := second.published.trans first.published
  nextId := second.nextId.trans first.nextId
  transports := second.transports.trans first.transports
  others other differ := (second.others other differ).trans (first.others other differ)
  state id := (second.state id).trans (first.state id)

theorem Within.mono (within : Within ids hub after) (among : ids ⊆ more) : Within more hub after :=
  { within with
    others := fun other absent => within.others other fun found => absent (among found) }

theorem Within.isOpen_eq (within : Within ids hub after) (id : ConnectionId) :
    after.isOpen id = hub.isOpen id := by
  rw [isOpen, isOpen, within.published, within.state]

theorem Within.context?_eq (within : Within ids hub after) (absent : other ∉ ids) :
    after.context? other = hub.context? other := by
  rw [context?, context?, within.others other absent]

theorem Within.reception_eq (within : Within ids hub after) (absent : other ∉ ids) :
    after.reception other = hub.reception other := by
  have lock : after.lock other = hub.lock other := by
    rw [Hub.lock, Hub.lock, within.others other absent]
  rw [reception, reception, within.isOpen_eq, within.context?_eq absent, lock]

theorem within_setLock (lock : Lock) : Within [id] hub (hub.setLock id lock) where
  published := rfl
  nextId := rfl
  transports := rfl
  others other differ := by
    rw [setLock, Table.get?_modify, if_neg (Ne.symm (List.ne_of_not_mem_cons differ))]
  state _ := state?_setLock lock

theorem within_setContext (env : Env) (context : Option Ctx) :
    Within [id] hub ({ hub with env }.setContext id context) where
  published := rfl
  nextId := rfl
  transports := rfl
  others other differ := by
    rw [setContext, Table.get?_modify, if_neg (Ne.symm (List.ne_of_not_mem_cons differ))]
  state other := by
    rw [state?, state?, setContext, Table.get?_modify]
    split
    · rw [Option.map_map]
      rfl
    · rfl

theorem lock_setLock (known : (hub.sessions.get? id).isSome = true) (lock : Lock) :
    (hub.setLock id lock).lock id = lock := by
  obtain ⟨session, found⟩ := Option.isSome_iff_exists.1 known
  rw [Hub.lock, setLock, Table.get?_modify, if_pos rfl, found]
  rfl

theorem context?_setContext (known : (hub.sessions.get? id).isSome = true) (context : Option Ctx) :
    (hub.setContext id context).context? id = context := by
  obtain ⟨session, found⟩ := Option.isSome_iff_exists.1 known
  rw [context?, setContext, Table.get?_modify, if_pos rfl, found]
  rfl

theorem known_of_context? (has : hub.context? id = some context) :
    (hub.sessions.get? id).isSome = true := by
  obtain ⟨session, found, -⟩ := Option.bind_eq_some_iff.1 has
  rw [found]
  rfl

/-! ## How requests are received -/

/-- Whoever finds a session finds a context in it. -/
def Attended (hub : Hub Env Ctx) : Prop :=
  ∀ id, hub.isOpen id = true → (hub.context? id).isSome = true

theorem reception_eq_absent : hub.reception id = .absent ↔ hub.isOpen id = false := by
  rw [reception]
  split
  · rename_i found
    constructor
    · intro absent
      split at absent <;> cases absent
    · intro closed
      rw [found] at closed
      cases closed
  · rename_i closed
    exact ⟨fun _ => eq_false_of_ne_true closed, fun _ => rfl⟩

theorem reception_eq_ready : hub.reception id = .ready context ↔
    hub.isOpen id = true ∧ hub.context? id = some context ∧ hub.lock id = .free := by
  constructor
  · intro ready
    rw [reception] at ready
    split at ready
    · rename_i found
      split at ready
      · rename_i has free
        cases ready
        exact ⟨found, has, free⟩
      · cases ready
    · cases ready
  · rintro ⟨found, has, free⟩
    rw [reception, if_pos found, has, free]

theorem reception_eq_busy (attended : hub.Attended) :
    hub.reception id = .busy ↔ hub.isOpen id = true ∧ hub.lock id ≠ .free := by
  constructor
  · intro busy
    have found : hub.isOpen id = true := by
      cases closed : hub.isOpen id with
      | true => rfl
      | false =>
        rw [reception_eq_absent.2 closed] at busy
        cases busy
    obtain ⟨context, has⟩ := Option.isSome_iff_exists.1 (attended id found)
    refine ⟨found, fun free => ?_⟩
    rw [reception_eq_ready.2 ⟨found, has, free⟩] at busy
    cases busy
  · rintro ⟨found, taken⟩
    obtain ⟨context, has⟩ := Option.isSome_iff_exists.1 (attended id found)
    rw [reception, if_pos found, has]
    cases lock : hub.lock id with
    | free => exact absurd lock taken
    | held waiting => rfl
    | handed next waiting => rfl

/-! ## One request -/

/-- A context has handled a request. -/
structure Handles (provider : ContextProvider Env Ctx) (id : ConnectionId) (context : Ctx)
    (raw : Bytes) (hub after : Hub Env Ctx) : Prop extends Within [id] hub after where
  env : after.env = (provider.handle hub.env context raw).2.2
  context : after.context? id = some (provider.handle hub.env context raw).2.1

/-- Something was done at the lock of a session, and no handler has run. -/
structure Waits (id : ConnectionId) (hub after : Hub Env Ctx) : Prop extends
    Within [id] hub after where
  env : after.env = hub.env
  context : ∀ other, after.context? other = hub.context? other

theorem Waits.trans (first : Waits id hub after) (second : Waits id after last) :
    Waits id hub last where
  toWithin := first.toWithin.trans second.toWithin
  env := second.env.trans first.env
  context other := (second.context other).trans (first.context other)

theorem Handles.of_waits {raw : Bytes} (waits : Waits id hub after)
    (handles : Handles provider id context raw after last) :
    Handles provider id context raw hub last where
  toWithin := waits.toWithin.trans handles.toWithin
  env := by rw [handles.env, waits.env]
  context := by rw [handles.context, waits.env]

theorem waits_setLock (lock : Lock) : Waits id hub (hub.setLock id lock) where
  toWithin := within_setLock lock
  env := rfl
  context _ := context?_setLock lock

theorem waits_acquire (hub : Hub Env Ctx) (id : ConnectionId) :
    Waits id hub (hub.acquire id).2 := by
  have ticket : Waits id hub { hub with nextTicket := hub.nextTicket + 1 } :=
    ⟨⟨rfl, rfl, rfl, fun _ _ => rfl, fun _ => rfl⟩, rfl, fun _ => rfl⟩
  exact ticket.trans (waits_setLock _)

/-- Under the lock of its session a request is handled, however that ends, and the lock is given
back. -/
theorem messageAfter_handles (provider : ContextProvider Env Ctx)
    (has : hub.context? id = some context) (live : hub.state? id = some .live) (raw : Bytes) :
    ∃ after, (hub.admitRequest id).2.messageAfter provider (hub.admitRequest id).1 id raw =
        (.finished (.replied (.ok (provider.respond raw (provider.handle hub.env context raw).1))),
          after) ∧
      Handles provider id context raw hub after ∧ after.lock id = (hub.lock id).release := by
  have able : hub.canHandle id = true := by simp [canHandle, has, live]
  let called : Hub Env Ctx := { hub with env := (provider.handle hub.env context raw).2.2 }
  have known : (called.sessions.get? id).isSome = true := known_of_context? has
  let left := called.setContext id (some (provider.handle hub.env context raw).2.1)
  have kept : left.context? id = some (provider.handle hub.env context raw).2.1 :=
    context?_setContext known _
  have lock : left.lock id = hub.lock id := by
    rw [Hub.lock, Hub.lock]
    simp only [left, called, setContext, Table.get?_modify, ↓reduceIte, Option.map_map]
    rfl
  refine ⟨left.unlock id, ?_, ⟨(within_setContext _ _).trans (within_setLock _), rfl, ?_⟩, ?_⟩
  · simp only [admitRequest, able, ↓reduceIte, messageAfter, runMessage, handle, has,
      ContextProvider.reply_eq_respond, left, called]
  · exact (context?_setLock _).trans kept
  · rw [unlock, lock_setLock (known_of_context? kept), lock]

/-- A session that was closed while its lock was waited for handles nothing. -/
theorem messageAfter_refuses (unable : hub.context? id = none ∨ hub.state? id ≠ some .live)
    (raw : Bytes) :
    (hub.admitRequest id).2.messageAfter provider (hub.admitRequest id).1 id raw =
      (.finished (.replied (.error (.notFound id))), hub.unlock id) := by
  have refused : hub.canHandle id = false := by
    rcases unable with gone | closing
    · simp [canHandle, gone]
    · simp [canHandle, closing]
  simp only [admitRequest, refused, Bool.false_eq_true, ↓reduceIte, messageAfter]

/-- Where there is no open session, nothing happens. -/
theorem start_message_of_closed (closed : hub.isOpen id = false) (raw : Bytes) :
    hub.start provider (.message id raw) =
      (.finished (.replied (.error (.notFound id))), hub) := by
  simp only [start, enter, closed, Bool.false_eq_true, ↓reduceIte, messageAfter]

theorem start_message_of_busy (provider : ContextProvider Env Ctx) (found : hub.isOpen id = true)
    (taken : hub.lock id ≠ .free) (raw : Bytes) :
    ∃ after, hub.start provider (.message id raw) =
        (.waits (.message id hub.nextTicket raw), after) ∧
      Waits id hub after ∧ after.lock id ≠ .free := by
  have queued : ((hub.lock id).acquire hub.nextTicket).1 = false :=
    eq_false_of_ne_true fun free => taken (Lock.eq_free_of_acquire free)
  have waits := waits_acquire hub id
  rw [acquire_of_queued _ _ queued] at waits
  refine ⟨_, ?_, waits, ?_⟩
  · simp only [start, enter, found, ↓reduceIte, acquire_of_queued _ _ queued, messageAfter]
  · have known : (hub.sessions.get? id).isSome = true := by
      obtain ⟨session, known, -⟩ := Option.map_eq_some_iff.1 (isOpen_iff.1 found).2
      rw [known]
      rfl
    let counted : Hub Env Ctx := { hub with nextTicket := hub.nextTicket + 1 }
    have lock : (counted.setLock id ((hub.lock id).acquire hub.nextTicket).2).lock id = _ :=
      lock_setLock known _
    rw [lock]
    intro free
    have queue := (Lock.acquire_queued queued).2
    rw [free] at queue
    simp at queue

theorem start_message_of_ready (provider : ContextProvider Env Ctx) (found : hub.isOpen id = true)
    (has : hub.context? id = some context) (free : hub.lock id = .free) (raw : Bytes) :
    ∃ after, hub.start provider (.message id raw) =
        (.finished (.replied (.ok (provider.respond raw (provider.handle hub.env context raw).1))),
          after) ∧
      Handles provider id context raw hub after ∧ after.lock id = .free := by
  have taken : ((hub.lock id).acquire hub.nextTicket).1 = true := by rw [free]; rfl
  have waits := waits_acquire hub id
  rw [acquire_of_taken _ _ taken] at waits
  let counted : Hub Env Ctx := { hub with nextTicket := hub.nextTicket + 1 }
  let entered := counted.setLock id ((hub.lock id).acquire hub.nextTicket).2
  have known : (counted.sessions.get? id).isSome = true := known_of_context? has
  have held : entered.lock id = .held [] := by
    rw [lock_setLock known, free]
    rfl
  obtain ⟨after, replied, handles, lock⟩ := messageAfter_handles provider
    ((waits.context id).trans has) ((waits.state id).trans (isOpen_iff.1 found).2) raw
  refine ⟨after, ?_, .of_waits waits handles, ?_⟩
  · simp only [start, enter, found, ↓reduceIte, acquire_of_taken _ _ taken]
    exact replied
  · rw [lock, held]
    rfl

/-- A request that has waited and has the lock now is handled as if it came now. -/
theorem resume_message_of_live {ticket : Ticket} {waiting : List Ticket}
    (handed : hub.lock id = .handed ticket waiting) (has : hub.context? id = some context)
    (live : hub.state? id = some .live) (raw : Bytes) :
    ∃ after, hub.resume provider (.message id ticket raw) =
        (.finished (.replied (.ok (provider.respond raw (provider.handle hub.env context raw).1))),
          after) ∧ Handles provider id context raw hub after := by
  have taken : ((hub.lock id).takeUp ticket).1 = true := by rw [handed, Lock.takeUp, if_pos rfl]
  have waits : Waits id hub (hub.setLock id ((hub.lock id).takeUp ticket).2) := waits_setLock _
  obtain ⟨after, replied, handles, -⟩ := messageAfter_handles provider
    ((waits.context id).trans has) ((waits.state id).trans live) raw
  refine ⟨after, ?_, .of_waits waits handles⟩
  simp only [resume, takeUp_eq, taken]
  exact replied

theorem resume_message_of_gone {ticket : Ticket} {waiting : List Ticket}
    (handed : hub.lock id = .handed ticket waiting)
    (gone : hub.context? id = none ∨ hub.state? id ≠ some .live) (raw : Bytes) :
    ∃ after, hub.resume provider (.message id ticket raw) =
        (.finished (.replied (.error (.notFound id))), after) ∧ Waits id hub after := by
  have taken : ((hub.lock id).takeUp ticket).1 = true := by rw [handed, Lock.takeUp, if_pos rfl]
  let entered := hub.setLock id ((hub.lock id).takeUp ticket).2
  have waits : Waits id hub entered := waits_setLock _
  rw [← waits.context, ← waits.state] at gone
  refine ⟨entered.unlock id, ?_, waits.trans (waits_setLock _)⟩
  simp only [resume, takeUp_eq, taken]
  exact messageAfter_refuses gone raw

/-- A request ends in an error at once where there is no open session, and nowhere else. -/
theorem Attended.start_error_iff (attended : hub.Attended) {raw : Bytes} {error : SessionError} :
    (hub.start provider (.message id raw)).1 = .finished (.replied (.error error)) ↔
      hub.isOpen id = false ∧ error = .notFound id := by
  cases found : hub.isOpen id with
  | false =>
    rw [start_message_of_closed found]
    simp [eq_comm]
  | true =>
    obtain ⟨context, has⟩ := Option.isSome_iff_exists.1 (attended id found)
    by_cases free : hub.lock id = .free
    · obtain ⟨after, replied, -⟩ := start_message_of_ready provider found has free raw
      rw [replied]
      simp
    · obtain ⟨after, waiting, -⟩ := start_message_of_busy provider found free raw
      rw [waiting]
      simp

/-! ## Requests one after the other -/

theorem Attended.of_within (attended : hub.Attended) (within : Within [id] hub after)
    (has : (hub.context? id).isSome = true → (after.context? id).isSome = true) :
    after.Attended := by
  intro other found
  rw [within.isOpen_eq] at found
  by_cases same : other = id
  · exact same ▸ has (same ▸ attended other found)
  · rw [within.context?_eq (by simpa using same)]
    exact attended other found

theorem desk_eq_update (within : Within [id] hub after) :
    after.desk = { env := after.env, reception :=
      Function.update hub.reception id (after.reception id) } := by
  rw [desk]
  congr 1
  funext other
  by_cases same : other = id
  · rw [same, Function.update_self]
  · rw [Function.update_of_ne same, within.reception_eq (by simpa using same)]

/-- What a request does to the hub. -/
structure Asks (provider : ContextProvider Env Ctx) (id : ConnectionId) (raw : Bytes)
    (hub : Hub Env Ctx) (run : Run Env Ctx) : Prop extends Within [id] hub run.2 where
  attended : run.2.Attended
  desk : (run.1.result?, run.2.desk) = hub.desk.ask provider id raw
  /-- A session that somebody is at is left to them. -/
  busy : ∀ other, hub.reception other = .busy →
    run.2.reception other = .busy ∧ run.2.context? other = hub.context? other

theorem Attended.asks (attended : hub.Attended) (provider : ContextProvider Env Ctx)
    (id : ConnectionId) (raw : Bytes) :
    Asks provider id raw hub (hub.start provider (.message id raw)) := by
  cases received : hub.reception id with
  | absent =>
    rw [start_message_of_closed (reception_eq_absent.1 received)]
    refine ⟨.refl _ hub, attended, ?_, fun _ busy => ⟨busy, rfl⟩⟩
    simp only [Desk.ask, Hub.desk, received, Progress.result?]
  | busy =>
    obtain ⟨found, taken⟩ := (reception_eq_busy attended).1 received
    obtain ⟨after, waiting, waits, still⟩ := start_message_of_busy provider found taken raw
    rw [waiting]
    have here : after.Attended :=
      attended.of_within waits.toWithin fun has => waits.context id ▸ has
    have busy : after.reception id = .busy :=
      (reception_eq_busy here).2 ⟨(waits.isOpen_eq id).trans found, still⟩
    refine ⟨waits.toWithin, here, ?_, fun other before => ⟨?_, waits.context other⟩⟩
    · rw [desk_eq_update waits.toWithin, busy, ← received, Function.update_eq_self, waits.env]
      simp only [Desk.ask, Hub.desk, received, Progress.result?]
    · by_cases same : other = id
      · exact same ▸ busy
      · rw [waits.reception_eq (by simpa using same), before]
  | ready context =>
    obtain ⟨found, has, free⟩ := reception_eq_ready.1 received
    obtain ⟨after, replied, handles, idle⟩ := start_message_of_ready provider found has free raw
    rw [replied]
    have ready : after.reception id = .ready (provider.handle hub.env context raw).2.1 :=
      reception_eq_ready.2 ⟨(handles.isOpen_eq id).trans found, handles.context, idle⟩
    refine ⟨handles.toWithin, ?_, ?_, ?_⟩
    · exact attended.of_within handles.toWithin fun _ => by rw [handles.context]; rfl
    · rw [desk_eq_update handles.toWithin, ready, handles.env]
      simp only [Desk.ask, Hub.desk, received, Progress.result?]
    · intro other busy
      have apart : other ∉ [id] := by
        rw [List.mem_singleton]
        rintro rfl
        rw [received] at busy
        cases busy
      exact ⟨(handles.reception_eq apart).trans busy, handles.context?_eq apart⟩

/-- Requests one after the other get the results of the plain account, and leave behind what it
leaves behind. -/
theorem Attended.serve (attended : hub.Attended) (provider : ContextProvider Env Ctx)
    (requests : List (ConnectionId × Bytes)) :
    let served := hub.serve provider requests
    (served.1, served.2.desk) = hub.desk.serve provider requests ∧
      Within (requests.map (·.1)) hub served.2 ∧ served.2.Attended ∧
      ∀ id, hub.reception id = .busy → served.2.context? id = hub.context? id := by
  induction requests generalizing hub with
  | nil => exact ⟨rfl, .refl _ hub, attended, fun _ _ => rfl⟩
  | cons request rest ih =>
    obtain ⟨id, raw⟩ := request
    have asks := attended.asks provider id raw
    obtain ⟨desk, within, here, contexts⟩ := ih asks.attended
    refine ⟨?_, ?_, here, fun other busy => ?_⟩
    · rw [serve, Desk.serve, ← asks.desk]
      dsimp only
      rw [← desk]
    · exact (asks.toWithin.mono (by simp)).trans (within.mono (List.subset_cons_self _ _))
    · obtain ⟨still, same⟩ := asks.busy other busy
      exact (contexts other still).trans same

end Hub

/-! ## Any state of the sessions -/

namespace Interleaving

variable {provider : ContextProvider Env Ctx} {world : World Env Ctx}

theorem World.Sound.attended (sound : world.Sound) : world.hub.Attended := by
  intro id found
  exact (sound.live_of_published (Hub.isOpen_iff.1 found).1).2

/-- When all operations are over, nobody is at a lock. -/
theorem World.Sound.lock_eq_free (sound : world.Sound)
    (rest : ∀ point ∈ world.tasks, point = .finished) (id : ConnectionId) :
    world.hub.lock id = .free := by
  rw [Hub.lock_eq]
  exact (sound id).1.lock_of_rest (sound id).2 (rolesAt_of_rest rest id)

end Interleaving

open Interleaving in
/-- The hub is in any state that comes about by any interleaving, and requests to any sessions
follow one after the other.

* Their results, what becomes of the contexts and the environment are those of the plain account: a
  request that is received gets the bytes of its handler, or the failure as the provider encodes it,
  with the text of the error or of the crash; the next one meets the context as the last one left
  it.
* The list of sessions, their numbers, states and transports are as they were; so are the sessions
  that were not asked, and the contexts of those at whose locks somebody was.
* A request to an open session never ends in an error: it is replied to at once, or it waits for
  those at the lock and is replied to when it has it, if the session is still live. When all
  operations are over, nobody is at a lock.
* The error is the same in all other cases, that there is no session, and it is independent of what
  the provider does: no handler has run. -/
theorem context_failures_contained (provider : ContextProvider Env Ctx) (env : Env)
    (actions : List (Action Env)) (requests : List (ConnectionId × Bytes)) :
    let world := (World.initial env).run provider actions
    let hub := world.hub
    let last := (hub.serve provider requests).2
    ((hub.serve provider requests).1, last.desk) = hub.desk.serve provider requests ∧
    (last.published = hub.published ∧ last.nextId = hub.nextId ∧
      last.transports = hub.transports ∧ (∀ id, last.state? id = hub.state? id) ∧
      (∀ id, (∀ raw, (id, raw) ∉ requests) → last.sessions.get? id = hub.sessions.get? id) ∧
      ∀ id, hub.reception id = .busy → last.context? id = hub.context? id) ∧
    (∀ id raw, hub.isOpen id = true →
      (last.lock id = .free → ∃ reply after,
        last.start provider (.message id raw) = (.finished (.replied (.ok reply)), after)) ∧
      (last.lock id ≠ .free → ∃ after, last.start provider (.message id raw) =
        (.waits (.message id last.nextTicket raw), after)) ∧
      ((∀ point ∈ world.tasks, point = .finished) → hub.lock id = .free)) ∧
    ((∀ id raw error,
        (last.start provider (.message id raw)).1 = .finished (.replied (.error error)) ↔
          hub.isOpen id = false ∧ error = .notFound id) ∧
      ∀ id raw, hub.isOpen id = false → ∀ any : ContextProvider Env Ctx,
        last.start any (.message id raw) =
          (.finished (.replied (.error (.notFound id))), last)) ∧
    ∀ id ticket waiting raw, last.lock id = .handed ticket waiting →
      (∀ context, last.context? id = some context → last.state? id = some .live → ∃ after,
        last.resume provider (.message id ticket raw) =
          (.finished (.replied
            (.ok (provider.respond raw (provider.handle last.env context raw).1))), after) ∧
        Hub.Handles provider id context raw last after) ∧
      (last.context? id = none ∨ last.state? id ≠ some .live →
        ∀ any : ContextProvider Env Ctx, ∃ after, last.resume any (.message id ticket raw) =
          (.finished (.replied (.error (.notFound id))), after) ∧ Hub.Waits id last after) := by
  intro world hub last
  have sound : world.Sound := (World.initial_sound env).run actions
  obtain ⟨desk, within, attended, busy⟩ := sound.attended.serve provider requests
  have opened (id : ConnectionId) : last.isOpen id = hub.isOpen id := within.isOpen_eq id
  refine ⟨desk, ⟨within.published, within.nextId, within.transports, within.state,
    fun id never => within.others id ?_, busy⟩,
    fun id raw found => ⟨fun free => ?_, fun taken => ?_, fun rest => sound.lock_eq_free rest id⟩,
    ⟨fun id raw error => attended.start_error_iff.trans (by rw [opened]),
      fun id raw closed any => Hub.start_message_of_closed ((opened id).trans closed) raw⟩,
    fun id ticket waiting raw handed =>
      ⟨fun context has live => Hub.resume_message_of_live handed has live raw,
        fun gone any => Hub.resume_message_of_gone handed gone raw⟩⟩
  · intro asked
    obtain ⟨⟨_, raw⟩, present, rfl⟩ := List.mem_map.1 asked
    exact never raw present
  · rw [← opened] at found
    obtain ⟨context, has⟩ := Option.isSome_iff_exists.1 (attended id found)
    obtain ⟨after, replied, -⟩ := Hub.start_message_of_ready provider found has free raw
    exact ⟨_, after, replied⟩
  · rw [← opened] at found
    obtain ⟨after, waiting, -⟩ := Hub.start_message_of_busy provider found taken raw
    exact ⟨after, waiting⟩

end Inspector
