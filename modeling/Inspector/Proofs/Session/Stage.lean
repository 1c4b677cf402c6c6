import Inspector.Session.Hub

/-!
# Sessions at a glance

What there is to a session beside the content of its context: its state, whether the context is
still there, and its lock. Each single step of the hub has one lemma that says what it does to the
session of any connection, its own or another.
-/

namespace Inspector

/-! ## Locks -/

namespace Lock

/-- Whether somebody has the lock. -/
def isHeld : Lock → Bool
  | held _ => true
  | _ => false

/-- Those who wait, and before them the one to whom the lock was handed. -/
def queue : Lock → List Ticket
  | free => []
  | held waiting => waiting
  | handed next waiting => next :: waiting

@[simp] theorem isHeld_free : isHeld free = false := rfl

@[simp] theorem isHeld_held (waiting : List Ticket) : isHeld (held waiting) = true := rfl

@[simp] theorem isHeld_handed (next : Ticket) (waiting : List Ticket) :
    isHeld (handed next waiting) = false := rfl

@[simp] theorem queue_free : queue free = [] := rfl

@[simp] theorem queue_held (waiting : List Ticket) : queue (held waiting) = waiting := rfl

@[simp] theorem queue_handed (next : Ticket) (waiting : List Ticket) :
    queue (handed next waiting) = next :: waiting := rfl

@[simp] theorem acquire_free (ticket : Ticket) : free.acquire ticket = (true, held []) := rfl

theorem eq_free_of_acquire {lock : Lock} {ticket : Ticket}
    (taken : (lock.acquire ticket).1 = true) : lock = free := by
  cases lock with
  | free => rfl
  | held waiting => cases taken
  | handed next waiting => cases taken

theorem acquire_queued {lock : Lock} {ticket : Ticket} (taken : (lock.acquire ticket).1 = false) :
    (lock.acquire ticket).2.isHeld = lock.isHeld ∧
      (lock.acquire ticket).2.queue = lock.queue ++ [ticket] := by
  cases lock with
  | free => cases taken
  | held waiting => exact ⟨rfl, rfl⟩
  | handed next waiting => exact ⟨rfl, rfl⟩

@[simp] theorem takeUp_handed (ticket : Ticket) (waiting : List Ticket) :
    (handed ticket waiting).takeUp ticket = (true, held waiting) :=
  if_pos rfl

theorem eq_handed_of_takeUp {lock : Lock} {ticket : Ticket}
    (taken : (lock.takeUp ticket).1 = true) : ∃ waiting, lock = handed ticket waiting := by
  cases lock with
  | free => cases taken
  | held waiting => cases taken
  | handed next waiting =>
    rw [takeUp] at taken
    split at taken
    · rename_i same
      exact ⟨waiting, by rw [same]⟩
    · cases taken

theorem takeUp_missed {lock : Lock} {ticket : Ticket} (taken : (lock.takeUp ticket).1 = false) :
    (lock.takeUp ticket).2 = lock := by
  cases lock with
  | free => rfl
  | held waiting => rfl
  | handed next waiting =>
    rw [takeUp] at taken ⊢
    split at taken
    · cases taken
    · rename_i differ
      rw [if_neg differ]

@[simp] theorem isHeld_release_held (waiting : List Ticket) :
    (held waiting).release.isHeld = false := by
  cases waiting <;> rfl

@[simp] theorem queue_release (lock : Lock) : lock.release.queue = lock.queue := by
  match lock with
  | free => rfl
  | held [] => rfl
  | held (_ :: _) => rfl
  | handed _ _ => rfl

end Lock

/-! ## Stages -/

/-- A session without its context. -/
structure Stage where
  state : SessionState
  /-- Whether the session still has its context. -/
  present : Bool
  lock : Lock
deriving DecidableEq

/-- The session at a glance. -/
def Session.stage {Ctx : Type} (session : Session Ctx) : Stage :=
  { state := session.state, present := session.context.isSome, lock := session.lock }

namespace Stage

/-- One if there is a session, else zero. -/
def existing (session : Option Stage) : Nat :=
  session.isSome.toNat

/-- One if there is a session in a state, else zero. -/
def inState (state : SessionState) (session : Option Stage) : Nat :=
  if session.map (·.state) = some state then 1 else 0

/-- One if there is a session that still has its context, else zero. -/
def withContext (session : Option Stage) : Nat :=
  (session.any (·.present)).toNat

/-- The lock of a session; where there is none, nobody has it. -/
def lockOf (session : Option Stage) : Lock :=
  (session.map (·.lock)).getD .free

variable {session : Option Stage} {state : SessionState}

theorem withContext_le_one : withContext session ≤ 1 :=
  Bool.toNat_le _

theorem inState_pos : 0 < inState state session ↔
    ∃ present lock, session = some { state, present, lock } := by
  rw [inState]
  constructor
  · intro positive
    split at positive
    · rename_i known
      obtain ⟨⟨_, present, lock⟩, rfl, rfl⟩ := Option.map_eq_some_iff.1 known
      exact ⟨present, lock, rfl⟩
    · omega
  · rintro ⟨present, lock, rfl⟩
    simp

@[simp] theorem existing_none : existing none = 0 := rfl

@[simp] theorem existing_some (stage : Stage) : existing (some stage) = 1 := rfl

@[simp] theorem inState_none : inState state none = 0 := rfl

@[simp] theorem inState_some (stage : Stage) :
    inState state (some stage) = if stage.state = state then 1 else 0 := by
  simp [inState]

@[simp] theorem withContext_none : withContext none = 0 := rfl

@[simp] theorem withContext_some (stage : Stage) :
    withContext (some stage) = stage.present.toNat := rfl

@[simp] theorem lockOf_none : lockOf none = .free := rfl

@[simp] theorem lockOf_some (stage : Stage) : lockOf (some stage) = stage.lock := rfl

theorem existing_eq_zero : existing session = 0 ↔ session = none := by
  cases session <;> simp

theorem existing_pos : 0 < existing session ↔ ∃ stage, session = some stage := by
  cases session <;> simp

theorem inState_sum_le_one (session : Option Stage) :
    inState .live session + inState .closing session + inState .closed session ≤ 1 := by
  rcases session with _ | ⟨state, present, lock⟩
  · exact Nat.zero_le _
  · cases state <;> simp

/-! What changing a part of a session leaves as it was -/

@[simp] theorem map_setLock_lockOf : session.map ({ · with lock := lockOf session }) = session := by
  cases session <;> rfl

@[simp] theorem lockOf_setPresent (present : Bool) :
    lockOf (session.map ({ · with present })) = lockOf session := by
  cases session <;> rfl

@[simp] theorem lockOf_setState (next : Stage → SessionState) :
    lockOf (session.map fun stage => { stage with state := next stage }) = lockOf session := by
  cases session <;> rfl

end Stage

/-! ## The sessions of the hub -/

namespace Hub

variable {Env Ctx : Type} (hub : Hub Env Ctx) (own id : ConnectionId)

/-- The session of a connection at a glance. -/
def stage? : Option Stage := (hub.sessions.get? id).map Session.stage

theorem state?_eq : hub.state? id = (hub.stage? id).map (·.state) := by
  simp [state?, stage?, Function.comp_def, Session.stage]

theorem lock_eq : hub.lock id = Stage.lockOf (hub.stage? id) := by
  simp [lock, stage?, Stage.lockOf, Function.comp_def, Session.stage]

theorem isSome_context? : (hub.context? id).isSome = (hub.stage? id).any (·.present) := by
  rw [context?, stage?]
  cases hub.sessions.get? id <;> rfl

theorem state?_eq_some_live : hub.state? id = some .live ↔
    0 < Stage.inState .live (hub.stage? id) := by
  rw [state?_eq, Stage.inState]
  split <;> simp_all

variable {hub id}

theorem isOpen_iff : hub.isOpen id = true ↔ id ∈ hub.published ∧ hub.state? id = some .live := by
  simp [isOpen]

theorem live_of_isOpen (found : hub.isOpen id = true) :
    0 < Stage.inState .live (hub.stage? id) :=
  (state?_eq_some_live hub id).1 (isOpen_iff.1 found).2

theorem of_canHandle (able : hub.canHandle id = true) :
    0 < Stage.withContext (hub.stage? id) ∧ 0 < Stage.inState .live (hub.stage? id) := by
  simp only [canHandle, isSome_context?, Bool.and_eq_true, beq_iff_eq] at able
  refine ⟨?_, (state?_eq_some_live hub id).1 able.2⟩
  rw [Stage.withContext, able.1]
  decide

theorem isSome_context?_of_pos (present : 0 < Stage.withContext (hub.stage? id)) :
    (hub.context? id).isSome = true := by
  rw [isSome_context?, ← Bool.toNat_eq_one]
  exact Nat.le_antisymm Stage.withContext_le_one present

theorem map_setPresent_stage? {context : Ctx} (has : hub.context? id = some context) :
    (hub.stage? id).map ({ · with present := true }) = hub.stage? id := by
  rw [context?, Option.bind_eq_some_iff] at has
  obtain ⟨session, found, has⟩ := has
  simp [stage?, found, Session.stage, has]

variable (hub id)

@[simp] theorem stage?_setEnv (env : Env) : { hub with env }.stage? id = hub.stage? id := rfl

@[simp] theorem stage?_setNextId (next : ConnectionId) :
    { hub with nextId := next }.stage? id = hub.stage? id := rfl

@[simp] theorem stage?_setNextTicket (next : Ticket) :
    { hub with nextTicket := next }.stage? id = hub.stage? id := rfl

@[simp] theorem stage?_publish (context : Ctx) (transport : Transport) :
    (hub.publish own context transport).stage? id =
      if own = id then some { state := .live, present := true, lock := .free }
      else hub.stage? id := by
  rw [stage?, publish]
  split
  · rename_i same
    simp [same, Session.stage]
  · rename_i differ
    simp [Table.get?_set_of_ne _ _ (Ne.symm differ), stage?]

@[simp] theorem stage?_unpublish : (hub.unpublish own).stage? id = hub.stage? id := rfl

@[simp] theorem stage?_advance (next : SessionState) :
    (hub.advance own next).stage? id =
      if own = id then
        (hub.stage? id).map fun stage => { stage with state := stage.state.advance next }
      else hub.stage? id := by
  rw [stage?, advance, Table.get?_modify]
  split <;> simp [stage?, Function.comp_def, Session.stage]

@[simp] theorem stage?_setLock (lock : Lock) :
    (hub.setLock own lock).stage? id =
      if own = id then (hub.stage? id).map ({ · with lock }) else hub.stage? id := by
  rw [stage?, setLock, Table.get?_modify]
  split <;> simp [stage?, Function.comp_def, Session.stage]

@[simp] theorem stage?_setContext (context : Option Ctx) :
    (hub.setContext own context).stage? id =
      if own = id then (hub.stage? id).map ({ · with present := context.isSome })
      else hub.stage? id := by
  rw [stage?, setContext, Table.get?_modify]
  split <;> simp [stage?, Function.comp_def, Session.stage]

theorem acquire_of_taken (taken : ((hub.lock own).acquire hub.nextTicket).1 = true) :
    hub.acquire own = (none, { hub with nextTicket := hub.nextTicket + 1 }.setLock own
      ((hub.lock own).acquire hub.nextTicket).2) := by
  have same : { hub with nextTicket := hub.nextTicket + 1 }.lock own = hub.lock own := rfl
  simp [acquire, ticket, same, taken]

theorem acquire_of_queued (queued : ((hub.lock own).acquire hub.nextTicket).1 = false) :
    hub.acquire own = (some hub.nextTicket,
      { hub with nextTicket := hub.nextTicket + 1 }.setLock own
        ((hub.lock own).acquire hub.nextTicket).2) := by
  have same : { hub with nextTicket := hub.nextTicket + 1 }.lock own = hub.lock own := rfl
  simp [acquire, ticket, same, queued]

theorem takeUp_eq (ticket : Ticket) :
    hub.takeUp own ticket =
      (((hub.lock own).takeUp ticket).1, hub.setLock own ((hub.lock own).takeUp ticket).2) := rfl

/-! What a step on a session leaves as it was -/

section

variable {hub own id}

theorem context?_setLock (lock : Lock) : (hub.setLock own lock).context? id = hub.context? id := by
  rw [context?, context?, setLock, Table.get?_modify]
  split
  · cases hub.sessions.get? id <;> rfl
  · rfl

theorem state?_setLock (lock : Lock) : (hub.setLock own lock).state? id = hub.state? id := by
  rw [state?, state?, setLock, Table.get?_modify]
  split
  · cases hub.sessions.get? id <;> rfl
  · rfl

end

@[simp] theorem nextId_publish (context : Ctx) (transport : Transport) :
    (hub.publish own context transport).nextId = hub.nextId := rfl

@[simp] theorem nextId_unpublish : (hub.unpublish own).nextId = hub.nextId := rfl

@[simp] theorem nextId_advance (next : SessionState) :
    (hub.advance own next).nextId = hub.nextId := rfl

@[simp] theorem nextId_setLock (lock : Lock) : (hub.setLock own lock).nextId = hub.nextId := rfl

@[simp] theorem nextId_setContext (context : Option Ctx) :
    (hub.setContext own context).nextId = hub.nextId := rfl

@[simp] theorem published_publish (context : Ctx) (transport : Transport) :
    (hub.publish own context transport).published = hub.published ++ [own] := rfl

@[simp] theorem published_advance (next : SessionState) :
    (hub.advance own next).published = hub.published := rfl

@[simp] theorem published_setLock (lock : Lock) :
    (hub.setLock own lock).published = hub.published := rfl

@[simp] theorem published_setContext (context : Option Ctx) :
    (hub.setContext own context).published = hub.published := rfl

@[simp] theorem count_unpublish : (hub.unpublish own).published.count id =
    if own = id then 0 else hub.published.count id := by
  rw [unpublish]
  split
  · rename_i same
    simp [same, List.count_eq_zero]
  · rename_i differ
    rw [List.count_filter]
    simpa using Ne.symm differ

end Hub

end Inspector
