import Inspector.Proofs.Session.Stage
import Inspector.Session.Operation

/-!
# One session beside the others

What the hub does for one connection leaves the sessions of all others as they are
(`Hub.Untouched`). What it does for a connection whose session is ready, with nobody at its lock,
it does at once, and the session is ready again or gone.
-/

namespace Inspector.Hub

variable {Env Ctx : Type} {provider : ContextProvider Env Ctx}
  {hub after last : Hub Env Ctx} {id client : ConnectionId}

/-! ## Other sessions -/

/-- A connection's session is as it was, and is found if it was found. -/
structure Untouched (client : ConnectionId) (hub after : Hub Env Ctx) : Prop where
  session : after.sessions.get? client = hub.sessions.get? client
  listed : client ∈ after.published ↔ client ∈ hub.published
  next : after.nextId = hub.nextId

theorem Untouched.refl (client : ConnectionId) (hub : Hub Env Ctx) : Untouched client hub hub :=
  ⟨rfl, .rfl, rfl⟩

theorem Untouched.trans (first : Untouched client hub after)
    (second : Untouched client after last) : Untouched client hub last :=
  ⟨second.session.trans first.session, second.listed.trans first.listed,
    second.next.trans first.next⟩

theorem untouched_modify (differ : id ≠ client) (f : Session Ctx → Session Ctx) :
    Untouched client hub { hub with sessions := hub.sessions.modify id f } where
  session := by rw [Table.get?_modify, if_neg differ]
  listed := .rfl
  next := rfl

theorem untouched_setLock (differ : id ≠ client) (lock : Lock) :
    Untouched client hub (hub.setLock id lock) :=
  untouched_modify differ _

theorem untouched_acquire (differ : id ≠ client) : Untouched client hub (hub.acquire id).2 := by
  have ticket : Untouched client hub { hub with nextTicket := hub.nextTicket + 1 } :=
    ⟨rfl, .rfl, rfl⟩
  exact ticket.trans (untouched_setLock differ _)

theorem untouched_finishClose (differ : id ≠ client) :
    Untouched client hub (hub.finishClose provider id) := by
  have released : Untouched client hub ((hub.setContext id none).unlock id) :=
    (untouched_modify differ _).trans (untouched_setLock differ _)
  have ended (env : Env) : Untouched client hub { (hub.setContext id none).unlock id with env } :=
    ⟨released.session, released.listed, released.next⟩
  rw [finishClose]
  cases hub.context? id with
  | none => exact released.trans (untouched_modify differ _)
  | some context => exact (ended _).trans (untouched_modify differ _)

/-- A session that is found is taken out and starts to close, and closes as soon as its lock is
free. -/
theorem disconnect_cases (hub : Hub Env Ctx) (id : ConnectionId) :
    (id ∉ hub.published ∧ (hub.disconnect provider id).2 = hub) ∨
      ∃ closing, closing = (((hub.unpublish id).advance id .closing).acquire id).2 ∧
        ((hub.disconnect provider id).2 = closing ∨
          (hub.disconnect provider id).2 = closing.finishClose provider id) := by
  by_cases found : hub.published.contains id = true
  · right
    refine ⟨_, rfl, ?_⟩
    rw [disconnect, beginClose, if_pos found]
    dsimp only
    split <;> rename_i taken <;> rw [taken]
    · exact .inl rfl
    · exact .inr rfl
  · left
    rw [disconnect, beginClose, if_neg found]
    exact ⟨fun listed => found (List.contains_iff_mem.2 listed), rfl⟩

theorem untouched_disconnect (differ : id ≠ client) :
    Untouched client hub (hub.disconnect provider id).2 := by
  have out : Untouched client hub (hub.unpublish id) := by
    refine ⟨rfl, ?_, rfl⟩
    simp only [unpublish, List.mem_filter, decide_eq_true_eq, and_iff_left_iff_imp]
    exact fun _ => differ.symm
  rcases hub.disconnect_cases id with ⟨-, same⟩ | ⟨closing, rfl, same | same⟩ <;> rw [same]
  · exact .refl client hub
  · exact (out.trans (untouched_modify differ _)).trans (untouched_acquire differ)
  · exact ((out.trans (untouched_modify differ _)).trans (untouched_acquire differ)).trans
      (untouched_finishClose differ)

theorem untouched_handle (differ : id ≠ client) (raw : Bytes) :
    Untouched client hub (hub.handle provider id raw).2 := by
  rw [handle]
  split
  · exact untouched_setLock differ _
  · have handled (env : Env) (context : Option Ctx) :
        Untouched client hub ({ hub with env }.setContext id context) :=
      ⟨(untouched_modify differ _).session, .rfl, rfl⟩
    exact (handled _ _).trans (untouched_setLock differ _)

theorem untouched_message (differ : id ≠ client) (raw : Bytes) :
    Untouched client hub (hub.start provider (.message id raw)).2 := by
  have asked : Untouched client hub (hub.acquire id).2 := untouched_acquire differ
  simp only [start, enter]
  split
  · split
    · rename_i ticket after queued
      rw [queued] at asked
      exact asked
    · rename_i after taken
      rw [taken] at asked
      rw [admitRequest]
      split
      · exact asked.trans (untouched_handle differ raw)
      · exact asked.trans (untouched_setLock differ _)
  · exact .refl client hub

/-! ## The shared environment -/

/-- What an operation may do to the environment. -/
inductive Serves (provider : ContextProvider Env Ctx) (env : Env) : Env → Prop
  | nothing : Serves provider env env
  | handling (context : Ctx) (raw : Bytes) :
      Serves provider env (provider.handle env context raw).2.2
  | ending (context : Ctx) : Serves provider env (provider.teardown env context).1

theorem serves_message (hub : Hub Env Ctx) (id : ConnectionId) (raw : Bytes) :
    Serves provider hub.env (hub.start provider (.message id raw)).2.env := by
  have same : (hub.acquire id).2.env = hub.env := rfl
  simp only [start, enter]
  split
  · split
    · rename_i ticket after queued
      rw [queued] at same
      rw [messageAfter, same]
      exact .nothing
    · rename_i after taken
      rw [taken] at same
      rw [← same, admitRequest]
      split
      · simp only [messageAfter, runMessage, handle]
        split
        · exact .nothing
        · exact .handling _ _
      · exact .nothing
  · exact .nothing

theorem serves_finishClose (hub : Hub Env Ctx) (id : ConnectionId) :
    Serves provider hub.env (hub.finishClose provider id).env := by
  rw [finishClose]
  cases hub.context? id with
  | none => exact .nothing
  | some context => exact .ending context

theorem serves_disconnect (hub : Hub Env Ctx) (id : ConnectionId) :
    Serves provider hub.env (hub.disconnect provider id).2.env := by
  rcases hub.disconnect_cases id with ⟨-, same⟩ | ⟨closing, begun, same | same⟩ <;> rw [same]
  · exact .nothing
  · rw [begun]
    exact .nothing
  · have env : closing.env = hub.env := by rw [begun]; rfl
    rw [← env]
    exact serves_finishClose closing id

/-! ## A session of one's own -/

/-- A session can be found, and nobody is at its lock. -/
structure Ready (hub : Hub Env Ctx) (id : ConnectionId) (context : Ctx) : Prop where
  listed : id ∈ hub.published
  session : hub.sessions.get? id = some { context := some context }

variable {context : Ctx}

theorem Ready.of_untouched (ready : hub.Ready client context)
    (untouched : Untouched client hub after) : after.Ready client context :=
  ⟨untouched.listed.2 ready.listed, untouched.session.trans ready.session⟩

/-- A request is handled at once, and the session is ready for the next one. -/
theorem Ready.message (provider : ContextProvider Env Ctx) (ready : hub.Ready id context)
    (raw : Bytes) :
    ∃ after, hub.start provider (.message id raw) =
        (.finished (.replied (.ok (provider.reply raw (provider.handle hub.env context raw).1))),
          after) ∧
      after.Ready id (provider.handle hub.env context raw).2.1 ∧ after.nextId = hub.nextId := by
  obtain ⟨listed, session⟩ := ready
  have found : hub.isOpen id = true := by
    rw [isOpen_iff, state?, session]
    exact ⟨listed, rfl⟩
  have free : hub.lock id = .free := by rw [lock, session]; rfl
  have taken : ((hub.lock id).acquire hub.nextTicket).1 = true := by rw [free]; rfl
  let entered := { hub with nextTicket := hub.nextTicket + 1 }.setLock id (.held [])
  have held : entered.sessions.get? id = some { context := some context, lock := .held [] } := by
    simp only [entered, setLock, Table.get?_modify, ↓reduceIte, session, Option.map_some]
  have has : entered.context? id = some context := by rw [context?, held]; rfl
  have able : entered.canHandle id = true := by
    rw [canHandle, has, state?, held]
    rfl
  have acquired : hub.acquire id = (none, entered) := by rw [acquire_of_taken _ _ taken, free]; rfl
  simp only [start, enter, found, ↓reduceIte, acquired, admitRequest, able, messageAfter,
    runMessage, handle, has]
  refine ⟨_, rfl, ⟨listed, ?_⟩, rfl⟩
  simp only [unlock, setLock, setContext, lock, Table.get?_modify, ↓reduceIte, held,
    Option.map_some, Option.getD_some, Lock.release]
  rfl

/-- A connection without a session gets no reply. -/
theorem start_message_of_absent (absent : id ∉ hub.published) (raw : Bytes) :
    hub.start provider (.message id raw) =
      (.finished (.replied (.error (.notFound id))), hub) := by
  have closed : hub.isOpen id = false := by
    rw [Bool.eq_false_iff]
    exact fun found => absent (isOpen_iff.1 found).1
  simp only [start, enter, closed, Bool.false_eq_true, ↓reduceIte, messageAfter]

/-- After it was closed a session cannot be found. -/
theorem absent_disconnect (hub : Hub Env Ctx) (id : ConnectionId) :
    id ∉ (hub.disconnect provider id).2.published ∧
      (hub.disconnect provider id).2.nextId = hub.nextId := by
  have finish (closing : Hub Env Ctx) :
      (closing.finishClose provider id).published = closing.published ∧
        (closing.finishClose provider id).nextId = closing.nextId := by
    rw [finishClose]
    cases closing.context? id <;> exact ⟨rfl, rfl⟩
  have gone : id ∉ (hub.unpublish id).published := by simp [unpublish]
  rcases hub.disconnect_cases id with ⟨absent, same⟩ | ⟨closing, begun, same | same⟩ <;> rw [same]
  · exact ⟨absent, rfl⟩
  · rw [begun]
    exact ⟨gone, rfl⟩
  · rw [(finish closing).1, (finish closing).2, begun]
    exact ⟨gone, rfl⟩

theorem ready_connect (transport : Transport) (made : provider.create hub.nextId = .ok context) :
    (hub.connect provider transport).2.Ready hub.nextId context := by
  simp only [connect, allocate, made, publish]
  exact ⟨List.mem_concat_self, Table.get?_set_self _ _ _⟩

end Inspector.Hub
