import Mathlib.Data.Multiset.Count
import Inspector.Session.Operation

/-!
# Operations on sessions, interleaved

The hub runs an operation as far as it goes before another one comes in. Here an operation is cut
into its single steps, each of them one access to what all operations share, and any number of
operations take their steps in any order. A handler and the end of a context take time as well:
they are steps of their own, and others may come in between.

* `Point` says where an operation stands, and `Point.step` is its next step.
* `World` holds the operations that were started, and a list of `Action`s is one interleaving.
* An operation that is left alone does what the hub does (`connect_alone`, `disconnectEach_alone`,
  `message_alone` and the like): the runs of the hub are among the interleavings.
-/

namespace Inspector.Interleaving

variable {Env Ctx : Type} (provider : ContextProvider Env Ctx)

/-! ## Single steps -/

/-- What a session's lock is asked for. -/
inductive Errand where
  /-- To close the session, and then others. -/
  | closing (rest : List ConnectionId)
  | asking (request : Bytes)

/-- Where an operation stands. -/
inductive Point (Ctx : Type) where
  -- connecting
  | allocating (transport : Transport)
  | creating (id : ConnectionId) (transport : Transport)
  | publishing (id : ConnectionId) (context : Ctx) (transport : Transport)
  -- disconnecting
  | listing
  | removing (id : ConnectionId) (rest : List ConnectionId)
  /-- The session cannot be found any more, but is still live. -/
  | removed (id : ConnectionId) (rest : List ConnectionId)
  /-- The context is taken, the lock still held. -/
  | releasing (id : ConnectionId) (context : Option Ctx) (rest : List ConnectionId)
  /-- The context is being ended. -/
  | ending (id : ConnectionId) (context : Option Ctx) (rest : List ConnectionId)
  | ended (id : ConnectionId) (rest : List ConnectionId)
  -- requests
  | looking (id : ConnectionId) (request : Bytes)
  /-- The handler is running. -/
  | handling (id : ConnectionId) (request : Bytes)
  | leaving (id : ConnectionId) (result : Except SessionError Bytes)
  -- the lock of a session
  | locking (id : ConnectionId) (errand : Errand)
  | waiting (id : ConnectionId) (ticket : Ticket) (errand : Errand)
  | holding (id : ConnectionId) (errand : Errand)
  | finished

/-- What is told of a connection. -/
inductive Event where
  /-- Its number was given out. -/
  | issued
  /-- Its context could not be made. -/
  | refused
  | opened
  /-- Somebody's attempt to close it is over. -/
  | closed (result : Except SessionError Unit)
  /-- Its context was ended, whether in a crash or not. -/
  | tornDown
  | answered (result : Except SessionError Bytes)
deriving DecidableEq

/-- Everything that was told, in order. -/
abbrev History := List (ConnectionId × Event)

namespace Point

/-- About to close sessions one after the other. -/
def closing : List ConnectionId → Point Ctx
  | [] => finished
  | id :: rest => removing id rest

/-- The next step of an operation. -/
def step (hub : Hub Env Ctx) : Point Ctx → Hub Env Ctx × Point Ctx × History
  | allocating transport =>
    let (id, hub) := hub.allocate
    (hub, creating id transport, [(id, .issued)])
  | creating id transport =>
    match provider.create id with
    | .error _ => (hub, finished, [(id, .refused)])
    | .ok context => (hub, publishing id context transport, [])
  | publishing id context transport =>
    (hub.publish id context transport, finished, [(id, .opened)])
  | listing => (hub, closing hub.published, [])
  | removing id rest =>
    if hub.published.contains id then (hub.unpublish id, removed id rest, [])
    else (hub, closing rest, [(id, .closed (.error (.notFound id)))])
  | removed id rest => (hub.advance id .closing, locking id (.closing rest), [])
  | releasing id context rest => (hub.unlock id, ending id context rest, [])
  | ending id context rest =>
    match context with
    | none => (hub, ended id rest, [])
    | some context =>
      ({ hub with env := (provider.teardown hub.env context).1 }, ended id rest, [(id, .tornDown)])
  | ended id rest => (hub.advance id .closed, closing rest, [(id, .closed (.ok ()))])
  | looking id request =>
    if hub.isOpen id then (hub, locking id (.asking request), [])
    else (hub, finished, [(id, .answered (.error (.notFound id)))])
  | handling id request =>
    match hub.context? id with
    | none => (hub, leaving id (.error (.notFound id)), [])
    | some context =>
      let (handled, context, env) := provider.handle hub.env context request
      ({ hub with env }.setContext id (some context),
        leaving id (.ok (provider.reply request handled)), [])
  | leaving id result => (hub.unlock id, finished, [(id, .answered result)])
  | locking id errand =>
    match hub.acquire id with
    | (none, hub) => (hub, holding id errand, [])
    | (some ticket, hub) => (hub, waiting id ticket errand, [])
  | waiting id ticket errand =>
    match hub.takeUp id ticket with
    | (true, hub) => (hub, holding id errand, [])
    | (false, hub) => (hub, waiting id ticket errand, [])
  | holding id (.closing rest) =>
    (hub.setContext id none, releasing id (hub.context? id) rest, [])
  | holding id (.asking request) =>
    if hub.canHandle id then (hub, handling id request, [])
    else (hub, leaving id (.error (.notFound id)), [])
  | finished => (hub, finished, [])

end Point

/-! ## Interleavings -/

/-- A hub, the operations that were started on it, and what was told of them. -/
structure World (Env Ctx : Type) where
  hub : Hub Env Ctx
  tasks : List (Point Ctx) := []
  history : History := []

/-- What can happen next. -/
inductive Action (Env : Type) where
  -- an operation is started; closing one session is closing the sessions of a list
  | connect (transport : Transport)
  | disconnect (ids : List ConnectionId)
  | disconnectAll
  | message (id : ConnectionId) (request : Bytes)
  /-- The operation of a number takes its next step. -/
  | proceed (task : Nat)
  /-- The environment and the transports change in any way, and somebody else takes tickets. -/
  | outside (env : Env) (transports : Table ConnectionId Transport) (tickets : Nat)

namespace World

/-- The world before anything has happened. -/
def initial (env : Env) : World Env Ctx := { hub := { env } }

/-- The world with one operation more. -/
def launch (world : World Env Ctx) (point : Point Ctx) : World Env Ctx :=
  { world with tasks := world.tasks ++ [point] }

/-- The world after an operation has come to another point. -/
def moved (world : World Env Ctx) (task : Nat) (after : Hub Env Ctx × Point Ctx × History) :
    World Env Ctx :=
  { hub := after.1, tasks := world.tasks.set task after.2.1
    history := world.history ++ after.2.2 }

/-- One step. -/
def step (world : World Env Ctx) : Action Env → World Env Ctx
  | .connect transport => world.launch (.allocating transport)
  | .disconnect ids => world.launch (.closing ids)
  | .disconnectAll => world.launch .listing
  | .message id request => world.launch (.looking id request)
  | .proceed task =>
    match world.tasks[task]? with
    | none => world
    | some point => world.moved task (point.step provider world.hub)
  | .outside env transports tickets =>
    { world with
      hub := { world.hub with
        env, transports, nextTicket := world.hub.nextTicket + tickets } }

/-- One step after the other. -/
def run (world : World Env Ctx) (actions : List (Action Env)) : World Env Ctx :=
  actions.foldl (step provider) world

end World

/-! ## Operations that are left alone -/

/-- Leads from a hub and an operation to what they are after some steps of the operation alone. -/
inductive Alone : Hub Env Ctx × Point Ctx → Hub Env Ctx × Point Ctx → Prop
  | rest (state : Hub Env Ctx × Point Ctx) : Alone state state
  | step {hub hub' : Hub Env Ctx} {point point' : Point Ctx} {events : History}
      {last : Hub Env Ctx × Point Ctx} :
      point.step provider hub = (hub', point', events) → Alone (hub', point') last →
      Alone (hub, point) last

namespace Point

/-- Where an operation begins, if it is one that is cut into steps here. -/
def ofOperation : Operation → Option (Point Ctx)
  | .disconnect id => some (closing [id])
  | .disconnectAll => some listing
  | .message id request => some (looking id request)
  | _ => none

/-- Where an operation that waits goes on, if it is one that is cut into steps here. -/
def ofSuspended : Suspended → Option (Point Ctx)
  | .disconnect id ticket => some (waiting id ticket (.closing []))
  | .disconnectAll id ticket rest => some (waiting id ticket (.closing rest))
  | .message id ticket request => some (waiting id ticket (.asking request))
  | _ => none

/-- Where an operation stands when the hub has run it as far as it goes. -/
def ofProgress : Progress → Option (Point Ctx)
  | .finished _ => some finished
  | .waits suspended => ofSuspended suspended

end Point

variable {provider} {hub : Hub Env Ctx} {last : Hub Env Ctx × Point Ctx}

theorem Alone.finishClose {id : ConnectionId} {rest : List ConnectionId}
    (alone : Alone provider (hub.finishClose provider id, .closing rest) last) :
    Alone provider (hub, .holding id (.closing rest)) last := by
  refine .step rfl (.step rfl ?_)
  rw [Hub.finishClose] at alone
  cases has : hub.context? id with
  | none =>
    rw [has] at alone
    exact .step rfl (.step rfl alone)
  | some context =>
    rw [has] at alone
    exact .step rfl (.step rfl alone)

theorem Alone.beginClose {id : ConnectionId} {rest : List ConnectionId} {after : Hub Env Ctx}
    (begun : hub.beginClose id = (true, after))
    (alone : Alone provider (after, .locking id (.closing rest)) last) :
    Alone provider (hub, .removing id rest) last := by
  rw [Hub.beginClose] at begun
  split at begun
  · rename_i found
    cases begun
    exact .step (if_pos found) (.step rfl alone)
  · cases begun

theorem Alone.missClose {id : ConnectionId} {rest : List ConnectionId} {after : Hub Env Ctx}
    (missed : hub.beginClose id = (false, after))
    (alone : Alone provider (after, .closing rest) last) :
    Alone provider (hub, .removing id rest) last := by
  rw [Hub.beginClose] at missed
  split at missed
  · cases missed
  · rename_i absent
    cases missed
    exact .step (if_neg absent) alone

theorem Alone.acquire {id : ConnectionId} {errand : Errand} {after : Hub Env Ctx}
    (taken : hub.acquire id = (none, after))
    (alone : Alone provider (after, .holding id errand) last) :
    Alone provider (hub, .locking id errand) last :=
  .step (by rw [Point.step, taken]) alone

theorem Alone.queue {id : ConnectionId} {errand : Errand} {after : Hub Env Ctx} {ticket : Ticket}
    (queued : hub.acquire id = (some ticket, after)) :
    Alone provider (hub, .locking id errand) (after, .waiting id ticket errand) :=
  .step (by rw [Point.step, queued]) (.rest _)

/-- The operation alone comes where the hub has brought it. -/
def Follows (provider : ContextProvider Env Ctx) (hub : Hub Env Ctx) (point : Point Ctx)
    (run : Run Env Ctx) : Prop :=
  ∃ after, Point.ofProgress run.1 = some after ∧ Alone provider (hub, point) (run.2, after)

theorem disconnectEach_alone (ids : List ConnectionId) :
    Follows provider hub (.closing ids) (hub.disconnectEach provider ids) := by
  induction ids generalizing hub with
  | nil => exact ⟨_, rfl, .rest _⟩
  | cons id rest ih =>
    rw [Hub.disconnectEach]
    split
    · rename_i after missed
      obtain ⟨point, progress, alone⟩ := @ih after
      exact ⟨point, progress, .missClose missed alone⟩
    · rename_i after begun
      split
      · rename_i ticket later queued
        exact ⟨_, rfl, .beginClose begun (.queue queued)⟩
      · rename_i later taken
        obtain ⟨point, progress, alone⟩ := @ih (later.finishClose provider id)
        exact ⟨point, progress, .beginClose begun (.acquire taken (.finishClose alone))⟩

theorem disconnect_alone (id : ConnectionId) :
    Follows provider hub (.closing [id]) (hub.disconnect provider id) := by
  rw [Hub.disconnect]
  split
  · rename_i after missed
    exact ⟨_, rfl, .missClose missed (.rest _)⟩
  · rename_i after begun
    split
    · rename_i ticket later queued
      exact ⟨_, rfl, .beginClose begun (.queue queued)⟩
    · rename_i later taken
      exact ⟨_, rfl, .beginClose begun (.acquire taken (.finishClose (.rest _)))⟩

theorem admitRequest_alone (id : ConnectionId) (request : Bytes) :
    Follows provider hub (.holding id (.asking request))
      ((hub.admitRequest id).2.messageAfter provider (hub.admitRequest id).1 id request) := by
  rw [Hub.admitRequest]
  split
  · rename_i able
    refine ⟨_, rfl, .step (if_pos able) ?_⟩
    dsimp only [Hub.messageAfter, Hub.runMessage, Hub.handle]
    cases has : hub.context? id with
    | none => exact .step (by rw [Point.step, has]) (.step rfl (.rest _))
    | some context => exact .step (by rw [Point.step, has]) (.step rfl (.rest _))
  · rename_i unable
    exact ⟨_, rfl, .step (if_neg unable) (.step rfl (.rest _))⟩

theorem Follows.step {hub' : Hub Env Ctx} {point point' : Point Ctx} {events : History}
    {run : Run Env Ctx} (stepped : point.step provider hub = (hub', point', events))
    (follows : Follows provider hub' point' run) : Follows provider hub point run := by
  obtain ⟨after, progress, alone⟩ := follows
  exact ⟨after, progress, .step stepped alone⟩

theorem message_alone (id : ConnectionId) (request : Bytes) :
    Follows provider hub (.looking id request)
      ((hub.enter id).2.messageAfter provider (hub.enter id).1 id request) := by
  rw [Hub.enter]
  split
  · rename_i found
    refine .step (if_pos found) ?_
    split
    · rename_i ticket after queued
      exact ⟨_, rfl, .queue queued⟩
    · rename_i after taken
      exact .step (by rw [Point.step, taken]) (admitRequest_alone id request)
  · rename_i absent
    exact ⟨_, rfl, .step (if_neg absent) (.rest _)⟩

/-- The runs of the hub are runs of operations that are left alone. -/
theorem start_alone {operation : Operation} {point : Point Ctx}
    (begins : Point.ofOperation operation = some point) :
    Follows provider hub point (hub.start provider operation) := by
  cases operation with
  | disconnect id =>
    cases begins
    exact disconnect_alone id
  | disconnectAll =>
    cases begins
    exact .step rfl (disconnectEach_alone hub.published)
  | message id request =>
    cases begins
    exact message_alone id request
  | _ => cases begins

theorem resume_alone {suspended : Suspended} {point : Point Ctx}
    (waits : Point.ofSuspended suspended = some point) :
    Follows provider hub point (hub.resume provider suspended) := by
  cases suspended with
  | disconnect id ticket =>
    cases waits
    rw [Hub.resume]
    split
    · rename_i after missed
      exact ⟨_, rfl, .step (by rw [Point.step, missed]) (.rest _)⟩
    · rename_i after taken
      exact ⟨_, rfl, .step (by rw [Point.step, taken]) (.finishClose (.rest _))⟩
  | disconnectAll id ticket rest =>
    cases waits
    rw [Hub.resume]
    split
    · rename_i after missed
      exact ⟨_, rfl, .step (by rw [Point.step, missed]) (.rest _)⟩
    · rename_i after taken
      obtain ⟨point, progress, alone⟩ :=
        @disconnectEach_alone _ _ provider (after.finishClose provider id) rest
      exact ⟨point, progress, .step (by rw [Point.step, taken]) (.finishClose alone)⟩
  | message id ticket request =>
    cases waits
    rw [Hub.resume]
    split
    · rename_i after missed
      exact ⟨_, rfl, .step (by rw [Point.step, missed]) (.rest _)⟩
    · rename_i after taken
      exact .step (by rw [Point.step, taken]) (admitRequest_alone id request)
  | _ => cases waits

theorem connect_alone (transport : Transport) :
    Alone provider (hub, .allocating transport)
      ((hub.connect provider transport).2, .finished) := by
  rw [Hub.connect]
  simp only [Hub.allocate]
  cases made : provider.create hub.nextId with
  | error reason => exact .step rfl (.step (by rw [Point.step, made]) (.rest _))
  | ok context => exact .step rfl (.step (by rw [Point.step, made]) (.step rfl (.rest _)))

/-- Steps of one operation alone are an interleaving. -/
theorem Alone.exists_proceeds {first last : Hub Env Ctx × Point Ctx}
    (alone : Alone provider first last) {world : World Env Ctx} {task : Nat}
    (same : world.hub = first.1) (found : world.tasks[task]? = some first.2) :
    ∃ steps, (world.run provider (.replicate steps (.proceed task))).hub = last.1 ∧
      (world.run provider (.replicate steps (.proceed task))).tasks =
        world.tasks.set task last.2 := by
  induction alone generalizing world with
  | rest state =>
    obtain ⟨bound, here⟩ := List.getElem?_eq_some_iff.1 found
    refine ⟨0, same, ?_⟩
    rw [← here, List.set_getElem_self]
    rfl
  | @step hub hub' point point' events last stepped alone ih =>
    have bound := (List.getElem?_eq_some_iff.1 found).1
    have next : world.step provider (.proceed task) = world.moved task (hub', point', events) := by
      rw [World.step, found]
      dsimp only at same ⊢
      rw [same, stepped]
    obtain ⟨steps, reached, others⟩ :=
      @ih (world.step provider (.proceed task)) (by rw [next]; rfl)
        (by rw [next]; exact List.getElem?_set_self bound)
    refine ⟨steps + 1, reached, ?_⟩
    rw [List.replicate_succ, World.run, List.foldl_cons, ← World.run, others, next]
    exact List.set_set _

theorem Alone.exists_run {first last : Hub Env Ctx × Point Ctx} (alone : Alone provider first last)
    {world : World Env Ctx} {task : Nat} (same : world.hub = first.1)
    (found : world.tasks[task]? = some first.2) :
    ∃ actions, (world.run provider actions).hub = last.1 ∧
      (world.run provider actions).tasks = world.tasks.set task last.2 := by
  obtain ⟨steps, reached⟩ := alone.exists_proceeds same found
  exact ⟨_, reached⟩

namespace World

/-- An operation that is started and left alone comes where the hub brings it. -/
theorem exists_run_of_launch {world : World Env Ctx} {action : Action Env} {point after : Point Ctx}
    {hub' : Hub Env Ctx} (launched : world.step provider action = world.launch point)
    (alone : Alone provider (world.hub, point) (hub', after)) :
    ∃ actions, (world.run provider actions).hub = hub' ∧
      (world.run provider actions).tasks = world.tasks ++ [after] := by
  have last : (world.step provider action).tasks[world.tasks.length]? = some point := by
    rw [launched, launch]
    exact List.getElem?_concat_length
  obtain ⟨actions, reached, tasks⟩ := alone.exists_run (by rw [launched]; rfl) last
  refine ⟨action :: actions, reached, ?_⟩
  rw [run, List.foldl_cons, ← run, tasks, launched, launch]
  simp

theorem exists_connect (world : World Env Ctx) (transport : Transport) :
    ∃ actions, (world.run provider actions).hub = (world.hub.connect provider transport).2 ∧
      (world.run provider actions).tasks = world.tasks ++ [.finished] := by
  have launched : world.step provider (.connect transport) =
      world.launch (.allocating transport) := rfl
  exact exists_run_of_launch launched (connect_alone transport)

theorem exists_start (world : World Env Ctx) {operation : Operation} {point : Point Ctx}
    (begins : Point.ofOperation operation = some point) :
    ∃ actions after, Point.ofProgress (world.hub.start provider operation).1 = some after ∧
      (world.run provider actions).hub = (world.hub.start provider operation).2 ∧
      (world.run provider actions).tasks = world.tasks ++ [after] := by
  obtain ⟨after, progress, alone⟩ := start_alone begins
  have launched : ∃ action, world.step provider action = world.launch point := by
    cases operation with
    | disconnect id => cases begins; exact ⟨.disconnect [id], rfl⟩
    | disconnectAll => cases begins; exact ⟨.disconnectAll, rfl⟩
    | message id request => cases begins; exact ⟨.message id request, rfl⟩
    | _ => cases begins
  obtain ⟨action, launched⟩ := launched
  obtain ⟨actions, reached⟩ := exists_run_of_launch launched alone
  exact ⟨actions, after, progress, reached⟩

theorem exists_resume {world : World Env Ctx} {task : Nat} {suspended : Suspended}
    {point : Point Ctx} (waits : Point.ofSuspended suspended = some point)
    (found : world.tasks[task]? = some point) :
    ∃ actions after, Point.ofProgress (world.hub.resume provider suspended).1 = some after ∧
      (world.run provider actions).hub = (world.hub.resume provider suspended).2 ∧
      (world.run provider actions).tasks = world.tasks.set task after := by
  obtain ⟨after, progress, alone⟩ := resume_alone waits
  obtain ⟨actions, reached⟩ := alone.exists_run rfl found
  exact ⟨actions, after, progress, reached⟩

end World

end Inspector.Interleaving
