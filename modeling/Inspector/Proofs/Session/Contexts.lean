import Mathlib.Algebra.Order.Group.Multiset
import Inspector.Proofs.Session.Lifecycle

/-!
# Where the contexts are

A context that has been made is in its session or in the hands of an operation, until it is ended
(`World.contexts`). A step makes a context, lets one handle a request, ends one, or does nothing to
them (`Turn`), and this is all that it does to the environment (`World.Orderly.turn`). Once every
session is closed, no context is left but those that are about to be published
(`World.Orderly.new_of_closed`).
-/

namespace Inspector.Interleaving

variable {Env Ctx : Type} (provider : ContextProvider Env Ctx)

/-! ## Contexts of a world -/

/-- The context that an operation has in its hands. -/
def Point.context? : Point Ctx → Option Ctx
  | publishing _ context _ => some context
  | releasing _ context _ | ending _ context _ => context
  | _ => none

@[simp] theorem Point.context?_closing (ids : List ConnectionId) :
    (closing ids : Point Ctx).context? = none := by
  cases ids <;> rfl

/-- The contexts that sessions have. -/
def inSessions (sessions : Table ConnectionId (Session Ctx)) : Multiset Ctx :=
  ↑(sessions.filterMap (·.2.context))

/-- The contexts that operations have in their hands. -/
def inHands (tasks : List (Point Ctx)) : Multiset Ctx :=
  ↑(tasks.filterMap Point.context?)

/-- The contexts that have been made and not been ended. -/
def World.contexts (world : World Env Ctx) : Multiset Ctx :=
  inSessions world.hub.sessions + inHands world.tasks

/-- One context or none. -/
def single (context : Option Ctx) : Multiset Ctx := ↑context.toList

@[simp] theorem single_none : single (none : Option Ctx) = 0 := rfl

@[simp] theorem single_some (context : Ctx) : single (some context) = {context} := rfl

theorem inHands_cons (point : Point Ctx) (rest : List (Point Ctx)) :
    inHands (point :: rest) = single point.context? + inHands rest := by
  rw [inHands, List.filterMap_cons]
  cases point.context? with
  | none => exact (zero_add _).symm
  | some context => rw [← Multiset.cons_coe, single_some, Multiset.singleton_add]; rfl

theorem inSessions_cons (entry : ConnectionId × Session Ctx)
    (rest : Table ConnectionId (Session Ctx)) :
    inSessions (entry :: rest) = single entry.2.context + inSessions rest := by
  rw [inSessions, List.filterMap_cons]
  cases entry.2.context with
  | none => exact (zero_add _).symm
  | some context => rw [← Multiset.cons_coe, single_some, Multiset.singleton_add]; rfl

/-- The contexts in hands, those of one operation set apart. -/
theorem inHands_set {tasks : List (Point Ctx)} {task : Nat} {point : Point Ctx}
    (found : tasks[task]? = some point) :
    ∃ others, inHands tasks = single point.context? + others ∧
      ∀ next : Point Ctx, inHands (tasks.set task next) = single next.context? + others := by
  induction tasks generalizing task with
  | nil => simp at found
  | cons first rest ih =>
    cases task with
    | zero =>
      obtain rfl : first = point := by simpa using found
      exact ⟨inHands rest, inHands_cons _ _, fun next => inHands_cons _ _⟩
    | succ task =>
      obtain ⟨others, before, after⟩ := ih (by simpa using found)
      refine ⟨single first.context? + others, ?_, fun next => ?_⟩
      · rw [inHands_cons, before, add_left_comm]
      · rw [List.set_cons_succ, inHands_cons, after, add_left_comm]

theorem inHands_launch (tasks : List (Point Ctx)) {point : Point Ctx}
    (empty : point.context? = none) : inHands (tasks ++ [point]) = inHands tasks := by
  rw [inHands, List.filterMap_append, List.filterMap_cons, empty, List.filterMap_nil,
    List.append_nil, ← inHands]

/-! ## Sessions and their contexts -/

theorem inSessions_modify {sessions : Table ConnectionId (Session Ctx)} {id : ConnectionId}
    {f : Session Ctx → Session Ctx} (same : ∀ session, (f session).context = session.context) :
    inSessions (sessions.modify id f) = inSessions sessions := by
  rw [inSessions, Table.modify, List.filterMap_map, inSessions]
  congr 1
  refine List.filterMap_congr fun entry _ => ?_
  dsimp only [Function.comp_apply]
  split
  · exact same _
  · rfl

/-- The contexts of sessions, that of one of them set apart. -/
theorem inSessions_split {sessions : Table ConnectionId (Session Ctx)}
    (distinct : (sessions.map (·.1)).Nodup) (id : ConnectionId) :
    ∃ others, inSessions sessions = single ((sessions.get? id).bind (·.context)) + others ∧
      ∀ f, inSessions (sessions.modify id f) =
        single (((sessions.get? id).map f).bind (·.context)) + others := by
  induction sessions with
  | nil => exact ⟨0, rfl, fun _ => rfl⟩
  | cons entry rest ih =>
    obtain ⟨key, session⟩ := entry
    obtain ⟨absent, distinct⟩ := List.nodup_cons.1 distinct
    obtain ⟨others, before, after⟩ := ih distinct
    have step (f : Session Ctx → Session Ctx) : Table.modify ((key, session) :: rest) id f =
        (key, if key = id then f session else session) :: Table.modify rest id f := by
      by_cases same : key = id <;> simp [Table.modify, same]
    by_cases same : key = id
    · subst same
      -- the key comes only once, so the rest has nothing of it
      have none : Table.get? rest key = none := by
        cases found : Table.get? rest key with
        | none => rfl
        | some other => exact absurd (Table.mem_keys_of_get? found) absent
      rw [none] at before after
      refine ⟨others, ?_, fun f => ?_⟩
      · rw [inSessions_cons, before]
        simp [Table.get?]
      · rw [step, inSessions_cons, after]
        simp [Table.get?]
    · refine ⟨single session.context + others, ?_, fun f => ?_⟩
      · rw [inSessions_cons, before, add_left_comm]
        simp [Table.get?, same]
      · rw [step, inSessions_cons, after, add_left_comm]
        simp [Table.get?, same]

theorem inSessions_set {sessions : Table ConnectionId (Session Ctx)} {id : ConnectionId}
    (absent : sessions.get? id = none) (session : Session Ctx) :
    inSessions (sessions.set id session) = single session.context + inSessions sessions := by
  induction sessions with
  | nil => exact inSessions_cons (id, session) []
  | cons entry rest ih =>
    obtain ⟨key, other⟩ := entry
    by_cases same : key = id
    · simp [Table.get?, same] at absent
    · have absent : Table.get? rest id = none := by simpa [Table.get?, same] using absent
      have step : Table.set ((key, other) :: rest) id session =
          (key, other) :: Table.set rest id session := by simp [Table.set, same]
      rw [step, inSessions_cons, ih absent, inSessions_cons, add_left_comm]

@[simp] theorem inSessions_setLock (hub : Hub Env Ctx) (id : ConnectionId) (lock : Lock) :
    inSessions (hub.setLock id lock).sessions = inSessions hub.sessions :=
  inSessions_modify (f := fun session => { session with lock }) fun _ => rfl

@[simp] theorem inSessions_advance (hub : Hub Env Ctx) (id : ConnectionId) (next : SessionState) :
    inSessions (hub.advance id next).sessions = inSessions hub.sessions :=
  inSessions_modify (f := fun session => { session with state := session.state.advance next })
    fun _ => rfl

theorem keys_setLock (hub : Hub Env Ctx) (id : ConnectionId) (lock : Lock) :
    (hub.setLock id lock).sessions.map (·.1) = hub.sessions.map (·.1) := by
  simp only [Hub.setLock, Table.keys_modify]

theorem keys_advance (hub : Hub Env Ctx) (id : ConnectionId) (next : SessionState) :
    (hub.advance id next).sessions.map (·.1) = hub.sessions.map (·.1) := by
  simp only [Hub.advance, Table.keys_modify]

theorem keys_setContext (hub : Hub Env Ctx) (id : ConnectionId) (context : Option Ctx) :
    (hub.setContext id context).sessions.map (·.1) = hub.sessions.map (·.1) := by
  simp only [Hub.setContext, Table.keys_modify]

/-! ## Steps -/

/-- What a step does to the environment and the contexts. -/
inductive Turn : Env × Multiset Ctx → Env × Multiset Ctx → Prop
  | rest (state : Env × Multiset Ctx) : Turn state state
  | made {id : ConnectionId} {context : Ctx} (env : Env) (others : Multiset Ctx) :
      provider.create id = .ok context → Turn (env, others) (env, context ::ₘ others)
  | handled (env : Env) (others : Multiset Ctx) (context : Ctx) (request : Bytes) :
      Turn (env, context ::ₘ others)
        ((provider.handle env context request).2.2,
          (provider.handle env context request).2.1 ::ₘ others)
  | ended (env : Env) (others : Multiset Ctx) (context : Ctx) :
      Turn (env, context ::ₘ others) ((provider.teardown env context).1, others)

namespace Point

variable {provider} {hub hub' : Hub Env Ctx} {point point' : Point Ctx} {events : History}

/-- A context that is about to be published goes to a connection without a session. -/
def Unsettled (hub : Hub Env Ctx) : Point Ctx → Prop
  | publishing id _ _ => hub.sessions.get? id = none
  | _ => True

theorem step_turn (stepped : point.step provider hub = (hub', point', events))
    (distinct : (hub.sessions.map (·.1)).Nodup) (unsettled : point.Unsettled hub)
    (others : Multiset Ctx) :
    Turn provider (hub.env, inSessions hub.sessions + (single point.context? + others))
      (hub'.env, inSessions hub'.sessions + (single point'.context? + others)) := by
  cases point with
  | allocating transport =>
    cases stepped
    exact .rest _
  | creating id transport =>
    rw [step] at stepped
    split at stepped <;> cases stepped
    · exact .rest _
    · rename_i context made
      have turn := Turn.made hub.env (inSessions hub.sessions + others) made
      simpa [context?, add_left_comm] using turn
  | publishing id context transport =>
    cases stepped
    have moved : inSessions (hub.publish id context transport).sessions = _ :=
      inSessions_set unsettled _
    have same : (hub.publish id context transport).env = hub.env := rfl
    rw [moved, same]
    simpa [context?, add_left_comm, add_assoc] using Turn.rest _
  | listing =>
    cases stepped
    rw [context?_closing]
    exact .rest _
  | removing id rest =>
    rw [step] at stepped
    split at stepped <;> cases stepped
    · exact .rest _
    · rw [context?_closing]
      exact .rest _
  | removed id rest =>
    cases stepped
    rw [inSessions_advance]
    exact .rest _
  | releasing id context rest =>
    cases stepped
    rw [Hub.unlock, inSessions_setLock]
    exact .rest _
  | ending id context rest =>
    cases context with
    | none =>
      cases stepped
      exact .rest _
    | some context =>
      cases stepped
      have turn : Turn provider _ _ :=
        .ended hub.env (inSessions hub.sessions + others) context
      simpa [context?, add_left_comm] using turn
  | ended id rest =>
    cases stepped
    rw [inSessions_advance, context?_closing]
    exact .rest _
  | looking id request =>
    rw [step] at stepped
    split at stepped <;> cases stepped <;> exact .rest _
  | handling id request =>
    rw [step] at stepped
    split at stepped <;> cases stepped
    · exact .rest _
    · rename_i context has
      obtain ⟨apart, before, after⟩ := inSessions_split distinct id
      obtain ⟨session, found, present⟩ := Option.bind_eq_some_iff.1 has
      have turn : Turn provider _ _ := .handled hub.env (apart + others) context request
      rw [Hub.setContext, after, found, before]
      simpa [context?, found, present, add_assoc] using turn
  | leaving id result =>
    cases stepped
    rw [Hub.unlock, inSessions_setLock]
    exact .rest _
  | locking id errand =>
    cases taken : ((hub.lock id).acquire hub.nextTicket).1 with
    | true =>
      rw [step, Hub.acquire_of_taken _ _ taken] at stepped
      cases stepped
      rw [inSessions_setLock]
      exact .rest _
    | false =>
      rw [step, Hub.acquire_of_queued _ _ taken] at stepped
      cases stepped
      rw [inSessions_setLock]
      exact .rest _
  | waiting id ticket errand =>
    rw [step, Hub.takeUp_eq] at stepped
    cases taken : ((hub.lock id).takeUp ticket).1 <;> rw [taken] at stepped <;> cases stepped <;>
      rw [inSessions_setLock] <;> exact .rest _
  | holding id errand =>
    cases errand with
    | closing rest =>
      cases stepped
      obtain ⟨apart, before, after⟩ := inSessions_split distinct id
      rw [Hub.setContext, after, before, ← Hub.context?]
      have none : ((hub.sessions.get? id).map fun session =>
          { session with context := none }).bind (·.context) = (none : Option Ctx) := by
        cases hub.sessions.get? id <;> rfl
      rw [none]
      simpa [context?, add_assoc, add_left_comm] using Turn.rest _
    | asking request =>
      rw [step] at stepped
      split at stepped <;> cases stepped <;> exact .rest _
  | finished =>
    cases stepped
    exact .rest _

/-- A context that is about to be published is as it was made. -/
def IsNew (provider : ContextProvider Env Ctx) : Point Ctx → Prop
  | publishing id context _ => provider.create id = .ok context
  | _ => True

theorem isNew_closing (ids : List ConnectionId) : (closing ids : Point Ctx).IsNew provider := by
  cases ids <;> exact trivial

/-- No session is made twice, and a context is not changed before it is published. -/
theorem step_orderly (stepped : point.step provider hub = (hub', point', events))
    (distinct : (hub.sessions.map (·.1)).Nodup) :
    (hub'.sessions.map (·.1)).Nodup ∧ point'.IsNew provider := by
  cases point with
  | publishing id context transport =>
    cases stepped
    exact ⟨Table.nodup_keys_set distinct id _, trivial⟩
  | creating id transport =>
    rw [step] at stepped
    split at stepped <;> cases stepped
    · exact ⟨distinct, trivial⟩
    · rename_i context made
      exact ⟨distinct, made⟩
  | listing =>
    cases stepped
    exact ⟨distinct, isNew_closing _⟩
  | removing id rest =>
    rw [step] at stepped
    split at stepped <;> cases stepped
    · exact ⟨distinct, trivial⟩
    · exact ⟨distinct, isNew_closing rest⟩
  | removed id rest =>
    cases stepped
    exact ⟨by rwa [keys_advance], trivial⟩
  | releasing id context rest =>
    cases stepped
    exact ⟨by rwa [Hub.unlock, keys_setLock], trivial⟩
  | ending id context rest => cases context <;> cases stepped <;> exact ⟨distinct, trivial⟩
  | ended id rest =>
    cases stepped
    exact ⟨by rwa [keys_advance], isNew_closing rest⟩
  | looking id request =>
    rw [step] at stepped
    split at stepped <;> cases stepped <;> exact ⟨distinct, trivial⟩
  | handling id request =>
    rw [step] at stepped
    split at stepped <;> cases stepped
    · exact ⟨distinct, trivial⟩
    · exact ⟨by rwa [keys_setContext], trivial⟩
  | leaving id result =>
    cases stepped
    exact ⟨by rwa [Hub.unlock, keys_setLock], trivial⟩
  | locking id errand =>
    cases taken : ((hub.lock id).acquire hub.nextTicket).1 with
    | true =>
      rw [step, Hub.acquire_of_taken _ _ taken] at stepped
      cases stepped
      exact ⟨by rwa [keys_setLock], trivial⟩
    | false =>
      rw [step, Hub.acquire_of_queued _ _ taken] at stepped
      cases stepped
      exact ⟨by rwa [keys_setLock], trivial⟩
  | waiting id ticket errand =>
    rw [step, Hub.takeUp_eq] at stepped
    cases taken : ((hub.lock id).takeUp ticket).1 <;> rw [taken] at stepped <;> cases stepped <;>
      exact ⟨by rwa [keys_setLock], trivial⟩
  | holding id errand =>
    cases errand with
    | closing rest =>
      cases stepped
      exact ⟨by rwa [keys_setContext], trivial⟩
    | asking request =>
      rw [step] at stepped
      split at stepped <;> cases stepped <;> exact ⟨distinct, trivial⟩
  | _ =>
    cases stepped
    exact ⟨distinct, trivial⟩

end Point

/-! ## Worlds -/

namespace World

variable {provider} {world : World Env Ctx}

/-- A world as it comes about. -/
structure Orderly (provider : ContextProvider Env Ctx) (world : World Env Ctx) : Prop where
  sound : world.Sound
  distinct : (world.hub.sessions.map (·.1)).Nodup
  new : ∀ point ∈ world.tasks, point.IsNew provider

theorem initial_orderly (env : Env) : (initial env : World Env Ctx).Orderly provider where
  sound := initial_sound env
  distinct := List.nodup_nil
  new := nofun

theorem Orderly.launch (orderly : world.Orderly provider) {action : Action Env} {point : Point Ctx}
    (launched : world.step provider action = world.launch point) (new : point.IsNew provider) :
    (world.step provider action).Orderly provider := by
  refine ⟨orderly.sound.step action, ?_, ?_⟩
  · rw [launched]
    exact orderly.distinct
  · rw [launched]
    intro other started
    rcases List.mem_append.1 started with before | now
    · exact orderly.new other before
    · rwa [List.mem_singleton.1 now]

theorem Orderly.step (orderly : world.Orderly provider) (action : Action Env) :
    (world.step provider action).Orderly provider := by
  cases action with
  | connect transport => exact orderly.launch rfl trivial
  | disconnect ids => exact orderly.launch rfl (Point.isNew_closing ids)
  | disconnectAll => exact orderly.launch rfl trivial
  | message id request => exact orderly.launch rfl trivial
  | outside env transports tickets =>
    exact ⟨orderly.sound.step _, orderly.distinct, orderly.new⟩
  | proceed task =>
    refine ⟨orderly.sound.step _, ?_, ?_⟩
    · rw [World.step]
      split
      · exact orderly.distinct
      · exact (Point.step_orderly rfl orderly.distinct).1
    · rw [World.step]
      split
      · exact orderly.new
      · intro other started
        rcases List.mem_or_eq_of_mem_set started with before | rfl
        · exact orderly.new other before
        · exact (Point.step_orderly rfl orderly.distinct).2

theorem Orderly.unsettled (orderly : world.Orderly provider) {task : Nat} {point : Point Ctx}
    (found : world.tasks[task]? = some point) : point.Unsettled world.hub := by
  cases point with
  | publishing id context transport =>
    obtain ⟨others, roles, -⟩ := rolesAt_set found id
    have own : (Point.publishing id context transport).joined id others = .opening ::ₘ others :=
      if_pos rfl
    have balanced := (orderly.sound id).1
    rw [account, roles, own] at balanced
    have none : world.hub.stage? id = none :=
      Account.Balanced.session_eq_none (a := accountOf world.hub world.history id others) balanced
    exact Option.map_eq_none_iff.1 none
  | _ => exact trivial

theorem contexts_launch (world : World Env Ctx) {point : Point Ctx}
    (empty : point.context? = none) : (world.launch point).contexts = world.contexts := by
  rw [contexts, contexts, launch, inHands_launch _ empty]

/-- What a step of an operation does to the environment and the contexts. -/
theorem Orderly.turn (orderly : world.Orderly provider) (task : Nat) :
    Turn provider (world.hub.env, world.contexts)
      ((world.step provider (.proceed task)).hub.env,
        (world.step provider (.proceed task)).contexts) := by
  cases found : world.tasks[task]? with
  | none =>
    rw [World.step, found]
    exact .rest _
  | some point =>
    obtain ⟨others, before, after⟩ := inHands_set found
    rw [World.step, found]
    simp only [contexts, moved, before, after]
    exact Point.step_turn rfl orderly.distinct (orderly.unsettled found) others

/-! ## Closed sessions -/

/-- A closed session has lost its context, and nobody is closing it any more. -/
theorem Sound.closed_empty (sound : world.Sound) {id : ConnectionId}
    (closed : world.hub.state? id = some .closed) :
    world.hub.context? id = none ∧ ∀ role ∈ rolesAt id world.tasks, role.closes = false := by
  obtain ⟨-, -, -, live, closing, -, present, -, -, -, -⟩ := (sound id).1
  obtain ⟨stage, session, state⟩ : ∃ stage, (world.account id).session = some stage ∧
      stage.state = .closed := by
    rwa [Hub.state?_eq, Option.map_eq_some_iff] at closed
  have places := Role.number_keeps_le (world.account id).roles
  rw [session] at live closing present
  simp only [Stage.inState_some, state, reduceCtorEq, ↓reduceIte] at live closing
  constructor
  · have none : Stage.withContext (world.hub.stage? id) = 0 := by
      change Stage.withContext (world.account id).session = 0
      rw [session]
      omega
    cases has : world.hub.context? id with
    | none => rfl
    | some context =>
      have any := Hub.isSome_context? world.hub id
      rw [has, Option.isSome_some] at any
      rw [Stage.withContext, ← any] at none
      cases none
  · intro role busy
    cases closes : role.closes with
    | false => rfl
    | true =>
      have some := Role.number_pos.2 ⟨role, busy, closes⟩
      change 0 < Role.number Role.closes (world.account id).roles at some
      omega

/-- Who is busy with a connection, other than to open it, is busy with its session. -/
theorem Sound.exists_session (sound : world.Sound) {id : ConnectionId} {role : Role}
    (busy : role ∈ rolesAt id world.tasks) (settled : role ≠ .opening) :
    ∃ session, world.hub.sessions.get? id = some session := by
  obtain ⟨others, roles⟩ := Multiset.exists_cons_of_mem busy
  have balanced := (sound id).1
  rw [account, roles] at balanced
  obtain ⟨state, present, lock, stage⟩ := Account.Balanced.exists_stage
    (a := accountOf world.hub world.history id others) balanced settled
  obtain ⟨session, found, -⟩ := Option.map_eq_some_iff.1 stage
  exact ⟨session, found⟩

/-- Once every session is closed, no context is left but those that are about to be published. -/
theorem Orderly.new_of_closed (orderly : world.Orderly provider)
    (closed : ∀ id state, world.hub.state? id = some state → state = .closed) {context : Ctx}
    (present : context ∈ world.contexts) : ∃ id, provider.create id = .ok context := by
  have empty {id : ConnectionId} {session : Session Ctx}
      (found : world.hub.sessions.get? id = some session) :
      world.hub.context? id = none ∧ ∀ role ∈ rolesAt id world.tasks, role.closes = false := by
    have known : world.hub.state? id = some session.state := by rw [Hub.state?, found]; rfl
    rw [closed id _ known] at known
    exact orderly.sound.closed_empty known
  rcases Multiset.mem_add.1 present with inSession | inHand
  · obtain ⟨⟨id, session⟩, held, has⟩ := List.mem_filterMap.1 (Multiset.mem_coe.1 inSession)
    have found := Table.get?_of_mem orderly.distinct held
    have none := (empty found).1
    rw [Hub.context?, found, Option.bind_some] at none
    cases has.symm.trans none
  · obtain ⟨point, started, has⟩ := List.mem_filterMap.1 (Multiset.mem_coe.1 inHand)
    -- whoever ends a context closes its session
    have nobody {id : ConnectionId} {role : Role} (busy : point.business = some (id, role))
        (closes : role.closes = true) : False := by
      have among := mem_rolesAt.2 ⟨point, started, busy⟩
      have settled : role ≠ .opening := by
        rintro rfl
        cases closes
      obtain ⟨session, found⟩ := orderly.sound.exists_session among settled
      have none := (empty found).2 role among
      rw [closes] at none
      cases none
    cases point with
    | publishing id own transport =>
      cases has
      exact ⟨id, orderly.new _ started⟩
    | releasing id own rest => exact (nobody rfl rfl).elim
    | ending id own rest => exact (nobody rfl rfl).elim
    | _ => cases has

end World

end Inspector.Interleaving
