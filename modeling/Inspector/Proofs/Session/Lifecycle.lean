import Inspector.Proofs.Session.Bookkeeping

/-!
# The life of sessions under any interleaving

However the steps of any number of operations are interleaved, a number is given out once, what
can be found is live, a session's state only goes forward, and its context is ended once: by the one
attempt to close it that succeeds, and while no handler is running.
-/

namespace Inspector.Interleaving

open Stage Role

variable {Env Ctx : Type} {provider : ContextProvider Env Ctx}

namespace Point

/-- Whether an operation waits and has to wait on. -/
def isBlocked (hub : Hub Env Ctx) : Point Ctx → Bool
  | waiting id ticket _ => !(hub.takeUp id ticket).1
  | _ => false

/-- A step gives out one number at most. -/
theorem nextId_step_le (hub : Hub Env Ctx) (point : Point Ctx) :
    (point.step provider hub).1.nextId ≤ hub.nextId + 1 := by
  have same : hub.nextId ≤ hub.nextId + 1 := Nat.le_succ _
  cases point with
  | allocating transport => exact Nat.le_refl _
  | ending id context rest => cases context <;> exact same
  | holding id errand =>
    cases errand with
    | closing rest => exact same
    | asking request =>
      rw [step]
      split <;> exact same
  | locking id errand =>
    cases taken : ((hub.lock id).acquire hub.nextTicket).1 with
    | true =>
      rw [step, Hub.acquire_of_taken _ _ taken]
      exact same
    | false =>
      rw [step, Hub.acquire_of_queued _ _ taken]
      exact same
  | creating id transport =>
    rw [step]
    split <;> exact same
  | removing id rest =>
    rw [step]
    split <;> exact same
  | looking id request =>
    rw [step]
    split <;> exact same
  | handling id request =>
    rw [step]
    split <;> exact same
  | waiting id ticket errand =>
    rw [step, Hub.takeUp_eq]
    cases ((hub.lock id).takeUp ticket).1 <;> exact same
  | _ => exact same

theorem waiting_of_isBlocked {hub : Hub Env Ctx} {point : Point Ctx}
    (blocked : point.isBlocked hub = true) :
    ∃ id ticket errand, point = waiting id ticket errand := by
  cases point with
  | waiting id ticket errand => exact ⟨id, ticket, errand, rfl⟩
  | _ => cases blocked

end Point

namespace World

variable {world : World Env Ctx}

/-! ## What the accounts say -/

/-- How many operations have a role with a connection. -/
def count (world : World Env Ctx) (id : ConnectionId) (role : Role) : Nat :=
  world.tasks.countP (·.business = some (id, role))

theorem number_rolesAt (id : ConnectionId) (role : Role) (tasks : List (Point Ctx)) :
    number (· = role) (rolesAt id tasks) = tasks.countP (·.business = some (id, role)) := by
  induction tasks with
  | nil => rfl
  | cons point rest ih =>
    rw [rolesAt, Point.joined, List.countP_cons, ← ih]
    rcases point.business with _ | ⟨own, other⟩
    · simp
    · by_cases same : own = id
      · by_cases like : other = role <;> simp [same, like]
      · simp [same]

theorem mem_rolesAt {id : ConnectionId} {role : Role} {tasks : List (Point Ctx)} :
    role ∈ rolesAt id tasks ↔ ∃ point ∈ tasks, point.business = some (id, role) := by
  induction tasks with
  | nil => simp [rolesAt]
  | cons point rest ih =>
    simp only [rolesAt, Point.joined, List.mem_cons, exists_eq_or_imp, ← ih]
    rcases point.business with _ | ⟨own, other⟩
    · simp
    · by_cases same : own = id
      · simp [same, eq_comm]
      · simp [same]

/-- Whoever was given a number without coming to a context has made nothing known. -/
theorem Sound.absent_of_refused (sound : world.Sound) {id : ConnectionId}
    (refused : (id, .refused) ∈ world.history) :
    world.hub.state? id = none ∧ id ∉ world.hub.published := by
  obtain ⟨none, unlisted⟩ := (sound id).1.absent_of_refused (List.count_pos_iff.2 refused)
  constructor
  · rw [Hub.state?_eq]
    exact congrArg (Option.map (·.state)) none
  · exact List.count_eq_zero.1 unlisted

theorem Sound.live_of_published (sound : world.Sound) {id : ConnectionId}
    (found : id ∈ world.hub.published) :
    world.hub.state? id = some .live ∧ (world.hub.context? id).isSome = true := by
  obtain ⟨live, present⟩ := (sound id).1.live_of_published (List.count_pos_iff.2 found)
  exact ⟨(Hub.state?_eq_some_live _ _).2 live, Hub.isSome_context?_of_pos present⟩

/-- The state of a session stays as it is or goes on to the next. -/
theorem Sound.state_step (sound : world.Sound) (action : Action Env) (id : ConnectionId) :
    (world.step provider action).hub.state? id = world.hub.state? id ∨
      Next (world.hub.state? id) ((world.step provider action).hub.state? id) := by
  rw [Hub.state?_eq, Hub.state?_eq]
  rcases world.step_moves provider action id with same | move
  · exact .inl (congrArg (fun account => account.session.map (·.state)) same)
  · exact (sound id).1.state_of_move move

theorem Sound.context_in_one_place (sound : world.Sound) (id : ConnectionId) :
    world.count id .handling + world.count id (.ending true) +
      world.history.count (id, .tornDown) ≤ 1 := by
  rw [count, count, ← number_rolesAt, ← number_rolesAt]
  exact (sound id).1.context_in_one_place

/-- When all operations are over, nobody has business with a session. -/
theorem rolesAt_of_rest (rest : ∀ point ∈ world.tasks, point = .finished) (id : ConnectionId) :
    rolesAt id world.tasks = 0 := by
  rw [Multiset.eq_zero_iff_forall_notMem]
  intro role busy
  obtain ⟨point, started, business⟩ := mem_rolesAt.1 busy
  rw [rest point started] at business
  cases business

theorem Sound.at_rest (sound : world.Sound) (rest : ∀ point ∈ world.tasks, point = .finished)
    {id : ConnectionId} {state : SessionState} (known : world.hub.state? id = some state) :
    (state = .live ∧ id ∈ world.hub.published ∧ (id, .tornDown) ∉ world.history) ∨
      (state = .closed ∧ id ∉ world.hub.published ∧
        world.history.count (id, .tornDown) = 1 ∧
        world.history.count (id, .closed (.ok ())) = 1) := by
  have idle := rolesAt_of_rest rest id
  rw [Hub.state?_eq, Option.map_eq_some_iff] at known
  obtain ⟨stage, session, rfl⟩ := known
  rcases (sound id).1.at_rest idle session with ⟨live, listed, never⟩ | ⟨closed, unlisted, once⟩
  · refine .inl ⟨live, List.count_pos_iff.1 ?_, List.count_eq_zero.1 never⟩
    exact Nat.lt_of_lt_of_eq Nat.one_pos listed.symm
  · exact .inr ⟨closed, List.count_eq_zero.1 unlisted, once⟩

/-! ## Numbers -/

theorem nextId_step_le (world : World Env Ctx) (action : Action Env) :
    (world.step provider action).hub.nextId ≤ world.hub.nextId + 1 := by
  cases action with
  | proceed task =>
    rw [step]
    split
    · exact Nat.le_succ _
    · exact Point.nextId_step_le _ _
  | _ => exact Nat.le_succ _

theorem nextId_run_le (world : World Env Ctx) (actions : List (Action Env)) :
    (world.run provider actions).hub.nextId ≤ world.hub.nextId + actions.length := by
  induction actions generalizing world with
  | nil => exact Nat.le_refl _
  | cons action actions ih =>
    calc ((world.step provider action).run provider actions).hub.nextId
      _ ≤ (world.step provider action).hub.nextId + actions.length := ih _
      _ ≤ world.hub.nextId + 1 + actions.length :=
        Nat.add_le_add_right (world.nextId_step_le action) _
      _ = world.hub.nextId + (actions.length + 1) := Nat.add_right_comm _ _ _

theorem Sound.lt_nextId_of_issued (sound : world.Sound) {id : ConnectionId}
    (issued : (id, .issued) ∈ world.history) : id < world.hub.nextId := by
  have used : (world.account id).fresh = false :=
    (sound id).1.used_of_issued (List.count_pos_iff.2 issued)
  rw [← Nat.not_le, ← Nat.ble_eq]
  exact ne_true_of_eq_false used

/-! ## Nobody waits for ever -/

/-- Some operation that is not finished can go on: those who wait for a lock wait for one who has
it, or who has been handed it. -/
theorem Sound.exists_unblocked (sound : world.Sound) {point : Point Ctx}
    (started : point ∈ world.tasks) (unfinished : point ≠ .finished) :
    ∃ other ∈ world.tasks, other ≠ .finished ∧ other.isBlocked world.hub = false := by
  cases blocked : point.isBlocked world.hub with
  | false => exact ⟨point, started, unfinished, blocked⟩
  | true =>
    obtain ⟨id, ticket, errand, rfl⟩ := Point.waiting_of_isBlocked blocked
    obtain ⟨balanced, queued⟩ := sound id
    have same : lockOf (world.account id).session = world.hub.lock id := (Hub.lock_eq _ _).symm
    have inQueue := queued ticket
    have waits : 0 < number (waitsWith ticket) (world.account id).roles :=
      number_pos.2 ⟨_, mem_rolesAt.2 ⟨_, started, rfl⟩, decide_eq_true rfl⟩
    cases lock : world.hub.lock id with
    | free =>
      rw [same, lock, Lock.queue_free, List.count_nil] at inQueue
      omega
    | held waiting =>
      -- the one who has the lock is not waiting
      have held := balanced.held
      rw [same, lock, Lock.isHeld_held, Bool.toNat_true] at held
      obtain ⟨role, busy, holds⟩ := number_pos.1 (Nat.lt_of_lt_of_eq Nat.one_pos held)
      obtain ⟨other, present, business⟩ := mem_rolesAt.1 busy
      refine ⟨other, present, ?_, ?_⟩
      · rintro rfl
        cases business
      · rw [Bool.eq_false_iff]
        intro blocked
        obtain ⟨_, _, _, rfl⟩ := Point.waiting_of_isBlocked blocked
        cases business
        cases holds
    | handed next waiting =>
      -- the lock is there for the one who was handed it
      have handed := queued next
      rw [same, lock, Lock.queue_handed, List.count_cons_self] at handed
      obtain ⟨role, busy, waits⟩ := number_pos.1 (Nat.lt_of_lt_of_eq (Nat.succ_pos _) handed)
      obtain ⟨other, present, business⟩ := mem_rolesAt.1 busy
      refine ⟨other, present, ?_, ?_⟩
      · rintro rfl
        cases business
      · rw [Bool.eq_false_iff]
        intro blocked
        obtain ⟨_, own, _, rfl⟩ := Point.waiting_of_isBlocked blocked
        cases business
        obtain rfl : own = next := of_decide_eq_true waits
        simp [Point.isBlocked, Hub.takeUp, lock, Lock.takeUp] at blocked

/-! ## How closing ends -/

/-- Whoever tries to close a session is told that it was closed or that there was none. -/
def Answered (history : History) : Prop :=
  ∀ id result, (id, .closed result) ∈ history → result = .ok () ∨ result = .error (.notFound id)

theorem answered_step (hub : Hub Env Ctx) (point : Point Ctx) :
    Answered (point.step provider hub).2.2 := by
  intro id result told
  cases point with
  | removing own rest =>
    rw [Point.step] at told
    split at told
    · cases told
    · cases List.mem_singleton.1 told
      exact .inr rfl
  | ended own rest =>
    cases List.mem_singleton.1 told
    exact .inl rfl
  | creating own transport =>
    rw [Point.step] at told
    split at told <;> simp at told
  | ending own context rest => cases context <;> simp [Point.step] at told
  | looking own request =>
    rw [Point.step] at told
    split at told <;> simp at told
  | handling own request =>
    rw [Point.step] at told
    split at told <;> simp at told
  | locking own errand =>
    rw [Point.step] at told
    split at told <;> simp at told
  | waiting own ticket errand =>
    rw [Point.step] at told
    split at told <;> simp at told
  | holding own errand =>
    cases errand with
    | closing rest => simp [Point.step] at told
    | asking request =>
      rw [Point.step] at told
      split at told <;> simp at told
  | _ => simp [Point.step] at told

theorem answered_run (actions : List (Action Env)) (answered : Answered world.history) :
    Answered (world.run provider actions).history := by
  induction actions generalizing world with
  | nil => exact answered
  | cons action actions ih =>
    refine ih ?_
    cases action with
    | proceed task =>
      rw [step]
      split
      · exact answered
      · intro id result told
        rcases List.mem_append.1 told with before | now
        · exact answered id result before
        · exact answered_step _ _ id result now
    | _ => exact answered

end World

/-! ## The life of sessions -/

/-- Whatever the steps of operations are interleaved to, for every connection:

* its number is given out once at most and is no larger than the number of steps so far, so that a
  counter of 64 bits does not come round in fewer steps; nothing is published without a context;
* as long as it can be found, its session is live and has its context;
* the state of its session only goes from live to closing and from closing to closed;
* one attempt to close it succeeds at most, and all others are told that there is no session;
* its context is ended once at most, and has been when that attempt is over; no handler is running
  while it is being ended, and none runs afterwards;
* when all operations are over, it can be found and is live, or it is closed and its context has
  been ended;
* unless all operations are over, one of them can go on.

What the hub does when it runs an operation as far as it goes is one of the interleavings. -/
theorem lifecycle_under_any_interleaving (provider : ContextProvider Env Ctx) (env : Env)
    (actions : List (Action Env)) (id : ConnectionId) :
    let world := (World.initial env).run provider actions
    (world.history.count (id, .issued) ≤ 1 ∧
      ((id, .issued) ∈ world.history → id ≤ actions.length) ∧
      ((id, .refused) ∈ world.history →
        world.hub.state? id = none ∧ id ∉ world.hub.published)) ∧
    (id ∈ world.hub.published →
      world.hub.state? id = some .live ∧ (world.hub.context? id).isSome = true) ∧
    (∀ action, (world.step provider action).hub.state? id = world.hub.state? id ∨
      Next (world.hub.state? id) ((world.step provider action).hub.state? id)) ∧
    (world.history.count (id, .closed (.ok ())) ≤ 1 ∧
      ∀ result, (id, .closed result) ∈ world.history →
        result = .ok () ∨ result = .error (.notFound id)) ∧
    (world.count id .handling + world.count id (.ending true) +
        world.history.count (id, .tornDown) ≤ 1 ∧
      world.history.count (id, .closed (.ok ())) ≤ world.history.count (id, .tornDown)) ∧
    ((∀ point ∈ world.tasks, point = .finished) →
      ∀ state, world.hub.state? id = some state →
        (state = .live ∧ id ∈ world.hub.published ∧ (id, .tornDown) ∉ world.history) ∨
          (state = .closed ∧ id ∉ world.hub.published ∧
            world.history.count (id, .tornDown) = 1 ∧
            world.history.count (id, .closed (.ok ())) = 1)) ∧
    (∀ point ∈ world.tasks, point ≠ .finished →
      ∃ other ∈ world.tasks, other ≠ .finished ∧ other.isBlocked world.hub = false) ∧
    ((∀ transport, ∃ more,
        (world.run provider more).hub = (world.hub.connect provider transport).2) ∧
      (∀ operation (point : Point Ctx), Point.ofOperation operation = some point → ∃ more after,
        Point.ofProgress (world.hub.start provider operation).1 = some after ∧
        (world.run provider more).hub = (world.hub.start provider operation).2 ∧
        (world.run provider more).tasks = world.tasks ++ [after]) ∧
      ∀ task suspended point, Point.ofSuspended suspended = some point →
        world.tasks[task]? = some point → ∃ more after,
          Point.ofProgress (world.hub.resume provider suspended).1 = some after ∧
          (world.run provider more).hub = (world.hub.resume provider suspended).2 ∧
          (world.run provider more).tasks = world.tasks.set task after) := by
  intro world
  have sound : world.Sound := (World.initial_sound env).run actions
  have answered : World.Answered world.history := World.answered_run actions nofun
  have once := sound.context_in_one_place id
  have ended := (sound id).1.closed_le_tornDown
  change world.history.count (id, .closed (.ok ())) ≤ world.history.count (id, .tornDown) at ended
  refine ⟨⟨(sound id).1.issued_le_one, fun issued => ?_, sound.absent_of_refused⟩,
    sound.live_of_published,
    fun action => sound.state_step action id, ⟨by omega, answered id⟩, ⟨once, ended⟩,
    fun rest _ known => sound.at_rest rest known, fun _ started => sound.exists_unblocked started,
    ?_, fun _ _ begins => world.exists_start begins,
    fun _ _ _ waits found => World.exists_resume waits found⟩
  · have most : world.hub.nextId ≤ 1 + actions.length := World.nextId_run_le _ actions
    rw [Nat.add_comm] at most
    exact Nat.le_of_lt_succ (Nat.lt_of_lt_of_le (sound.lt_nextId_of_issued issued) most)
  · intro transport
    obtain ⟨more, reached, -⟩ := world.exists_connect transport
    exact ⟨more, reached⟩

/-- Makes contexts for all but the second connection. -/
def picky : ContextProvider Unit Unit where
  create id := if id = 2 then .error "not again" else .ok ()
  handle _ _ request := (.replied request, (), ())
  teardown _ _ := ((), none)
  encodeLine _ := .ok []
  encodeFailure _ _ := []
  streamLogs _ := true

/-- A close that comes while a handler is running waits for it: the session is closing, and its
context has not been ended. -/
theorem lifecycle_of_late_close :
    let world := (World.initial ()).run picky
      [.connect .newRecording, .proceed 0, .proceed 0, .proceed 0,
        .connect .newRecording, .proceed 1, .proceed 1,
        .message 1 [], .proceed 2, .proceed 2, .proceed 2,
        .disconnect [1], .proceed 3, .proceed 3, .proceed 3]
    world.count 1 .handling = 1 ∧ world.hub.state? 1 = some .closing ∧
      (1, .tornDown) ∉ world.history ∧ world.hub.state? 2 = none := by
  intro world
  have handling : world.count 1 .handling = 1 := by decide +kernel
  have refused : (2, .refused) ∈ world.history := by decide +kernel
  obtain ⟨-, -, -, -, ⟨once, -⟩, -⟩ := lifecycle_under_any_interleaving picky () _ 1
  obtain ⟨⟨-, -, absent⟩, -⟩ := lifecycle_under_any_interleaving picky () _ 2
  refine ⟨handling, by decide +kernel, List.count_eq_zero.1 ?_, (absent refused).1⟩
  change world.count 1 .handling + _ + world.history.count (1, .tornDown) ≤ 1 at once
  omega

end Inspector.Interleaving
