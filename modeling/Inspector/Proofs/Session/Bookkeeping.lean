import Inspector.Proofs.Session.Account
import Inspector.Proofs.Session.Interleaving

/-!
# Keeping the accounts

Each connection of a world has its account. A step of an operation is about one connection: it
leaves the accounts of all others as they are (`Point.step_frame`), and its own changes by a move if
it changes at all (`Point.step_moves`). Hence all accounts are balanced at any time
(`World.Sound.run`).
-/

namespace Inspector.Interleaving

variable {Env Ctx : Type} (provider : ContextProvider Env Ctx)

/-! ## Accounts of a world -/

/-- What an errand wants the lock for. -/
def Errand.side : Errand → Side
  | closing _ => .closer
  | asking _ => .request

namespace Point

/-- The connection that an operation is busy with, and what it does with it. -/
def business : Point Ctx → Option (ConnectionId × Role)
  | allocating _ | listing | removing _ _ | looking _ _ | finished => none
  | creating id _ | publishing id _ _ => some (id, .opening)
  | removed id _ => some (id, .removed)
  | releasing id context _ => some (id, .releasing context.isSome)
  | ending id context _ => some (id, .ending context.isSome)
  | ended id _ => some (id, .ended)
  | handling id _ => some (id, .handling)
  | leaving id _ => some (id, .leaving)
  | locking id errand => some (id, .locking errand.side)
  | waiting id ticket errand => some (id, .waiting errand.side ticket)
  | holding id errand => some (id, .holding errand.side)

/-- What operations do with a connection, this one and others. -/
def joined (id : ConnectionId) (others : Multiset Role) (point : Point Ctx) : Multiset Role :=
  match point.business with
  | none => others
  | some (own, role) => if own = id then role ::ₘ others else others

@[simp] theorem joined_closing (id : ConnectionId) (others : Multiset Role)
    (ids : List ConnectionId) : (closing ids : Point Ctx).joined id others = others := by
  cases ids <;> rfl

end Point

/-- What operations do with a connection. -/
def rolesAt (id : ConnectionId) : List (Point Ctx) → Multiset Role
  | [] => 0
  | point :: rest => point.joined id (rolesAt id rest)

/-- The account of a connection. -/
def accountOf (hub : Hub Env Ctx) (history : History) (id : ConnectionId)
    (roles : Multiset Role) : Account where
  fresh := hub.nextId.ble id
  issued := history.count (id, .issued)
  refused := history.count (id, .refused)
  tornDown := history.count (id, .tornDown)
  closed := history.count (id, .closed (.ok ()))
  published := hub.published.count id
  session := hub.stage? id
  roles

open Stage

namespace Point

variable {provider} {hub hub' : Hub Env Ctx} {point point' : Point Ctx} {events : History}

/-- The connection that the next step of an operation is about. -/
def about (hub : Hub Env Ctx) : Point Ctx → Option ConnectionId
  | allocating _ => some hub.nextId
  | listing | finished => none
  | creating id _ | publishing id _ _ | removing id _ | removed id _ | releasing id _ _
  | ending id _ _ | ended id _ | looking id _ | handling id _ | leaving id _ | locking id _
  | waiting id _ _ | holding id _ => some id

/-- A step leaves the accounts of all other connections as they are. -/
theorem step_frame (stepped : point.step provider hub = (hub', point', events))
    {id : ConnectionId} (other : point.about hub ≠ some id) (history : History)
    (others : Multiset Role) :
    accountOf hub' (history ++ events) id (point'.joined id others) =
      accountOf hub history id (point.joined id others) := by
  have differ {own : ConnectionId} (about : point.about hub = some own) : own ≠ id := by
    rintro rfl
    exact other about
  cases point with
  | allocating transport =>
    have here := differ rfl
    have later : Nat.ble (hub.nextId + 1) id = Nat.ble hub.nextId id := by
      rw [Bool.eq_iff_iff, Nat.ble_eq, Nat.ble_eq]
      exact ⟨Nat.le_of_succ_le, fun most => Nat.lt_of_le_of_ne most here⟩
    cases stepped
    simp [accountOf, joined, business, later, here]
  | creating own transport =>
    have here := differ rfl
    rw [step] at stepped
    split at stepped <;> cases stepped <;> simp [accountOf, joined, business, here]
  | listing =>
    cases stepped
    rw [joined_closing]
    simp [accountOf, joined, business]
  | removing own rest =>
    have here := differ rfl
    rw [step] at stepped
    split at stepped <;> cases stepped
    · simp [accountOf, joined, business, here]
    · rw [joined_closing]
      simp [accountOf, joined, business, here]
  | ending own context rest =>
    have here := differ rfl
    cases context <;> cases stepped <;> simp [accountOf, joined, business, here]
  | ended own rest =>
    have here := differ rfl
    cases stepped
    rw [joined_closing]
    simp [accountOf, joined, business, here]
  | looking own request =>
    have here := differ rfl
    rw [step] at stepped
    split at stepped <;> cases stepped <;> simp [accountOf, joined, business, here]
  | handling own request =>
    have here := differ rfl
    rw [step] at stepped
    split at stepped <;> cases stepped <;> simp [accountOf, joined, business, here]
  | locking own errand =>
    have here := differ rfl
    cases taken : ((hub.lock own).acquire hub.nextTicket).1 with
    | true =>
      rw [step, Hub.acquire_of_taken _ _ taken] at stepped
      cases stepped
      simp [accountOf, joined, business, here]
    | false =>
      rw [step, Hub.acquire_of_queued _ _ taken] at stepped
      cases stepped
      simp [accountOf, joined, business, here]
  | waiting own ticket errand =>
    have here := differ rfl
    rw [step, Hub.takeUp_eq] at stepped
    cases taken : ((hub.lock own).takeUp ticket).1 <;> rw [taken] at stepped <;> cases stepped <;>
      simp [accountOf, joined, business, here]
  | holding own errand =>
    have here := differ rfl
    cases errand with
    | closing rest =>
      cases stepped
      simp [accountOf, joined, business, here]
    | asking request =>
      rw [step] at stepped
      split at stepped <;> cases stepped <;> simp [accountOf, joined, business, here]
  | finished =>
    cases stepped
    simp [accountOf, joined, business]
  | _ =>
    have here := differ rfl
    cases stepped
    simp [accountOf, joined, business, Hub.unlock, here]

/-- A step shows in the account of the connection that it is about as a move, or not at all. -/
theorem step_moves (stepped : point.step provider hub = (hub', point', events))
    {id : ConnectionId} (own : point.about hub = some id) (history : History)
    (others : Multiset Role) :
    accountOf hub' (history ++ events) id (point'.joined id others) =
        accountOf hub history id (point.joined id others) ∨
      Move (accountOf hub history id (point.joined id others))
        (accountOf hub' (history ++ events) id (point'.joined id others)) := by
  cases point with
  | allocating transport =>
    cases own
    cases stepped
    right
    have move := Move.issue (accountOf hub history hub.nextId others) (by simp [accountOf])
    have used : Nat.ble (hub.nextId + 1) hub.nextId = false := by simp [← Bool.not_eq_true]
    simpa [accountOf, joined, business, used] using move
  | creating own' transport =>
    cases own
    rw [step] at stepped
    split at stepped <;> cases stepped
    · right
      simpa [accountOf, joined, business] using Move.refuse (accountOf hub history id others)
    · left
      simp [accountOf, joined, business]
  | publishing own' context transport =>
    cases own
    cases stepped
    right
    simpa [accountOf, joined, business] using Move.publish (accountOf hub history id others)
  | listing => cases own
  | removing own' rest =>
    cases own
    rw [step] at stepped
    split at stepped <;> cases stepped
    · rename_i found
      right
      have positive : 0 < hub.published.count id := by
        rwa [List.count_pos_iff, ← List.contains_iff_mem]
      simpa [accountOf, joined, business] using
        Move.remove (accountOf hub history id others) positive
    · left
      rw [joined_closing]
      simp [accountOf, joined, business]
  | removed own' rest =>
    cases own
    cases stepped
    right
    simpa [accountOf, joined, business, Errand.side] using
      Move.advance (accountOf hub history id others)
  | releasing own' context rest =>
    cases own
    cases stepped
    right
    simpa [accountOf, joined, business, Hub.unlock, Hub.lock_eq] using
      Move.release (accountOf hub history id others) context.isSome
  | ending own' context rest =>
    cases own
    right
    cases context with
    | none =>
      cases stepped
      simpa [accountOf, joined, business] using Move.passOver (accountOf hub history id others)
    | some context =>
      cases stepped
      simpa [accountOf, joined, business] using Move.tearDown (accountOf hub history id others)
  | ended own' rest =>
    cases own
    cases stepped
    right
    rw [joined_closing]
    simpa [accountOf, joined, business] using Move.conclude (accountOf hub history id others)
  | looking own' request =>
    cases own
    rw [step] at stepped
    split at stepped <;> cases stepped
    · rename_i found
      right
      simpa [accountOf, joined, business, Errand.side] using
        Move.find (accountOf hub history id others) (Hub.live_of_isOpen found)
    · left
      simp [accountOf, joined, business]
  | handling own' request =>
    cases own
    right
    have move := Move.handle (accountOf hub history id others)
    rw [step] at stepped
    split at stepped <;> cases stepped
    · simpa [accountOf, joined, business] using move
    · rename_i context has
      have same := Hub.map_setPresent_stage? has
      simpa [accountOf, joined, business, same] using move
  | leaving own' result =>
    cases own
    cases stepped
    right
    simpa [accountOf, joined, business, Hub.unlock, Hub.lock_eq] using
      Move.leave (accountOf hub history id others)
  | locking own' errand =>
    cases own
    right
    cases taken : ((hub.lock id).acquire hub.nextTicket).1 with
    | true =>
      rw [step, Hub.acquire_of_taken _ _ taken] at stepped
      cases stepped
      rw [Hub.lock_eq] at taken
      simpa [accountOf, joined, business, Hub.lock_eq] using
        Move.enter (accountOf hub history id others) errand.side hub.nextTicket taken
    | false =>
      rw [step, Hub.acquire_of_queued _ _ taken] at stepped
      cases stepped
      rw [Hub.lock_eq] at taken
      simpa [accountOf, joined, business, Hub.lock_eq] using
        Move.queue (accountOf hub history id others) errand.side hub.nextTicket taken
  | waiting own' ticket errand =>
    cases own
    rw [step, Hub.takeUp_eq] at stepped
    cases taken : ((hub.lock id).takeUp ticket).1 with
    | true =>
      rw [taken] at stepped
      cases stepped
      right
      rw [Hub.lock_eq] at taken
      simpa [accountOf, joined, business, Hub.lock_eq] using
        Move.takeUp (accountOf hub history id others) errand.side ticket taken
    | false =>
      rw [taken] at stepped
      cases stepped
      left
      rw [Lock.takeUp_missed taken, Hub.lock_eq]
      simp [accountOf, joined, business]
  | holding own' errand =>
    cases own
    right
    cases errand with
    | closing rest =>
      cases stepped
      simpa [accountOf, joined, business, Hub.isSome_context?, Errand.side] using
        Move.take (accountOf hub history id others)
    | asking request =>
      rw [step] at stepped
      split at stepped <;> cases stepped
      · rename_i able
        obtain ⟨present, live⟩ := Hub.of_canHandle able
        simpa [accountOf, joined, business, Errand.side] using
          Move.letIn (accountOf hub history id others) present live
      · simpa [accountOf, joined, business, Errand.side] using
          Move.turnAway (accountOf hub history id others)
  | finished => cases own

end Point

/-! ## Worlds -/

theorem Point.joined_comm (id : ConnectionId) (others : Multiset Role) (first second : Point Ctx) :
    first.joined id (second.joined id others) = second.joined id (first.joined id others) := by
  unfold joined
  rcases first.business with _ | ⟨own, role⟩
  · rfl
  · rcases second.business with _ | ⟨own', role'⟩
    · rfl
    · dsimp only
      split <;> split <;> first | rfl | exact Multiset.cons_swap _ _ _

/-- The operations on a connection, one of them set apart. -/
theorem rolesAt_set {tasks : List (Point Ctx)} {task : Nat} {point : Point Ctx}
    (found : tasks[task]? = some point) (id : ConnectionId) :
    ∃ others, rolesAt id tasks = point.joined id others ∧
      ∀ next : Point Ctx, rolesAt id (tasks.set task next) = next.joined id others := by
  induction tasks generalizing task with
  | nil => simp at found
  | cons first rest ih =>
    cases task with
    | zero =>
      obtain rfl : first = point := by simpa using found
      exact ⟨rolesAt id rest, rfl, fun _ => rfl⟩
    | succ task =>
      obtain ⟨others, before, after⟩ := ih (by simpa using found)
      refine ⟨first.joined id others, ?_, fun next => ?_⟩
      · rw [rolesAt, before, Point.joined_comm]
      · rw [List.set_cons_succ, rolesAt, after, Point.joined_comm]

theorem rolesAt_launch (id : ConnectionId) (tasks : List (Point Ctx)) {point : Point Ctx}
    (idle : point.business = none) : rolesAt id (tasks ++ [point]) = rolesAt id tasks := by
  induction tasks with
  | nil => simp [rolesAt, Point.joined, idle]
  | cons first rest ih => rw [List.cons_append, rolesAt, rolesAt, ih]

namespace World

/-- The account of a connection. -/
def account (world : World Env Ctx) (id : ConnectionId) : Account :=
  accountOf world.hub world.history id (rolesAt id world.tasks)

theorem account_launch (world : World Env Ctx) (id : ConnectionId) {point : Point Ctx}
    (idle : point.business = none) : (world.launch point).account id = world.account id := by
  rw [account, account, launch, rolesAt_launch id _ idle]

theorem step_moves (world : World Env Ctx) (action : Action Env) (id : ConnectionId) :
    (world.step provider action).account id = world.account id ∨
      Move (world.account id) ((world.step provider action).account id) := by
  cases action with
  | connect transport => exact .inl (world.account_launch id rfl)
  | disconnect ids => exact .inl (world.account_launch id (by cases ids <;> rfl))
  | disconnectAll => exact .inl (world.account_launch id rfl)
  | message own request => exact .inl (world.account_launch id rfl)
  | outside env transports tickets => exact .inl rfl
  | proceed task =>
    cases found : world.tasks[task]? with
    | none =>
      rw [step, found]
      exact .inl rfl
    | some point =>
      obtain ⟨others, before, after⟩ := rolesAt_set found id
      rw [step, found]
      simp only [account, moved, before, after]
      by_cases own : point.about world.hub = some id
      · exact Point.step_moves rfl own _ _
      · exact .inl (Point.step_frame rfl own _ _)

/-- All accounts are balanced, and who waits for a lock stands in its queue. -/
def Sound (world : World Env Ctx) : Prop :=
  ∀ id, (world.account id).Balanced ∧ (world.account id).Queued

theorem initial_sound (env : Env) : (initial env : World Env Ctx).Sound :=
  fun id => ⟨.initial (Nat.ble 1 id), fun _ => rfl⟩

variable {provider}

theorem Sound.step {world : World Env Ctx} (sound : world.Sound) (action : Action Env) :
    (world.step provider action).Sound := by
  intro id
  obtain ⟨balanced, queued⟩ := sound id
  rcases world.step_moves provider action id with same | move
  · rw [same]
    exact ⟨balanced, queued⟩
  · exact ⟨balanced.of_move move, queued.of_move balanced move⟩

theorem Sound.run {world : World Env Ctx} (sound : world.Sound) (actions : List (Action Env)) :
    (world.run provider actions).Sound := by
  induction actions generalizing world with
  | nil => exact sound
  | cons action actions ih => exact ih (sound.step action)

end World

end Inspector.Interleaving
