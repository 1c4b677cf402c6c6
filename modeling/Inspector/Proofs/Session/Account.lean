import Mathlib.Data.Multiset.Count
import Inspector.Proofs.Session.Stage

/-!
# The account of one connection

All that interleaved operations do to one connection, without the connections beside it: a small
protocol of its own. An account says how far the connection has come, and what the operations on
it are at. `Move` has one rule for each step that changes an account.

The invariant (`Account.Balanced`) is kept in balances. At each moment exactly one holds a live
session: the hub, where it can be found, or the one who took it out. Likewise one operation at most
is to close a session, and it has the context if the session has lost it. A step that takes
something away on one side of an equation puts it back on the same side, or takes it away on the
other side as well (`Balanced.of_move`).
-/

namespace Inspector

namespace Interleaving

/-! ## Accounts -/

/-- What the lock of a session is wanted for. -/
inductive Side where
  | closer | request
deriving DecidableEq

/-- What an operation does with a connection. -/
inductive Role where
  /-- It has the number, and no session yet. -/
  | opening
  /-- It has taken the session out. -/
  | removed
  | locking (side : Side)
  | waiting (side : Side) (ticket : Ticket)
  | holding (side : Side)
  /-- It has taken the context, if there was one, and not released the lock. -/
  | releasing (full : Bool)
  | ending (full : Bool)
  | ended
  | handling
  | leaving
deriving DecidableEq

namespace Role

/-- The session is closing, and this operation closes it. -/
@[simp] def closes : Role → Bool
  | locking .closer | waiting .closer _ | holding .closer | releasing _ | ending _ | ended => true
  | _ => false

/-- The session is this operation's to close, and its context is still there. -/
@[simp] def keeps : Role → Bool
  | removed | locking .closer | waiting .closer _ | holding .closer => true
  | _ => false

/-- The operation has the lock. -/
@[simp] def holds : Role → Bool
  | holding _ | releasing _ | handling | leaving => true
  | _ => false

/-- The operation waits with a ticket. -/
@[simp] def waitsWith (ticket : Ticket) : Role → Bool
  | waiting _ own => own = ticket
  | _ => false

/-- The operation closes a session whose context it did not find. -/
@[simp] def isEmptyHanded : Role → Bool
  | releasing false | ending false => true
  | _ => false

/-- How many roles are of a kind. -/
def number (kind : Role → Bool) (roles : Multiset Role) : Nat :=
  roles.countP (kind ·)

@[simp] theorem number_cons (kind : Role → Bool) (role : Role) (roles : Multiset Role) :
    number kind (role ::ₘ roles) = number kind roles + (kind role).toNat := by
  rw [number, number, Multiset.countP_cons]
  cases kind role <;> rfl

@[simp] theorem number_zero (kind : Role → Bool) : number kind 0 = 0 :=
  Multiset.countP_zero _

theorem number_pos {kind : Role → Bool} {roles : Multiset Role} :
    0 < number kind roles ↔ ∃ role ∈ roles, kind role = true :=
  Multiset.countP_pos

theorem number_handling_le (roles : Multiset Role) :
    number (· = .handling) roles ≤ number holds roles := by
  induction roles using Multiset.induction_on with
  | empty => rfl
  | cons role roles ih =>
    have one : (decide (role = .handling)).toNat ≤ (holds role).toNat := by
      cases role <;> simp
    rw [number_cons, number_cons]
    exact Nat.add_le_add ih one

/-- Who closes a session still has the context before it, is ending it, or has ended it. -/
theorem number_keeps_le (roles : Multiset Role) :
    number keeps roles + (number (· = .ending true) roles + number (· = .ended) roles) ≤
      number (· = .removed) roles + number closes roles := by
  induction roles using Multiset.induction_on with
  | empty => rfl
  | cons role roles ih =>
    have one : (keeps role).toNat +
        ((decide (role = .ending true)).toNat + (decide (role = .ended)).toNat) ≤
        (decide (role = .removed)).toNat + (closes role).toNat := by
      rcases role with _ | _ | ⟨⟨⟩⟩ | ⟨⟨⟩, _⟩ | ⟨⟨⟩⟩ | _ | ⟨⟨⟩⟩ | _ | _ | _ <;> simp
    simp only [number_cons]
    omega

end Role

/-- How far a connection has come. -/
structure Account where
  /-- Whether its number is still to be given out. -/
  fresh : Bool
  -- how often it was told that its number was given out, that its context could not be made, that
  -- its context was ended, and that it was closed
  issued : Nat
  refused : Nat
  tornDown : Nat
  closed : Nat
  /-- How often it is listed among those that can be found. -/
  published : Nat
  session : Option Stage
  /-- What operations do with it. -/
  roles : Multiset Role

namespace Account

/-- The account with one operation more that has a role. -/
@[simp] def and (account : Account) (role : Role) : Account :=
  { account with roles := role ::ₘ account.roles }

/-- The account with its session changed, if there is one. -/
@[simp] def change (account : Account) (f : Stage → Stage) : Account :=
  { account with session := account.session.map f }

end Account

/-! ## Moves -/

open Stage in
/-- The steps of operations, as the account of the connection shows them. -/
inductive Move : Account → Account → Prop
  | issue (a : Account) (fresh : a.fresh = true) :
      Move a ({ a with fresh := false, issued := a.issued + 1 }.and .opening)
  | refuse (a : Account) : Move (a.and .opening) { a with refused := a.refused + 1 }
  | publish (a : Account) :
      Move (a.and .opening)
        { a with
          published := a.published + 1
          session := some { state := .live, present := true, lock := .free } }
  | remove (a : Account) (found : 0 < a.published) :
      Move a ({ a with published := 0 }.and .removed)
  | advance (a : Account) :
      Move (a.and .removed)
        ((a.change fun stage => { stage with state := stage.state.advance .closing }).and
          (.locking .closer))
  | find (a : Account) (live : 0 < inState .live a.session) : Move a (a.and (.locking .request))
  | enter (a : Account) (side : Side) (ticket : Ticket)
      (taken : ((lockOf a.session).acquire ticket).1 = true) :
      Move (a.and (.locking side))
        ((a.change ({ · with lock := ((lockOf a.session).acquire ticket).2 })).and
          (.holding side))
  | queue (a : Account) (side : Side) (ticket : Ticket)
      (taken : ((lockOf a.session).acquire ticket).1 = false) :
      Move (a.and (.locking side))
        ((a.change ({ · with lock := ((lockOf a.session).acquire ticket).2 })).and
          (.waiting side ticket))
  | takeUp (a : Account) (side : Side) (ticket : Ticket)
      (taken : ((lockOf a.session).takeUp ticket).1 = true) :
      Move (a.and (.waiting side ticket))
        ((a.change ({ · with lock := ((lockOf a.session).takeUp ticket).2 })).and
          (.holding side))
  | take (a : Account) :
      Move (a.and (.holding .closer))
        ((a.change ({ · with present := false })).and
          (.releasing (a.session.any (·.present))))
  | release (a : Account) (full : Bool) :
      Move (a.and (.releasing full))
        ((a.change ({ · with lock := (lockOf a.session).release })).and (.ending full))
  | tearDown (a : Account) :
      Move (a.and (.ending true)) ({ a with tornDown := a.tornDown + 1 }.and .ended)
  | passOver (a : Account) : Move (a.and (.ending false)) (a.and .ended)
  | conclude (a : Account) :
      Move (a.and .ended)
        { a.change fun stage => { stage with state := stage.state.advance .closed } with
          closed := a.closed + 1 }
  | letIn (a : Account) (present : 0 < withContext a.session)
      (live : 0 < inState .live a.session) :
      Move (a.and (.holding .request)) (a.and .handling)
  | turnAway (a : Account) : Move (a.and (.holding .request)) (a.and .leaving)
  | handle (a : Account) : Move (a.and .handling) (a.and .leaving)
  | leave (a : Account) :
      Move (a.and .leaving) (a.change ({ · with lock := (lockOf a.session).release }))

/-! ## The balances -/

namespace Account

open Stage Role

/-- What holds of the account of a connection at any time. -/
structure Balanced (a : Account) : Prop where
  issued : a.issued + a.fresh.toNat ≤ 1
  /-- Whoever was given the number is still at work, has failed, or has made the session. -/
  opened : number (· = .opening) a.roles + a.refused + existing a.session = a.issued
  /-- Without a session there is nothing to be done but to open it. -/
  known : existing a.session = 0 → number (· ≠ .opening) a.roles = 0
  /-- A live session can be found, or has just been taken out. -/
  live : inState .live a.session = a.published + number (· = .removed) a.roles
  /-- A session that is closing has one who closes it. -/
  closing : inState .closing a.session = number closes a.roles
  closed : inState .closed a.session = a.closed
  /-- The context is there until the one who closes the session takes it. -/
  present : withContext a.session = a.published + number keeps a.roles
  tornDown : a.tornDown = number (· = .ended) a.roles + a.closed
  /-- The lock knows whether somebody has it. -/
  held : (lockOf a.session).isHeld.toNat = number holds a.roles
  handled : number (· = .handling) a.roles ≤ withContext a.session
  /-- Whoever closes a session finds its context. -/
  emptyHanded : number isEmptyHanded a.roles = 0

/-- Who waits for the lock stands in its queue, and nobody else does. -/
def Queued (a : Account) : Prop :=
  ∀ ticket, (lockOf a.session).queue.count ticket = number (waitsWith ticket) a.roles

end Account

namespace Account

open Stage Role

/-! ## What follows for one who has a role -/

variable {a b : Account} {role : Role}

theorem Balanced.exists_stage (balanced : (a.and role).Balanced) (busy : role ≠ .opening) :
    ∃ state present lock, a.session = some { state, present, lock } := by
  have known := balanced.known
  have existing : 0 < existing a.session := by
    simp [busy] at known
    omega
  obtain ⟨⟨state, present, lock⟩, session⟩ := existing_pos.1 existing
  exact ⟨state, present, lock, session⟩

theorem Balanced.exists_live (balanced : (a.and .removed).Balanced) :
    ∃ present lock, a.session = some { state := .live, present, lock } := by
  have live := balanced.live
  rw [← inState_pos]
  simp at live
  omega

theorem Balanced.exists_closing (balanced : (a.and .ended).Balanced) :
    ∃ present lock, a.session = some { state := .closing, present, lock } := by
  have closing := balanced.closing
  rw [← inState_pos]
  simp at closing
  omega

theorem Balanced.exists_held (balanced : (a.and role).Balanced) (holder : role.holds = true) :
    ∃ state present waiting, a.session = some { state, present, lock := .held waiting } := by
  have held := balanced.held
  simp only [and, number_cons, holder, Bool.toNat_true] at held
  rcases session : a.session with _ | ⟨state, present, lock⟩
  · simp [session] at held
  · cases lock with
    | held waiting => exact ⟨state, present, waiting, rfl⟩
    | _ => simp [session] at held

theorem Balanced.exists_free {side : Side} {ticket : Ticket}
    (balanced : (a.and (.locking side)).Balanced)
    (taken : ((lockOf a.session).acquire ticket).1 = true) :
    ∃ state present, a.session = some { state, present, lock := .free } := by
  obtain ⟨state, present, lock, session⟩ := balanced.exists_stage nofun
  have free := Lock.eq_free_of_acquire taken
  rw [session, lockOf_some] at free
  subst free
  exact ⟨state, present, session⟩

theorem Balanced.exists_handed {side : Side} {ticket : Ticket}
    (balanced : (a.and (.waiting side ticket)).Balanced)
    (taken : ((lockOf a.session).takeUp ticket).1 = true) :
    ∃ state present waiting,
      a.session = some { state, present, lock := .handed ticket waiting } := by
  obtain ⟨state, present, lock, session⟩ := balanced.exists_stage nofun
  obtain ⟨waiting, handed⟩ := Lock.eq_handed_of_takeUp taken
  rw [session, lockOf_some] at handed
  subst handed
  exact ⟨state, present, waiting, session⟩

theorem Balanced.session_eq_none (balanced : (a.and .opening).Balanced) : a.session = none := by
  have issued := balanced.issued
  have opened := balanced.opened
  rw [← existing_eq_zero]
  simp at issued opened
  omega

/-! ## Moves keep the balances -/

theorem Balanced.of_move (balanced : a.Balanced) (move : Move a b) : b.Balanced := by
  have ⟨issued, opened, known, live, closing, closed, present, tornDown, held, handled, empty⟩ :=
    balanced
  -- in each case: what the session is, as far as the step depends on it, and then the sums
  cases move with
  | issue _ fresh =>
    simp [fresh] at *
    constructor <;> simp <;> omega
  | refuse a =>
    simp at *
    constructor <;> simp <;> omega
  | publish a =>
    have none := balanced.session_eq_none
    simp [none] at *
    constructor <;> simp <;> omega
  | remove a found =>
    -- it is listed, so it is live, and nobody else has taken it out
    obtain ⟨has, lock, session⟩ := inState_pos.1 (by omega : 0 < inState .live a.session)
    have one := Bool.toNat_le has
    simp [session] at *
    constructor <;> simp <;> omega
  | advance a =>
    obtain ⟨has, lock, session⟩ := balanced.exists_live
    simp [session, SessionState.advance, SessionState.rank] at *
    constructor <;> simp <;> omega
  | find a found =>
    obtain ⟨has, lock, session⟩ := inState_pos.1 found
    simp [session] at *
    constructor <;> simp <;> omega
  | enter a side ticket taken =>
    obtain ⟨state, has, session⟩ := balanced.exists_free taken
    cases side <;> simp [session] at * <;> constructor <;> simp <;> omega
  | queue a side ticket taken =>
    obtain ⟨state, has, lock, session⟩ := balanced.exists_stage nofun
    have same := congrArg Bool.toNat (Lock.acquire_queued taken).1
    cases side <;> simp [session] at * <;> constructor <;> simp <;> omega
  | takeUp a side ticket taken =>
    obtain ⟨state, has, waiting, session⟩ := balanced.exists_handed taken
    cases side <;> simp [session] at * <;> constructor <;> simp <;> omega
  | take a =>
    obtain ⟨state, has, waiting, session⟩ := balanced.exists_held rfl
    have one := Bool.toNat_le has
    have there : has = true := by
      rw [← Bool.toNat_eq_one]
      simp [session] at present
      omega
    -- whoever runs a handler has the lock, and here another has it
    have alone := number_handling_le a.roles
    simp [session, there] at *
    constructor <;> simp <;> omega
  | release a has =>
    obtain ⟨state, present, waiting, session⟩ := balanced.exists_held rfl
    cases has with
    | false => simp at empty
    | true =>
      simp [session] at *
      constructor <;> simp <;> omega
  | tearDown a =>
    simp at *
    constructor <;> simp <;> omega
  | passOver a =>
    -- nobody who closes a session comes away without its context
    simp at empty
  | conclude a =>
    obtain ⟨has, lock, session⟩ := balanced.exists_closing
    simp [session, SessionState.advance, SessionState.rank] at *
    constructor <;> simp <;> omega
  | letIn a there found =>
    have one := Bool.toNat_le (lockOf a.session).isHeld
    have alone := number_handling_le a.roles
    simp at *
    constructor <;> simp <;> omega
  | turnAway a =>
    simp at *
    constructor <;> simp <;> omega
  | handle a =>
    simp at *
    constructor <;> simp <;> omega
  | leave a =>
    obtain ⟨state, present, waiting, session⟩ := balanced.exists_held rfl
    simp [session] at *
    constructor <;> simp <;> omega

theorem Queued.of_move (queued : a.Queued) (balanced : a.Balanced) (move : Move a b) :
    b.Queued := by
  intro other
  have before := queued other
  cases move with
  | publish a =>
    -- a session that is made has no one waiting for it, since there was none before
    have none := balanced.session_eq_none
    simpa [none] using before
  | enter a side ticket taken =>
    obtain ⟨state, has, session⟩ := balanced.exists_free taken
    simpa [session] using before
  | queue a side ticket taken =>
    obtain ⟨state, has, lock, session⟩ := balanced.exists_stage nofun
    have longer := (Lock.acquire_queued taken).2
    rw [session, lockOf_some] at longer
    have one : List.count other [ticket] = (decide (ticket = other)).toNat := by
      by_cases same : ticket = other <;> simp [same]
    simp [session] at before
    simp [session, longer, before, one]
  | takeUp a side ticket taken =>
    obtain ⟨state, has, waiting, session⟩ := balanced.exists_handed taken
    by_cases same : ticket = other
    · simpa [session, same] using before
    · simpa [session, same] using before
  | release a has =>
    obtain ⟨state, has, lock, session⟩ := balanced.exists_stage nofun
    simpa [session] using before
  | leave a =>
    obtain ⟨state, has, lock, session⟩ := balanced.exists_stage nofun
    simpa [session] using before
  | _ => simpa using before

/-! ## What the balances say -/

theorem Balanced.issued_le_one (balanced : a.Balanced) : a.issued ≤ 1 :=
  Nat.le_trans (Nat.le_add_right _ _) balanced.issued

theorem Balanced.used_of_issued (balanced : a.Balanced) (issued : 0 < a.issued) :
    a.fresh = false := by
  have most := balanced.issued
  cases fresh : a.fresh with
  | false => rfl
  | true =>
    rw [fresh, Bool.toNat_true] at most
    omega

/-- Where no context could be made, there is no session, and none can be found. -/
theorem Balanced.absent_of_refused (balanced : a.Balanced) (refused : 0 < a.refused) :
    a.session = none ∧ a.published = 0 := by
  have issued := balanced.issued
  have opened := balanced.opened
  have live := balanced.live
  have none : a.session = none := existing_eq_zero.1 (by omega)
  rw [none, inState_none] at live
  exact ⟨none, by omega⟩

theorem Balanced.live_of_published (balanced : a.Balanced) (found : 0 < a.published) :
    0 < inState .live a.session ∧ 0 < withContext a.session := by
  have live := balanced.live
  have present := balanced.present
  constructor <;> omega

/-- The context is in the session, where a handler may be running on it, or it is being ended, or
it has been ended. -/
theorem Balanced.context_in_one_place (balanced : a.Balanced) :
    number (· = .handling) a.roles + number (· = .ending true) a.roles + a.tornDown ≤ 1 := by
  obtain ⟨-, -, -, live, closing, closed, present, tornDown, -, handled, -⟩ := balanced
  have states := inState_sum_le_one a.session
  have places := number_keeps_le a.roles
  omega

/-- A close that succeeds has ended the context, and it is the only one. -/
theorem Balanced.closed_le_tornDown (balanced : a.Balanced) : a.closed ≤ a.tornDown := by
  have tornDown := balanced.tornDown
  omega

/-- When nobody is at work on a connection, its session can be found and is live, or it has been
closed, and then its context has been ended. -/
theorem Balanced.at_rest (balanced : a.Balanced) (rest : a.roles = 0) {stage : Stage}
    (session : a.session = some stage) :
    (stage.state = .live ∧ a.published = 1 ∧ a.tornDown = 0) ∨
      (stage.state = .closed ∧ a.published = 0 ∧ a.tornDown = 1 ∧ a.closed = 1) := by
  obtain ⟨-, -, -, live, closing, closed, -, tornDown, -, -, -⟩ := balanced
  rw [session, rest] at live closing
  rw [session] at closed
  rw [rest] at tornDown
  cases known : stage.state <;> simp [known] at live closing closed tornDown ⊢ <;> omega

/-- When nobody has business with a session, its lock is free. -/
theorem Balanced.lock_of_rest (balanced : a.Balanced) (queued : a.Queued) (rest : a.roles = 0) :
    lockOf a.session = .free := by
  have held := balanced.held
  rw [rest, number_zero] at held
  cases lock : lockOf a.session with
  | free => rfl
  | held waiting =>
    rw [lock] at held
    cases held
  | handed next waiting =>
    have first := queued next
    rw [rest, number_zero, lock, Lock.queue_handed, List.count_cons_self] at first
    cases first

/-- The account of a connection of which nothing is known yet. -/
theorem Balanced.initial (fresh : Bool) : Balanced
    { fresh, issued := 0, refused := 0, tornDown := 0, closed := 0, published := 0
      session := none, roles := 0 } := by
  have one := Bool.toNat_le fresh
  constructor <;> simp
  omega

end Account

/-! ## The life of a session -/

open Stage Role

/-- A state of a session, `none` before it is made, and the state that comes after it. -/
inductive Next : Option SessionState → Option SessionState → Prop
  | made : Next none (some .live)
  | closing : Next (some .live) (some .closing)
  | closed : Next (some .closing) (some .closed)

/-- A move leaves the state of the session as it is, or takes it to the next one. -/
theorem Account.Balanced.state_of_move {a b : Account} (balanced : a.Balanced) (move : Move a b) :
    b.session.map (·.state) = a.session.map (·.state) ∨
      Next (a.session.map (·.state)) (b.session.map (·.state)) := by
  cases move with
  | publish a =>
    have none := balanced.session_eq_none
    right
    simpa [none] using Next.made
  | advance a =>
    obtain ⟨has, lock, session⟩ := balanced.exists_live
    right
    simpa [session, SessionState.advance, SessionState.rank] using Next.closing
  | conclude a =>
    obtain ⟨has, lock, session⟩ := balanced.exists_closing
    right
    simpa [session, SessionState.advance, SessionState.rank] using Next.closed
  | _ => left; simp [Function.comp_def]

end Interleaving

end Inspector
