import Inspector.Proofs.Gzip.RoundTrip
import Inspector.Proofs.Session.Containment
import Inspector.Proofs.Session.Isolation

/-!
# Requests are answered on their own connection

An exchange is followed through any interleaving. Of all that happens, some steps are its own
(`Own`): those of its request, the second look-up and those of its send. `Deeds` has what is done in
them: the handlers that are run, what is told of the request, and what happens to letters.

* `Course` relates how far an exchange has come to what was done for it. Each step keeps to it
  (`Course.proceed`, `Course.lookUp`, `Course.deliver` for its own steps and `step_foreign` for all
  others), and so does every run (`Course.run`).
* Its own steps change nothing of others, close nothing, and touch no transport but its own
  (`Hub.Confined`).
-/

namespace Inspector

variable {Env Ctx : Type} {provider : ContextProvider Env Ctx}

/-! ## What an exchange leaves alone -/

namespace Hub

/-- Nothing has changed beside the environment, the number of tickets, and of one connection the
context, the lock and the transport, which has taken what was sent and nothing else. -/
structure Confined (id : ConnectionId) (sent : List Bytes) (hub after : Hub Env Ctx) : Prop where
  published : after.published = hub.published
  nextId : after.nextId = hub.nextId
  states : ∀ other, after.state? other = hub.state? other
  sessions : ∀ other, other ≠ id → after.sessions.get? other = hub.sessions.get? other
  transports : ∀ other, other ≠ id → after.transports.get? other = hub.transports.get? other
  own : Option.Rel (·.Took sent ·) (hub.transports.get? id) (after.transports.get? id)

variable {id : ConnectionId} {hub after : Hub Env Ctx}

theorem Within.confined (within : Within [id] hub after) : Confined id [] hub after where
  published := within.published
  nextId := within.nextId
  states := within.state
  sessions other differ := within.others other (by simpa using differ)
  transports other _ := by rw [within.transports]
  own := by
    rw [within.transports]
    exact (Carries.refl id hub).own

theorem Carries.confined {sent : List Bytes} (carries : Carries id sent hub after) :
    Confined id sent hub after where
  published := by rw [carries.only]
  nextId := by rw [carries.only]
  states other := by
    rw [carries.only]
    rfl
  sessions other _ := by rw [carries.only]
  transports := carries.others
  own := carries.own

theorem within_acquire (hub : Hub Env Ctx) (id : ConnectionId) :
    Within [id] hub (hub.acquire id).2 :=
  have counted : Within [id] hub { hub with nextTicket := hub.nextTicket + 1 } :=
    ⟨rfl, rfl, rfl, fun _ _ => rfl, fun _ => rfl⟩
  counted.trans (within_setLock _)

end Hub

namespace Dispatching

open Interleaving

/-! ## What is done for an exchange -/

/-- A handler is run for a connection, on a context and a request. -/
structure Call (Env Ctx : Type) where
  id : ConnectionId
  env : Env
  context : Ctx
  request : Bytes

/-- What a request is replied to when its handler was run. -/
def Call.reply (provider : ContextProvider Env Ctx) (call : Call Env Ctx) : Bytes :=
  provider.reply call.request (provider.handle call.env call.context call.request).1

/-- What was done for an exchange. -/
@[ext] structure Deeds (Env Ctx : Type) where
  calls : List (Call Env Ctx) := []
  /-- What was told of its request. -/
  told : History := []
  /-- What happened to its letters. -/
  posted : Ledger := []

instance : Append (Deeds Env Ctx) where
  append first second :=
    { calls := first.calls ++ second.calls
      told := first.told ++ second.told
      posted := first.posted ++ second.posted }

namespace Deeds

variable (deeds more last : Deeds Env Ctx)

@[simp] theorem calls_append : (deeds ++ more).calls = deeds.calls ++ more.calls := rfl

@[simp] theorem told_append : (deeds ++ more).told = deeds.told ++ more.told := rfl

@[simp] theorem posted_append : (deeds ++ more).posted = deeds.posted ++ more.posted := rfl

theorem append_empty : deeds ++ ({} : Deeds Env Ctx) = deeds := by
  ext1 <;> simp

theorem append_assoc : deeds ++ more ++ last = deeds ++ (more ++ last) := by
  ext1 <;> simp

end Deeds

/-- The handler that is run in the next step of an operation. -/
def callsAt (hub : Hub Env Ctx) : Point Ctx → List (Call Env Ctx)
  | .handling id request =>
    (hub.context? id).toList.map fun context => { id, env := hub.env, context, request }
  | _ => []

/-- The steps of the exchange of a number, whose request is the operation `task`. -/
inductive Own (number task : Nat) : Action Env → Prop
  | proceed : Own number task (.traffic (.operation (.proceed task)))
  | lookUp : Own number task (.lookUp number)
  | deliver : Own number task (.deliver number)

namespace Switchboard

variable (provider) (number task : Nat)

/-- What a step does for the exchange of a number, whose request is the operation `task`. -/
def deedsIn (board : Switchboard Env Ctx) : Action Env → Deeds Env Ctx
  | .traffic (.operation (.proceed own)) =>
    if own = task then
      board.world.tasks[task]?.elim {} fun point =>
        { calls := callsAt board.hub point, told := (point.step provider board.hub).2.2 }
    else {}
  | .deliver own =>
    if own = number then
      board.exchanges[number]?.elim {} fun exchange =>
        { posted := (exchange.deliver board.hub).2.2 }
    else {}
  | _ => {}

/-- What steps do for the exchange, one after the other. -/
def deedsAlong : Switchboard Env Ctx → List (Action Env) → Deeds Env Ctx
  | _, [] => {}
  | board, action :: rest =>
    board.deedsIn provider number task action ++ deedsAlong (board.step provider action) rest

theorem deedsAlong_append (board : Switchboard Env Ctx) (actions more : List (Action Env)) :
    board.deedsAlong provider number task (actions ++ more) =
      board.deedsAlong provider number task actions ++
        (board.run provider actions).deedsAlong provider number task more := by
  induction actions generalizing board with
  | nil => rfl
  | cons action rest ih =>
    rw [List.cons_append, deedsAlong, deedsAlong, ih, Deeds.append_assoc]
    rfl

end Switchboard

/-! ## The course of an exchange -/

/-- The points of a request before its handler is run. -/
inductive Unhandled (id : ConnectionId) (raw : Bytes) : Point Ctx → Prop
  | looking : Unhandled id raw (.looking id raw)
  | locking : Unhandled id raw (.locking id (.asking raw))
  | waiting (ticket : Ticket) : Unhandled id raw (.waiting id ticket (.asking raw))
  | holding : Unhandled id raw (.holding id (.asking raw))
  | handling : Unhandled id raw (.handling id raw)

/-- The handlers that are run until a request comes to its result. -/
inductive Yields (provider : ContextProvider Env Ctx) (id : ConnectionId) (raw : Bytes) :
    Except SessionError Bytes → List (Call Env Ctx) → Prop
  | absent : Yields provider id raw (.error (.notFound id)) []
  | handled (env : Env) (context : Ctx) :
      Yields provider id raw (.ok (Call.reply provider ⟨id, env, context, raw⟩))
        [⟨id, env, context, raw⟩]

/-- The letter with the reply to a request. -/
def replyLetter (id : ConnectionId) (reply : Bytes) : Letter where
  sender := none
  recipient := id
  frame := Gzip.compress reply

/-- How far the request and the exchange have come, and what was done for them. -/
inductive Course (provider : ContextProvider Env Ctx) (id : ConnectionId) (raw : Bytes)
    (task : Nat) : Point Ctx → Exchange → Deeds Env Ctx → Prop
  | unhandled {point : Point Ctx} (before : Unhandled id raw point) :
      Course provider id raw task point (.asking id task) {}
  | leaving {result : Except SessionError Bytes} {calls : List (Call Env Ctx)}
      (yields : Yields provider id raw result calls) :
      Course provider id raw task (.leaving id result) (.asking id task) { calls }
  | answered {result : Except SessionError Bytes} {calls : List (Call Env Ctx)}
      (yields : Yields provider id raw result calls) :
      Course provider id raw task .finished (.answered id result)
        { calls, told := [(id, .answered result)] }
  | refused {result : Except SessionError Bytes} {calls : List (Call Env Ctx)}
      (yields : Yields provider id raw result calls) :
      Course provider id raw task .finished (.refused (.notFound id))
        { calls, told := [(id, .answered result)] }
  | sending {reply : Bytes} {calls : List (Call Env Ctx)}
      (yields : Yields provider id raw (.ok reply) calls) (send : Sending) :
      Course provider id raw task .finished (.sending id (Gzip.compress reply) send)
        { calls, told := [(id, .answered (.ok reply))]
          posted := send.entries (replyLetter id reply) }

variable {id : ConnectionId} {raw : Bytes} {task number : Nat} {point : Point Ctx}
  {exchange : Exchange} {deeds : Deeds Env Ctx}

theorem hear_own (id : ConnectionId) (task : Nat) (result : Except SessionError Bytes) :
    Exchange.hear (some (task, result)) (.asking id task) = .answered id result :=
  if_pos rfl

/-- A request whose handler was not run yet takes a step. -/
theorem Unhandled.step (unhandled : Unhandled id raw point) (hub : Hub Env Ctx) :
    let stepped := point.step provider hub
    Course provider id raw task stepped.2.1
        (Exchange.hear ((answer? stepped.2.2).map fun result => (task, result)) (.asking id task))
        { calls := callsAt hub point, told := stepped.2.2 } ∧
      hub.Within [id] stepped.1 := by
  intro stepped
  cases unhandled with
  | looking =>
    by_cases found : hub.isOpen id = true
    · have next : stepped = (hub, .locking id (.asking raw), []) := if_pos found
      rw [next]
      exact ⟨.unhandled .locking, .refl _ hub⟩
    · have next : stepped = (hub, .finished, [(id, .answered (.error (.notFound id)))]) :=
        if_neg found
      rw [next]
      refine ⟨?_, .refl _ hub⟩
      have heard := hear_own id task (.error (.notFound id))
      show Course provider id raw task _ (Exchange.hear (some (task, .error (.notFound id))) _) _
      rw [heard]
      exact .answered .absent
  | locking =>
    have within := hub.within_acquire id
    dsimp only [stepped]
    rw [Point.step]
    split
    · rename_i after taken
      rw [taken] at within
      exact ⟨.unhandled .holding, within⟩
    · rename_i ticket after queued
      rw [queued] at within
      exact ⟨.unhandled (.waiting ticket), within⟩
  | waiting ticket =>
    have within : hub.Within [id] (hub.takeUp id ticket).2 := Hub.within_setLock _
    dsimp only [stepped]
    rw [Point.step]
    split
    · rename_i after taken
      rw [taken] at within
      exact ⟨.unhandled .holding, within⟩
    · rename_i after missed
      rw [missed] at within
      exact ⟨.unhandled (.waiting ticket), within⟩
  | holding =>
    by_cases able : hub.canHandle id = true
    · have next : stepped = (hub, .handling id raw, []) := if_pos able
      rw [next]
      exact ⟨.unhandled .handling, .refl _ hub⟩
    · have next : stepped = (hub, .leaving id (.error (.notFound id)), []) := if_neg able
      rw [next]
      exact ⟨.leaving .absent, .refl _ hub⟩
  | handling =>
    dsimp only [stepped]
    rw [Point.step, callsAt]
    cases hub.context? id with
    | none => exact ⟨.leaving .absent, .refl _ hub⟩
    | some context => exact ⟨.leaving (.handled hub.env context), Hub.within_setContext _ _⟩

/-- The request of an exchange takes a step. -/
theorem Course.proceed (course : Course provider id raw task point exchange deeds)
    (hub : Hub Env Ctx) :
    let stepped := point.step provider hub
    Course provider id raw task stepped.2.1
        (exchange.hear ((answer? stepped.2.2).map fun result => (task, result)))
        (deeds ++ { calls := callsAt hub point, told := stepped.2.2 }) ∧
      hub.Within [id] stepped.1 := by
  cases course with
  | unhandled before => exact before.step hub
  | @leaving result calls yields =>
    refine ⟨?_, Hub.within_setLock _⟩
    have told : ({ calls } ++ { told := [(id, .answered result)] } : Deeds Env Ctx) =
        { calls, told := [(id, .answered result)] } := by
      ext1 <;> simp
    show Course provider id raw task .finished (Exchange.hear (some (task, result)) _) _
    rw [hear_own]
    exact told ▸ .answered yields
  | answered yields =>
    exact ⟨(Deeds.append_empty _).symm ▸ .answered yields, .refl _ hub⟩
  | refused yields =>
    exact ⟨(Deeds.append_empty _).symm ▸ .refused yields, .refl _ hub⟩
  | sending yields send =>
    exact ⟨(Deeds.append_empty _).symm ▸ .sending yields send, .refl _ hub⟩

/-- The session is looked up again. -/
theorem Course.lookUp (course : Course provider id raw task point exchange deeds)
    (hub : Hub Env Ctx) : Course provider id raw task point (exchange.lookUp hub) deeds := by
  cases course with
  | unhandled before => exact .unhandled before
  | leaving yields => exact .leaving yields
  | @answered result calls yields =>
    cases yields with
    | absent => exact .refused .absent
    | handled env context =>
      rw [Exchange.lookUp]
      split
      · exact .sending (.handled env context) .due
      · exact .refused (.handled env context)
  | refused yields => exact .refused yields
  | sending yields send => exact .sending yields send

/-- The send of the reply takes a step. -/
theorem Course.deliver (course : Course provider id raw task point exchange deeds)
    (hub : Hub Env Ctx) :
    let delivered := exchange.deliver hub
    Course provider id raw task point delivered.2.1 (deeds ++ { posted := delivered.2.2 }) ∧
      hub.Carries id (delivered.2.2.taken id) delivered.1 := by
  have same : hub.Carries id [] hub := Hub.Carries.refl id hub
  cases course with
  | unhandled before => exact ⟨.unhandled before, same⟩
  | leaving yields => exact ⟨(Deeds.append_empty _).symm ▸ .leaving yields, same⟩
  | answered yields => exact ⟨(Deeds.append_empty _).symm ▸ .answered yields, same⟩
  | refused yields => exact ⟨(Deeds.append_empty _).symm ▸ .refused yields, same⟩
  | @sending reply calls yields send =>
    refine ⟨?_, send.step_carries hub (replyLetter id reply)⟩
    have entries := send.step_entries hub (replyLetter id reply)
    have next : Course provider id raw task .finished _ _ :=
      .sending yields (send.step hub (replyLetter id reply)).2.1
    rw [entries] at next
    have posted : ({ calls, told := [(id, .answered (.ok reply))]
                     posted := send.entries (replyLetter id reply) } ++
          { posted := (send.step hub (replyLetter id reply)).2.2 } : Deeds Env Ctx) =
        { calls, told := [(id, .answered (.ok reply))]
          posted := send.entries (replyLetter id reply) ++
            (send.step hub (replyLetter id reply)).2.2 } := by
      ext1 <;> simp
    exact posted ▸ next

/-! ## Steps of others -/

/-- An operation stands where it stood while others take their steps. -/
theorem tasks_step {traffic : Broadcasting.Traffic Env Ctx} {action : Broadcasting.Action Env}
    (foreign : action ≠ .operation (.proceed task))
    (there : traffic.world.tasks[task]? = some point) :
    (traffic.step provider action).world.tasks[task]? = some point := by
  have launched (other : Point Ctx) : (traffic.world.tasks ++ [other])[task]? = some point := by
    rw [List.getElem?_append_left (List.getElem?_eq_some_iff.1 there).1, there]
  cases action with
  | operation operation =>
    cases operation with
    | proceed own =>
      have differ : own ≠ task := by
        rintro rfl
        exact foreign rfl
      simp only [Broadcasting.Traffic.step, Broadcasting.sparing, World.step]
      split
      · exact there
      · exact (List.getElem?_set_ne differ).trans there
    | connect transport => exact launched _
    | disconnect ids => exact launched _
    | disconnectAll => exact launched _
    | message id request => exact launched _
    | outside env transports tickets => exact there
  | announce line => exact there
  | address number =>
    rw [Broadcasting.Traffic.step]
    split <;> exact there
  | deliver number id =>
    rw [Broadcasting.Traffic.step]
    split <;> exact there
  | other id frame sending => exact there
  | change id next =>
    rw [Broadcasting.Traffic.step]
    split
    · exact there
    · split <;> exact there

/-- An exchange hears only of its own request. -/
theorem Course.hear_foreign (course : Course provider id raw task point exchange deeds)
    (world : World Env Ctx) {action : Broadcasting.Action Env}
    (foreign : action ≠ .operation (.proceed task)) :
    exchange.hear (answerIn provider world action) = exchange := by
  have apart : ∀ own result, answerIn provider world action = some (own, result) → own ≠ task := by
    rintro own result heard rfl
    cases action with
    | operation operation =>
      cases operation with
      | proceed other =>
        simp only [answerIn, Option.bind_eq_some_iff, Option.map_eq_some_iff,
          Prod.mk.injEq] at heard
        obtain ⟨_, -, _, -, same, -⟩ := heard
        exact foreign (same ▸ rfl)
      | _ => cases heard
    | _ => cases heard
  have asking : (Exchange.asking id task).hear (answerIn provider world action) =
      .asking id task := by
    cases heard : answerIn provider world action with
    | none => rfl
    | some answer => exact if_neg (apart answer.1 answer.2 heard)
  cases course with
  | unhandled before => exact asking
  | leaving yields => exact asking
  | _ => rfl

namespace Switchboard

variable {board : Switchboard Env Ctx}

/-- The request and the exchange stand where they stood while others take their steps. -/
theorem step_foreign {action : Action Env} (foreign : ¬Own number task action)
    (course : Course provider id raw task point exchange deeds)
    (there : board.world.tasks[task]? = some point)
    (found : board.exchanges[number]? = some exchange) :
    (board.step provider action).world.tasks[task]? = some point ∧
      (board.step provider action).exchanges[number]? = some exchange ∧
      board.deedsIn provider number task action = {} := by
  cases action with
  | traffic action =>
    have other : action ≠ .operation (.proceed task) := by
      rintro rfl
      exact foreign .proceed
    refine ⟨tasks_step other there, ?_, ?_⟩
    · rw [step, List.getElem?_map, found, Option.map_some, course.hear_foreign _ other]
    · cases action with
      | operation operation =>
        cases operation with
        | proceed own =>
          have differ : own ≠ task := by
            rintro rfl
            exact other rfl
          exact if_neg differ
        | _ => rfl
      | _ => rfl
  | request own request =>
    refine ⟨tasks_step (fun same => ?_) there, ?_, rfl⟩
    · cases same
    · exact (List.getElem?_append_left (List.getElem?_eq_some_iff.1 found).1).trans found
  | lookUp own =>
    have differ : own ≠ number := by
      rintro rfl
      exact foreign .lookUp
    rw [step]
    split
    · exact ⟨there, found, rfl⟩
    · exact ⟨there, (List.getElem?_set_ne differ).trans found, rfl⟩
  | deliver own =>
    have differ : own ≠ number := by
      rintro rfl
      exact foreign .deliver
    rw [step]
    split
    · exact ⟨there, found, if_neg differ⟩
    · exact ⟨there, (List.getElem?_set_ne differ).trans found, if_neg differ⟩

/-! ## Runs -/

/-- The exchange of a number is on its course. -/
def OnCourse (provider : ContextProvider Env Ctx) (id : ConnectionId) (raw : Bytes)
    (number task : Nat) (board : Switchboard Env Ctx) (deeds : Deeds Env Ctx) : Prop :=
  ∃ point exchange, board.world.tasks[task]? = some point ∧
    board.exchanges[number]? = some exchange ∧ Course provider id raw task point exchange deeds

theorem onCourse_request (provider : ContextProvider Env Ctx) (board : Switchboard Env Ctx)
    (id : ConnectionId) (raw : Bytes) :
    OnCourse provider id raw board.exchanges.length board.world.tasks.length
      (board.step provider (.request id raw)) {} :=
  ⟨.looking id raw, .asking id board.world.tasks.length, List.getElem?_concat_length,
    List.getElem?_concat_length, .unhandled .looking⟩

/-- An exchange takes a step of its own, and keeps to itself. -/
theorem OnCourse.own (onCourse : OnCourse provider id raw number task board deeds)
    {action : Action Env} (own : Own number task action) :
    OnCourse provider id raw number task (board.step provider action)
        (deeds ++ board.deedsIn provider number task action) ∧
      board.hub.Confined id ((board.deedsIn provider number task action).posted.taken id)
        (board.step provider action).hub := by
  obtain ⟨point, exchange, there, found, course⟩ := onCourse
  cases own with
  | proceed =>
    obtain ⟨hub, next, heard⟩ := step_proceed provider there found
    obtain ⟨onward, within⟩ := course.proceed board.hub
    have done : board.deedsIn provider number task (.traffic (.operation (.proceed task))) =
        { calls := callsAt board.hub point, told := (point.step provider board.hub).2.2 } := by
      rw [deedsIn, if_pos rfl, there]
      rfl
    rw [done, hub]
    exact ⟨⟨_, _, next, heard, onward⟩, within.confined⟩
  | lookUp =>
    obtain ⟨hub, looked⟩ := step_lookUp provider found
    have still : (board.step provider (.lookUp number)).world.tasks[task]? = some point := by
      simp only [step, found]
      exact there
    have done : board.deedsIn provider number task (.lookUp number) = {} := rfl
    rw [done, Deeds.append_empty, hub]
    exact ⟨⟨point, _, still, looked, course.lookUp board.hub⟩,
      (Hub.Carries.refl id board.hub).confined⟩
  | deliver =>
    obtain ⟨hub, delivered⟩ := step_deliver provider found
    obtain ⟨onward, carries⟩ := course.deliver board.hub
    have still : (board.step provider (.deliver number)).world.tasks[task]? = some point := by
      simp only [step, found]
      exact there
    have done : board.deedsIn provider number task (.deliver number) =
        { posted := (exchange.deliver board.hub).2.2 } := by
      rw [deedsIn, if_pos rfl, found]
      rfl
    rw [done, hub]
    exact ⟨⟨point, _, still, delivered, onward⟩, carries.confined⟩

theorem OnCourse.step (onCourse : OnCourse provider id raw number task board deeds)
    (action : Action Env) :
    OnCourse provider id raw number task (board.step provider action)
      (deeds ++ board.deedsIn provider number task action) := by
  by_cases own : Own number task action
  · exact (onCourse.own own).1
  · obtain ⟨point, exchange, there, found, course⟩ := onCourse
    obtain ⟨still, same, idle⟩ := step_foreign own course there found
    rw [idle, Deeds.append_empty]
    exact ⟨point, exchange, still, same, course⟩

/-- An exchange stays on its course in every interleaving. -/
theorem OnCourse.run (onCourse : OnCourse provider id raw number task board deeds)
    (actions : List (Action Env)) :
    OnCourse provider id raw number task (board.run provider actions)
      (deeds ++ board.deedsAlong provider number task actions) := by
  induction actions generalizing board deeds with
  | nil =>
    rw [deedsAlong, Deeds.append_empty]
    exact onCourse
  | cons action rest ih =>
    rw [deedsAlong, ← Deeds.append_assoc]
    exact ih (onCourse.step action)

theorem refused_step {error : SessionError}
    (found : board.exchanges[number]? = some (.refused error)) (action : Action Env) :
    (board.step provider action).exchanges[number]? = some (.refused error) := by
  cases action with
  | traffic action =>
    rw [step, List.getElem?_map, found]
    rfl
  | request own request =>
    exact (List.getElem?_append_left (List.getElem?_eq_some_iff.1 found).1).trans found
  | lookUp own =>
    by_cases same : own = number
    · rw [same]
      exact (step_lookUp provider found).2
    · rw [step]
      split
      · exact found
      · exact (List.getElem?_set_ne same).trans found
  | deliver own =>
    by_cases same : own = number
    · rw [same]
      exact (step_deliver provider found).2
    · rw [step]
      split
      · exact found
      · exact (List.getElem?_set_ne same).trans found

/-- An exchange of which nothing is sent stays so. -/
theorem refused_run {error : SessionError}
    (found : board.exchanges[number]? = some (.refused error)) (actions : List (Action Env)) :
    (board.run provider actions).exchanges[number]? = some (.refused error) := by
  induction actions generalizing board with
  | nil => exact found
  | cons action rest ih => exact ih (refused_step found action)

end Switchboard

/-! ## What comes of an exchange -/

/-- What was done for an exchange with a given result, if it has come to one. -/
structure Accounted (provider : ContextProvider Env Ctx) (id : ConnectionId) (raw : Bytes)
    (deeds : Deeds Env Ctx) (result : Option (Except DispatchError Unit)) : Prop where
  /-- At most one handler is run, and it is that of the connection. -/
  once : deeds.calls.length ≤ 1 ∧ ∀ call ∈ deeds.calls, call.id = id ∧ call.request = raw
  /-- The handler's reply is what is told. -/
  told : ∀ reply, (id, .answered (.ok reply)) ∈ deeds.told →
    deeds.calls.map (·.reply provider) = [reply]
  /-- At most one letter is sent, and it is the handler's reply to the connection. -/
  posted : deeds.posted = [] ∨ ∃ reply send, deeds.told = [(id, .answered (.ok reply))] ∧
    deeds.posted = Sending.entries (replyLetter id reply) send
  /-- All is well just if the transport has taken the reply. -/
  ok : result = some (.ok ()) ↔ ∃ frame, deeds.posted.taken id = [frame]
  taken : ∀ frame ∈ deeds.posted.taken id, ∃ reply,
    deeds.told = [(id, .answered (.ok reply))] ∧ Gzip.decompress frame = .ok reply
  /-- Either nothing was sent, or the transport has not taken the reply of the handler. -/
  failed : ∀ error, result = some (.error error) →
    (error = .session (.notFound id) ∧ deeds.posted = []) ∨
    ∃ cause reply, error = .delivery cause ∧ deeds.told = [(id, .answered (.ok reply))] ∧
      deeds.posted = [(replyLetter id reply, .begun), (replyLetter id reply, .ended (.error cause))]

theorem Yields.once {result : Except SessionError Bytes} {calls : List (Call Env Ctx)}
    (yields : Yields provider id raw result calls) :
    calls.length ≤ 1 ∧ ∀ call ∈ calls, call.id = id ∧ call.request = raw := by
  cases yields with
  | absent => exact ⟨Nat.zero_le 1, nofun⟩
  | handled env context =>
    refine ⟨Nat.le_refl 1, fun call among => ?_⟩
    rw [List.mem_singleton.1 among]
    exact ⟨rfl, rfl⟩

theorem Yields.replied {reply : Bytes} {calls : List (Call Env Ctx)}
    (yields : Yields provider id raw (.ok reply) calls) :
    calls.map (·.reply provider) = [reply] := by
  cases yields
  rfl

/-- As long as nothing is sent, nothing is taken. -/
theorem Accounted.of_unsent {calls : List (Call Env Ctx)} {told : History}
    {result : Option (Except DispatchError Unit)}
    (once : calls.length ≤ 1 ∧ ∀ call ∈ calls, call.id = id ∧ call.request = raw)
    (replied : ∀ reply, (id, .answered (.ok reply)) ∈ told →
      calls.map (·.reply provider) = [reply])
    (unsent : result = none ∨ result = some (.error (.session (.notFound id)))) :
    Accounted provider id raw { calls, told } result where
  once := once
  told := replied
  posted := .inl rfl
  ok := by
    constructor
    · rintro rfl
      rcases unsent with same | same <;> cases same
    · rintro ⟨frame, ⟨⟩⟩
  taken := nofun
  failed error same := by
    rcases unsent with none | some
    · rw [none] at same
      cases same
    · rw [some] at same
      cases same
      exact .inl ⟨rfl, rfl⟩

theorem Course.told {result : Except SessionError Bytes}
    (course : Course provider id raw task point (.answered id result) deeds) :
    (id, .answered result) ∈ deeds.told := by
  cases course
  exact List.mem_singleton_self _

theorem Course.unposted {error : SessionError}
    (course : Course provider id raw task point (.refused error) deeds) : deeds.posted = [] := by
  cases course
  rfl

/-- A send that is over well is one that was taken. -/
theorem taken_entries (id : ConnectionId) (reply : Bytes) (send : Sending) :
    Ledger.taken (send.entries (replyLetter id reply)) id =
      if send = .finished (.ok ()) then [Gzip.compress reply] else [] := by
  rcases send with _ | _ | (_ | _) <;> simp [Sending.entries, Ledger.taken, replyLetter]

theorem Course.accounted (course : Course provider id raw task point exchange deeds) :
    Accounted provider id raw deeds exchange.result? := by
  have only {result : Except SessionError Bytes} {calls : List (Call Env Ctx)}
      (yields : Yields provider id raw result calls) (reply : Bytes)
      (told : (id, Event.answered (.ok reply)) ∈ [(id, Event.answered result)]) :
      calls.map (·.reply provider) = [reply] := by
    cases List.mem_singleton.1 told
    exact yields.replied
  cases course with
  | unhandled before => exact .of_unsent ⟨Nat.zero_le 1, nofun⟩ nofun (.inl rfl)
  | leaving yields => exact .of_unsent yields.once nofun (.inl rfl)
  | answered yields => exact .of_unsent yields.once (only yields) (.inl rfl)
  | refused yields => exact .of_unsent yields.once (only yields) (.inr rfl)
  | @sending reply calls yields send =>
    refine ⟨yields.once, only yields, .inr ⟨reply, send, rfl, rfl⟩, ?_, ?_, ?_⟩
    · rw [taken_entries]
      rcases send with _ | _ | (_ | _) <;>
        simp [Exchange.result?, Sending.result?]
    · intro frame among
      rw [taken_entries] at among
      split at among
      · rw [List.mem_singleton.1 among]
        exact ⟨reply, rfl, Gzip.decompress_compress reply⟩
      · cases among
    · intro error same
      rcases send with _ | _ | (cause | _) <;> cases same
      exact .inr ⟨cause, reply, rfl, rfl, rfl⟩

open Switchboard

/-- A request that is answered over its connection is answered there only, whatever happens before
it, in between and after it. At most one handler is run for it and at most one letter sent, on its
own connection, and its result says whether the transport has taken the reply. In its own steps it
closes nothing and changes nothing of the others. If its session is taken out before the second
look-up, nothing is sent. What the hub does for such a request, at once and after it had to wait,
are steps of these runs. -/
theorem answered_on_own_connection (provider : ContextProvider Env Ctx)
    (first : Switchboard Env Ctx) (id : ConnectionId) (raw : Bytes) (after : List (Action Env)) :
    let began := first.step provider (.request id raw)
    let number := first.exchanges.length
    let task := first.world.tasks.length
    let deeds := began.deedsAlong provider number task after
    (∃ exchange, (began.run provider after).exchanges[number]? = some exchange ∧
      Accounted provider id raw deeds exchange.result?) ∧
    (∀ early action later, after = early ++ action :: later → Own number task action →
      let before := began.run provider early
      before.hub.Confined id ((before.deedsIn provider number task action).posted.taken id)
        (before.step provider action).hub) ∧
    (∀ early later reply, after = early ++ .lookUp number :: later →
      let before := began.run provider early
      before.exchanges[number]? = some (.answered id (.ok reply)) →
      id ∉ before.hub.published →
      (began.run provider after).exchanges[number]? = some (.refused (.notFound id)) ∧
        deeds.calls.map (·.reply provider) = [reply] ∧ deeds.posted = []) ∧
    (∃ alone exchange,
      (began.run provider alone).hub = (first.hub.start provider (.binary id raw)).2 ∧
      (began.run provider alone).exchanges[number]? = some exchange ∧
      exchange.StandsAt (began.run provider alone).world.tasks
        (first.hub.start provider (.binary id raw)).1) ∧
    ∀ exchange suspended,
      let before := began.run provider after
      before.exchanges[number]? = some exchange →
      exchange.StandsAt before.world.tasks (.waits suspended) →
      ∃ alone exchange, (before.run provider alone).hub = (before.hub.resume provider suspended).2 ∧
        (before.run provider alone).exchanges[number]? = some exchange ∧
        exchange.StandsAt (before.run provider alone).world.tasks
          (before.hub.resume provider suspended).1 := by
  intro began number task deeds
  have start : OnCourse provider id raw number task began {} :=
    onCourse_request provider first id raw
  obtain ⟨point, exchange, -, found, course⟩ := start.run after
  refine ⟨⟨exchange, found, course.accounted⟩, ?_, ?_, first.exists_binary provider id raw,
    fun _ _ waits stands => exists_resume waits stands⟩
  · intro early action later _ own before
    exact ((start.run early).own own).2
  · intro early later reply parts before answered gone
    have closed : ¬before.hub.isOpen id = true := fun isOpen => gone (Hub.isOpen_iff.1 isOpen).1
    have lost : (before.step provider (.lookUp number)).exchanges[number]? =
        some (.refused (.notFound id)) :=
      (step_lookUp provider answered).2.trans (congrArg some (if_neg closed))
    have last : (began.run provider after).exchanges[number]? = some (.refused (.notFound id)) := by
      rw [parts, run_append]
      exact refused_run lost later
    obtain rfl : exchange = .refused (.notFound id) := Option.some.inj (found.symm.trans last)
    -- the reply was told before, so that its handler was run
    have told : (id, Event.answered (.ok reply)) ∈ deeds.told := by
      obtain ⟨_, other, -, here, early⟩ := start.run early
      obtain rfl : other = .answered id (.ok reply) := Option.some.inj (here.symm.trans answered)
      dsimp only [deeds]
      rw [parts, deedsAlong_append]
      exact List.mem_append_left _ early.told
    exact ⟨last, course.accounted.told reply told, course.unposted⟩

deriving instance DecidableEq for Exchange

/-- A session is taken out after the handler was run and before the second look-up: nothing is sent.
-/
theorem answered_on_own_connection_late_close :
    let first : Switchboard Unit Unit := (initial ()).run parrot (opening 0 ++ opening 1)
    let began := first.step parrot (.request 1 [8])
    let early : List (Action Unit) := .replicate 5 (.traffic (.operation (.proceed 2))) ++
      [.traffic (.operation (.disconnect [1])), .traffic (.operation (.proceed 3))]
    let after := early ++ [.lookUp 0, .deliver 0]
    (began.run parrot early).exchanges[0]? = some (.answered 1 (.ok [8])) ∧
      1 ∉ (began.run parrot early).hub.published ∧
      (began.run parrot after).exchanges[0]? = some (.refused (.notFound 1)) ∧
      (began.deedsAlong parrot 0 2 after).calls.map (·.reply parrot) = [[8]] ∧
      (began.deedsAlong parrot 0 2 after).posted = [] := by
  intro first began early after
  have answered : (began.run parrot early).exchanges[0]? = some (.answered 1 (.ok [8])) := by
    decide +kernel
  have gone : 1 ∉ (began.run parrot early).hub.published := by decide +kernel
  obtain ⟨-, -, lost, -⟩ := answered_on_own_connection parrot first 1 [8] after
  exact ⟨answered, gone, lost early [.deliver 0] [8] rfl answered gone⟩

end Dispatching

end Inspector
