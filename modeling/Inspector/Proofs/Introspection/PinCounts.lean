import Mathlib.Data.Multiset.Bind
import Inspector.Proofs.Host.Pins
import Inspector.Proofs.Introspection.ObjectIds
import Inspector.Proofs.Introspection.SharedHost
import Inspector.Proofs.Session.Contexts

/-!
# Pins of all sessions

The contexts of an agent share one host, which counts their pins. At each moment, however operations
and changes of the host are interleaved, an object is pinned once for each context that knows of it
and has not been ended (`pins_accounted`). A request pins what it adds to the table of its context,
and the end of a context releases its table; nothing else touches the counts (`Tallied.turn`).
-/

namespace Inspector

open Interleaving

/-! ## Contexts and counts -/

/-- All that contexts keep alive, each object as often as there are contexts that do. -/
def keptAlive (contexts : Multiset PinTable) : Multiset ObjectRef :=
  contexts.bind fun pins => ↑pins.pinned

theorem keptAlive_cons (pins : PinTable) (others : Multiset PinTable) :
    keptAlive (pins ::ₘ others) = ↑pins.pinned + keptAlive others :=
  Multiset.cons_bind pins others _

theorem card_keptAlive (contexts : Multiset PinTable) :
    Multiset.card (keptAlive contexts) = (contexts.map PinTable.size).sum :=
  Multiset.card_bind _ _

/-- Where no table holds an object twice, an object is there once for each that holds it. -/
theorem count_keptAlive {contexts : Multiset PinTable} (kept : ∀ pins ∈ contexts, pins.Kept)
    (object : ObjectRef) :
    (keptAlive contexts).count object = contexts.countP (object ∈ ·.pinned) := by
  induction contexts using Multiset.induction_on with
  | empty => rfl
  | cons pins others ih =>
    have here : pins.pinned.count object = if object ∈ pins.pinned then 1 else 0 := by
      split
      · exact List.count_eq_one_of_mem (kept pins (Multiset.mem_cons_self _ _)).nodup ‹_›
      · exact List.count_eq_zero.2 ‹_›
    have rest := ih (Multiset.forall_mem_cons.1 kept).2
    rw [Multiset.countP_cons, ← rest, ← here, keptAlive_cons, Multiset.count_add,
      Multiset.coe_count, add_comm]

/-- The host counts what contexts keep alive. -/
structure Tallied (state : Environment × Multiset PinTable) : Prop where
  /-- The host can be asked to pin. -/
  full : state.1.access = .full
  kept : ∀ pins ∈ state.2, pins.Kept
  counts : state.1.host.Counts (keptAlive state.2)

theorem PinTable.Grown.pinned_eq {pins later : PinTable} (grown : pins.Grown later) :
    later.pinned = pins.pinned ++ pins.added later :=
  (List.prefix_iff_eq_append.1 grown.onward).symm

variable {switch : LogSwitch}

/-- A request pins the objects that its context comes to know of. -/
theorem Tallied.handled {env : Environment} {pins : PinTable} {others : Multiset PinTable}
    (tallied : Tallied (env, pins ::ₘ others)) (raw : Bytes) :
    Tallied (((introspection switch).handle env pins raw).2.2,
      ((introspection switch).handle env pins raw).2.1 ::ₘ others) := by
  obtain ⟨full, kept, counts⟩ := tallied
  obtain ⟨own, kept⟩ := Multiset.forall_mem_cons.1 kept
  have grown : pins.Grown
      (env.view.handle { pins, streamLogs := switch.get env } raw).2.pins :=
    HostView.grown_handle own _ raw
  rw [Environment.handle_introspection, Environment.handle]
  dsimp only at full counts ⊢
  generalize (env.view.handle { pins, streamLogs := switch.get env } raw).2 = after at grown ⊢
  refine ⟨?_, ?_, ?_⟩
  · have same := ((env.alike_pinAll (pins.added after.pins)).trans
      (Environment.alike_set _ switch after.streamLogs)).access
    exact same.trans full
  · exact Multiset.forall_mem_cons.2 ⟨grown.kept, kept⟩
  · have more := counts.pinAll (pins.added after.pins)
    rw [keptAlive_cons, ← add_assoc, add_comm (↑(pins.added after.pins) : Multiset ObjectRef),
      Multiset.coe_add, ← grown.pinned_eq, ← keptAlive_cons] at more
    rwa [Environment.update, Environment.host_set, Environment.pinAll_full full]

/-- The end of a context releases what it kept alive. -/
theorem Tallied.ended {env : Environment} {pins : PinTable} {others : Multiset PinTable}
    (tallied : Tallied (env, pins ::ₘ others)) :
    Tallied (((introspection switch).teardown env pins).1, others) := by
  obtain ⟨full, kept, counts⟩ := tallied
  have released : ((introspection switch).teardown env pins).1 =
      { env with host := env.host.releaseAll pins.pinned } := Environment.releaseAll_full full _
  rw [released]
  rw [keptAlive_cons] at counts
  exact ⟨full, (Multiset.forall_mem_cons.1 kept).2, counts.releaseAll⟩

theorem Tallied.turn {before after : Environment × Multiset PinTable} (tallied : Tallied before)
    (turn : Turn (introspection switch) before after) : Tallied after := by
  cases turn with
  | rest => exact tallied
  | made env others made =>
    cases made
    obtain ⟨full, kept, counts⟩ := tallied
    refine ⟨full, Multiset.forall_mem_cons.2 ⟨PinTable.kept_empty, kept⟩, ?_⟩
    rw [keptAlive_cons]
    exact (zero_add (keptAlive others)).symm ▸ counts
  | handled env others pins raw => exact tallied.handled raw
  | ended env others pins => exact tallied.ended

/-! ## Operations and changes of the host -/

/-- What happens to the sessions of a host: operations are started and go on, and from outside the
host is changed. -/
abbrev Happening := Action HostChange

def Happening.action (env : Environment) : Happening → Action Environment
  | .connect transport => .connect transport
  | .disconnect ids => .disconnect ids
  | .disconnectAll => .disconnectAll
  | .message id request => .message id request
  | .proceed task => .proceed task
  | .outside change transports tickets =>
    .outside { env with host := change.apply env.host } transports tickets

/-- The sessions after something has happened. -/
def occur (switch : LogSwitch) (world : World Environment PinTable) (happening : Happening) :
    World Environment PinTable :=
  world.step (introspection switch) (happening.action world.hub.env)

def occurAll (switch : LogSwitch) (world : World Environment PinTable)
    (happenings : List Happening) : World Environment PinTable :=
  happenings.foldl (occur switch) world

variable {world : World Environment PinTable}

theorem Tallied.occur (orderly : world.Orderly (introspection switch))
    (tallied : Tallied (world.hub.env, world.contexts)) (happening : Happening) :
    Tallied ((occur switch world happening).hub.env, (occur switch world happening).contexts) := by
  have launched {point : Point PinTable} (empty : point.context? = none) :
      Tallied ((world.launch point).hub.env, (world.launch point).contexts) := by
    rwa [world.contexts_launch empty]
  cases happening with
  | connect transport => exact launched rfl
  | disconnect ids => exact launched (Point.context?_closing ids)
  | disconnectAll => exact launched rfl
  | message id request => exact launched rfl
  | proceed task => exact tallied.turn (orderly.turn task)
  | outside change transports tickets =>
    exact ⟨tallied.full, tallied.kept, tallied.counts.of_pins_eq (change.pins_apply _)⟩

/-- At any time, the host counts what the contexts keep alive. -/
theorem Tallied.occurAll (orderly : world.Orderly (introspection switch))
    (tallied : Tallied (world.hub.env, world.contexts)) (happenings : List Happening) :
    (occurAll switch world happenings).Orderly (introspection switch) ∧
      Tallied ((occurAll switch world happenings).hub.env,
        (occurAll switch world happenings).contexts) := by
  induction happenings generalizing world with
  | nil => exact ⟨orderly, tallied⟩
  | cons happening rest ih => exact ih (orderly.step _) (tallied.occur orderly happening)

/-! ## Operations of the hub -/

theorem occurAll_proceeds (world : World Environment PinTable) (task steps : Nat) :
    occurAll switch world (.replicate steps (.proceed task)) =
      world.run (introspection switch) (.replicate steps (.proceed task)) := by
  induction steps generalizing world with
  | zero => rfl
  | succ steps ih =>
    rw [List.replicate_succ, List.replicate_succ, occurAll, World.run, List.foldl_cons,
      List.foldl_cons]
    exact ih _

/-- What the hub does when it runs an operation as far as it goes is one of the things that may
happen. -/
theorem exists_occurAll (happening : Happening) {point after : Point PinTable}
    {hub : Hub Environment PinTable} (launched : occur switch world happening = world.launch point)
    (alone : Alone (introspection switch) (world.hub, point) (hub, after)) :
    ∃ more, (occurAll switch world more).hub = hub := by
  have last : (world.launch point).tasks[world.tasks.length]? = some point :=
    List.getElem?_concat_length
  obtain ⟨steps, reached, -⟩ := alone.exists_proceeds (by rfl) last
  refine ⟨happening :: .replicate steps (.proceed world.tasks.length), ?_⟩
  rw [occurAll, List.foldl_cons, launched, ← occurAll, occurAll_proceeds, reached]

/-! ## All pins are accounted for -/

/-- On a host without pins, sessions are opened, asked and closed, in any interleaving and with any
bytes as requests, and the host is changed in between. At any time:

* an object is pinned once for each context that knows of it and has not been ended, and hence the
  total is the sum of the sizes of their tables;
* no count of zero is kept;
* if every session is closed, nothing is pinned.

Opening a session, and what the hub does with any other operation, is one such course of events. -/
theorem pins_accounted (switch : LogSwitch) (env : Environment) (full : env.access = .full)
    (unpinned : env.host.pins = []) (happenings : List Happening) :
    let world := occurAll switch (World.initial env) happenings
    let host := world.hub.env.host
    (∀ object, host.pinCount object = world.contexts.countP (object ∈ ·.pinned)) ∧
    host.totalPins = (world.contexts.map PinTable.size).sum ∧
    (∀ entry ∈ host.pins, 1 ≤ entry.2) ∧
    ((∀ id state, world.hub.state? id = some state → state = .closed) → host.totalPins = 0) ∧
    (∀ transport, ∃ more, (occurAll switch world more).hub =
      (world.hub.connect (introspection switch) transport).2) ∧
    ∀ operation (point : Point PinTable), Point.ofOperation operation = some point →
      ∃ more, (occurAll switch world more).hub =
        (world.hub.start (introspection switch) operation).2 := by
  intro world host
  have start : Tallied ((World.initial env : World Environment PinTable).hub.env,
      (World.initial env).contexts) :=
    ⟨full, nofun, InMemoryHost.counts_zero unpinned⟩
  obtain ⟨orderly, tallied⟩ : world.Orderly (introspection switch) ∧
      Tallied (world.hub.env, world.contexts) :=
    start.occurAll (World.initial_orderly env) happenings
  have total : host.totalPins = (world.contexts.map PinTable.size).sum :=
    tallied.counts.totalPins.trans (card_keptAlive _)
  refine ⟨fun object => ?_, total, tallied.counts.positive, fun closed => ?_, fun transport => ?_,
    fun operation point begins => ?_⟩
  · rw [← count_keptAlive tallied.kept]
    exact tallied.counts.counted object
  · -- the contexts that are left are new, and know of nothing
    rw [total, Multiset.sum_eq_zero_iff]
    intro size present
    obtain ⟨pins, left, rfl⟩ := Multiset.mem_map.1 present
    obtain ⟨id, made⟩ := orderly.new_of_closed closed left
    cases made
    rfl
  · exact exists_occurAll (.connect transport) rfl (connect_alone transport)
  · obtain ⟨after, -, alone⟩ := start_alone begins
    cases operation with
    | disconnect id =>
      cases begins
      exact exists_occurAll (.disconnect [id]) rfl alone
    | disconnectAll =>
      cases begins
      exact exists_occurAll .disconnectAll rfl alone
    | message id request =>
      cases begins
      exact exists_occurAll (.message id request) rfl alone
    | _ => cases begins

/-- An operation is started as the one of a number and takes some steps. -/
def carriedOut (happening : Happening) (task steps : Nat) : List Happening :=
  happening :: .replicate steps (.proceed task)

/-- Two clients ask for the same arrays, another array is made, and the first client goes. -/
def departure : List Happening :=
  let question := asking (.staticFields "A")
  carriedOut (.connect .newRecording) 0 3 ++ carriedOut (.connect .newRecording) 1 3 ++
    carriedOut (.message 1 question) 2 5 ++ carriedOut (.message 2 question) 3 5 ++
    [.outside (.newArray (.cls "A") []) [] 0] ++ carriedOut (.disconnect [1]) 4 7

/-- What the first client was told of is still pinned for the second one, and only for it. -/
theorem pins_accounted_departure :
    let world := occurAll .shared (World.initial sharing) departure
    sharing.access = .full ∧ sharing.host.pins = [] ∧
      world.contexts.map PinTable.pinned = {[{ id := 9 }, { id := 10 }]} ∧
      world.hub.env.host.pinCount { id := 9 } = 1 ∧ world.hub.env.host.totalPins = 2 := by
  have unpinned : sharing.host.pins = [] := by decide +kernel
  obtain ⟨counted, total, -⟩ := pins_accounted .shared sharing rfl unpinned departure
  have left : (occurAll .shared (World.initial sharing) departure).contexts.map PinTable.pinned =
      {[{ id := 9 }, { id := 10 }]} := by decide +kernel
  have once : (occurAll .shared (World.initial sharing) departure).contexts.countP
      (({ id := 9 } : ObjectRef) ∈ ·.pinned) = 1 := by decide +kernel
  have both : ((occurAll .shared (World.initial sharing) departure).contexts.map
      PinTable.size).sum = 2 := by decide +kernel
  exact ⟨rfl, unpinned, left, (counted _).trans once, total.trans both⟩

end Inspector
