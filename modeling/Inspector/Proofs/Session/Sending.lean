import Mathlib.Data.List.Basic
import Inspector.Session.Operation

/-!
# Single sends

A send goes on in steps: it is started, it may be held back, and it ends with a result. `Sending`
says how far it has come, and `Sending.step` is its next step. What happens between a sender and a
transport is written down in a `Ledger`.

A step of a send changes the transport of its recipient and nothing else of the hub, and the
transport then holds exactly what it held before with what it has taken behind it
(`Sending.step_carries`). A send is over after its next step unless it is held back
(`Sending.step_finished`).

Between the steps of a send a transport may be changed at its other end as well, so over longer
times less is known: a recorder still holds everything, a channel what has not been taken off the
front of its queue (`Transport.Grown`).
-/

namespace Inspector

/-! ## Transports -/

namespace Transport

/-- Whether a transport holds no sends back. -/
def passes : Transport → Bool
  | stalling _ gate => gate.released
  | _ => true

/-- A transport has taken what was sent and has not changed otherwise. Those who watch a gate for
sends may have been told of one. -/
inductive Took : Transport → List Bytes → Transport → Prop
  | recording {old new : Recorder} {sent : List Bytes} :
      new = { old with frames := old.frames ++ sent } → Took (recording old) sent (recording new)
  | stalling {old new : Recorder} {gate gate' : Gate} {sent : List Bytes} :
      new = { old with frames := old.frames ++ sent } → gate'.released = gate.released →
      Took (stalling old gate) sent (stalling new gate')
  | channel {old new : Channel} {sent : List Bytes} :
      new = { old with queue := old.queue ++ sent } → Took (channel old) sent (channel new)

theorem Took.refl (transport : Transport) : transport.Took [] transport := by
  cases transport with
  | recording recorder => exact .recording (by rw [List.append_nil])
  | stalling recorder gate => exact .stalling (by rw [List.append_nil]) rfl
  | channel queue => exact .channel (by rw [List.append_nil])

/-- A transport has taken what was sent, and may have been changed at its other end. A recorder
keeps everything; messages may have been taken off the front of a channel's queue. -/
inductive Grown : Transport → List Bytes → Transport → Prop
  | recording {old new : Recorder} {sent : List Bytes} :
      new.frames = old.frames ++ sent → Grown (recording old) sent (recording new)
  | stalling {old new : Recorder} {gate gate' : Gate} {sent : List Bytes} :
      new.frames = old.frames ++ sent → Grown (stalling old gate) sent (stalling new gate')
  | channel {old new : Channel} {sent : List Bytes} :
      new.capacity = old.capacity → new.queue <:+ old.queue ++ sent →
      Grown (channel old) sent (channel new)

instance (old : Transport) (sent : List Bytes) (new : Transport) :
    Decidable (old.Grown sent new) :=
  match old, new with
  | recording old, recording new =>
    decidable_of_iff (new.frames = old.frames ++ sent)
      ⟨.recording, fun | .recording same => same⟩
  | stalling old _, stalling new _ =>
    decidable_of_iff (new.frames = old.frames ++ sent)
      ⟨.stalling, fun | .stalling same => same⟩
  | channel old, channel new =>
    decidable_of_iff (new.capacity = old.capacity ∧ new.queue <:+ old.queue ++ sent)
      ⟨fun ⟨same, held⟩ => .channel same held, fun | .channel same held => ⟨same, held⟩⟩
  | recording _, stalling _ _ | recording _, channel _ | stalling _ _, recording _
  | stalling _ _, channel _ | channel _, recording _ | channel _, stalling _ _ => isFalse nofun

theorem Grown.refl (transport : Transport) : transport.Grown [] transport := by
  cases transport with
  | recording recorder => exact .recording (List.append_nil _).symm
  | stalling recorder gate => exact .stalling (List.append_nil _).symm
  | channel queue => exact .channel rfl (by simp)

theorem Grown.trans {first second third : Transport} {sent more : List Bytes}
    (before : first.Grown sent second) (after : second.Grown more third) :
    first.Grown (sent ++ more) third := by
  cases before with
  | recording earlier =>
    cases after with | recording later =>
    exact .recording (by rw [later, earlier, List.append_assoc])
  | stalling earlier =>
    cases after with | stalling later =>
    exact .stalling (by rw [later, earlier, List.append_assoc])
  | channel same earlier =>
    cases after with | channel same' later =>
    refine .channel (same'.trans same) (later.trans ?_)
    obtain ⟨off, earlier⟩ := earlier
    exact ⟨off, by rw [← List.append_assoc, earlier, List.append_assoc]⟩

theorem Took.grown {transport after : Transport} {sent : List Bytes}
    (took : transport.Took sent after) : transport.Grown sent after := by
  cases took with
  | recording same => exact .recording (by rw [same])
  | stalling same => exact .stalling (by rw [same])
  | channel same => exact .channel (by rw [same]) (by simp [same])

/-- What a transport takes of a send. -/
def taken (frame : Bytes) (result : Option (Except SendError Unit)) : List Bytes :=
  if Hub.wentWell result then [frame] else []

theorem resend_took (transport : Transport) (frame : Bytes) :
    transport.Took (taken frame (transport.resend frame).1) (transport.resend frame).2 := by
  have recorded (recorder : Recorder) : (recorder.send frame).2 = { recorder with
      frames := recorder.frames ++ taken frame (some (recorder.send frame).1) } := by
    rw [Recorder.send]
    split <;> simp [taken, Hub.wentWell]
  cases transport with
  | recording recorder => exact .recording (recorded recorder)
  | stalling recorder gate =>
    rw [resend]
    split
    · exact .stalling (recorded recorder) rfl
    · exact Took.refl _
  | channel queue =>
    simp only [resend, Channel.send]
    split
    · exact Took.refl _
    · split
      · exact Took.refl _
      · exact .channel rfl

theorem send_eq_resend {transport : Transport} (passes : transport.passes = true) (frame : Bytes) :
    transport.send frame = transport.resend frame := by
  cases transport with
  | stalling recorder gate => exact if_pos passes
  | _ => rfl

theorem send_took (transport : Transport) (frame : Bytes) :
    transport.Took (taken frame (transport.send frame).1) (transport.send frame).2 := by
  cases passes : transport.passes with
  | true =>
    rw [send_eq_resend passes]
    exact transport.resend_took frame
  | false =>
    cases transport with
    | stalling recorder gate =>
      have held : gate.released = false := passes
      have told : gate.notify.released = gate.released := by
        rw [Gate.notify]
        split <;> rfl
      simp only [send, held, Bool.false_eq_true, ↓reduceIte]
      exact .stalling (by rw [taken]; simp [Hub.wentWell]) told
    | _ => cases passes

theorem resend_isSome {transport : Transport} (passes : transport.passes = true) (frame : Bytes) :
    (transport.resend frame).1.isSome = true := by
  cases transport with
  | stalling recorder gate =>
    have released : gate.released = true := passes
    simp [resend, released]
  | _ => rfl

/-! The transport's other end: whatever is done there leaves what was taken. -/

theorem cut_grown {transport after : Transport} (cut : transport.cut? = some after) :
    transport.Grown [] after := by
  cases transport <;> cases cut
  · exact .recording (List.append_nil _).symm
  · exact .stalling (List.append_nil _).symm

theorem release_grown {transport after : Transport} (released : transport.release? = some after) :
    transport.Grown [] after := by
  cases transport <;> cases released
  exact .stalling (List.append_nil _).symm

theorem dropReceiver_grown {transport after : Transport}
    (dropped : transport.dropReceiver? = some after) : transport.Grown [] after := by
  cases transport <;> cases dropped
  exact .channel rfl (List.nil_suffix)

end Transport

/-! ## Steps of a send -/

/-- A message from somebody to a recipient: from the broadcast of a number, or from elsewhere. -/
structure Letter where
  sender : Option Nat
  recipient : ConnectionId
  frame : Bytes
deriving DecidableEq

/-- What happens between a sender and a transport. -/
inductive Dealing where
  | begun
  | ended (result : Except SendError Unit)
deriving DecidableEq

/-- What happened to letters, in order. -/
abbrev Ledger := List (Letter × Dealing)

namespace Ledger

/-- What the transport of a recipient has taken. -/
def taken (ledger : Ledger) (id : ConnectionId) : List Bytes :=
  ledger.filterMap fun entry =>
    if entry.1.recipient = id ∧ entry.2 = .ended (.ok ()) then some entry.1.frame else none

/-- What happened to the letters of a broadcast to a recipient. -/
def between (ledger : Ledger) (number : Nat) (id : ConnectionId) : Ledger :=
  ledger.filter fun entry => entry.1.sender = some number ∧ entry.1.recipient = id

@[simp] theorem taken_append (ledger more : Ledger) (id : ConnectionId) :
    taken (ledger ++ more) id = ledger.taken id ++ more.taken id :=
  List.filterMap_append

@[simp] theorem between_append (ledger more : Ledger) (number : Nat) (id : ConnectionId) :
    between (ledger ++ more) number id = ledger.between number id ++ more.between number id :=
  List.filter_append ..

variable {ledger : Ledger} {number : Nat} {id : ConnectionId}

theorem taken_eq_nil (elsewhere : ∀ entry ∈ ledger, entry.1.recipient ≠ id) :
    ledger.taken id = [] :=
  List.filterMap_eq_nil_iff.2 fun entry found => if_neg fun both => elsewhere entry found both.1

theorem between_eq_self
    (all : ∀ entry ∈ ledger, entry.1.sender = some number ∧ entry.1.recipient = id) :
    ledger.between number id = ledger :=
  List.filter_eq_self.2 fun entry found => decide_eq_true (all entry found)

theorem between_eq_nil
    (others : ∀ entry ∈ ledger, ¬(entry.1.sender = some number ∧ entry.1.recipient = id)) :
    ledger.between number id = [] :=
  List.filter_eq_nil_iff.2 fun entry found => by simpa using others entry found

end Ledger

/-- How far a send has come. -/
inductive Sending where
  | due
  | heldBack
  | finished (result : Except SendError Unit)
deriving DecidableEq

namespace Sending

variable {Env Ctx : Type}

def ofResult : Option (Except SendError Unit) → Sending
  | none => heldBack
  | some result => finished result

def result? : Sending → Option (Except SendError Unit)
  | finished result => some result
  | _ => none

/-- What has happened to a letter by now. -/
def entries (letter : Letter) : Sending → Ledger
  | due => []
  | heldBack => [(letter, .begun)]
  | finished result => [(letter, .begun), (letter, .ended result)]

/-- What is written down when a step of a send has come to a result. -/
def ending (letter : Letter) (result : Option (Except SendError Unit)) : Ledger :=
  result.toList.map fun result => (letter, .ended result)

/-- The next step of a send, and what happens in it. -/
def step (hub : Hub Env Ctx) (letter : Letter) : Sending → Hub Env Ctx × Sending × Ledger
  | due =>
    let (result, hub) := hub.send letter.recipient letter.frame
    (hub, ofResult result, (letter, .begun) :: ending letter result)
  | heldBack =>
    let (result, hub) := hub.resend letter.recipient letter.frame
    (hub, ofResult result, ending letter result)
  | finished result => (hub, finished result, [])

@[simp] theorem entries_ofResult (letter : Letter) (result : Option (Except SendError Unit)) :
    (ofResult result).entries letter = (letter, .begun) :: ending letter result := by
  cases result <;> rfl

@[simp] theorem isSome_result?_ofResult (result : Option (Except SendError Unit)) :
    (ofResult result).result?.isSome = result.isSome := by
  cases result <;> rfl

theorem taken_ending (letter : Letter) (result : Option (Except SendError Unit)) :
    (ending letter result).taken letter.recipient = Transport.taken letter.frame result := by
  rcases result with _ | (_ | _) <;> simp [ending, Ledger.taken, Transport.taken, Hub.wentWell]

theorem taken_begun (letter : Letter) (more : Ledger) (id : ConnectionId) :
    Ledger.taken ((letter, .begun) :: more) id = more.taken id := by
  simp [Ledger.taken]

theorem fst_of_mem_ending {letter : Letter} {result : Option (Except SendError Unit)}
    {entry : Letter × Dealing} (found : entry ∈ ending letter result) : entry.1 = letter := by
  obtain ⟨_, -, rfl⟩ := List.mem_map.1 found
  rfl

end Sending

namespace Hub

variable {Env Ctx : Type} {hub after : Hub Env Ctx} {id : ConnectionId}

/-- The transport of a connection has changed as the relation says; nothing else of the hub has. -/
structure Alters (id : ConnectionId) (change : Transport → Transport → Prop)
    (hub after : Hub Env Ctx) : Prop where
  only : after = { hub with transports := after.transports }
  others : ∀ other, other ≠ id → after.transports.get? other = hub.transports.get? other
  own : Option.Rel change (hub.transports.get? id) (after.transports.get? id)

/-- The transport of a connection has taken what was sent; nothing else of the hub has changed. -/
abbrev Carries (id : ConnectionId) (sent : List Bytes) (hub after : Hub Env Ctx) : Prop :=
  Alters id (·.Took sent ·) hub after

/-- As `Carries`, but the transport may have been changed at its other end. -/
abbrev Grows (id : ConnectionId) (sent : List Bytes) (hub after : Hub Env Ctx) : Prop :=
  Alters id (·.Grown sent ·) hub after

theorem Carries.refl (id : ConnectionId) (hub : Hub Env Ctx) : Carries id [] hub hub where
  only := rfl
  others _ _ := rfl
  own := by
    cases hub.transports.get? id with
    | none => exact .none
    | some transport => exact .some (.refl transport)

theorem Carries.grows {sent : List Bytes} (carries : Carries id sent hub after) :
    Grows id sent hub after where
  only := carries.only
  others := carries.others
  own := by
    have own := carries.own
    generalize hub.transports.get? id = old, after.transports.get? id = new at own ⊢
    cases own with
    | none => exact .none
    | some took => exact .some took.grown

theorem Alters.of_set {transport next : Transport} {change : Transport → Transport → Prop}
    (found : hub.transports.get? id = some transport) (changed : change transport next) :
    Alters id change hub { hub with transports := hub.transports.set id next } where
  only := rfl
  others _ differ := Table.get?_set_of_ne _ _ differ
  own := by
    rw [found, Table.get?_set_self]
    exact .some changed

theorem carries_sendBy {step : Transport → Bytes → Option (Except SendError Unit) × Transport}
    {frame : Bytes}
    (took : ∀ transport : Transport,
      transport.Took (Transport.taken frame (step transport frame).1) (step transport frame).2) :
    Carries id (Transport.taken frame (hub.sendBy step id frame).1) hub
      (hub.sendBy step id frame).2 := by
  rw [sendBy]
  split
  · exact Carries.refl id hub
  · rename_i transport found
    exact .of_set found (took transport)

theorem sendBy_isSome {step : Transport → Bytes → Option (Except SendError Unit) × Transport}
    {frame : Bytes}
    (passes : ∀ transport, hub.transports.get? id = some transport →
      (step transport frame).1.isSome = true) : (hub.sendBy step id frame).1.isSome = true := by
  rw [sendBy]
  split
  · rfl
  · rename_i transport found
    exact passes transport found

end Hub

namespace Sending

variable {Env Ctx : Type} (hub : Hub Env Ctx) (letter : Letter) (sending : Sending)

theorem step_entries : (sending.step hub letter).2.1.entries letter =
    sending.entries letter ++ (sending.step hub letter).2.2 := by
  cases sending with
  | due => exact entries_ofResult ..
  | heldBack => exact entries_ofResult ..
  | finished result => rfl

/-- A step of a send is about its letter only. -/
theorem fst_of_mem_step {entry : Letter × Dealing}
    (found : entry ∈ (sending.step hub letter).2.2) : entry.1 = letter := by
  cases sending with
  | due =>
    rcases List.mem_cons.1 found with rfl | later
    · rfl
    · exact fst_of_mem_ending later
  | heldBack => exact fst_of_mem_ending found
  | finished result => cases found

/-- What a step of a send does to the hub. -/
theorem step_carries : hub.Carries letter.recipient
    ((sending.step hub letter).2.2.taken letter.recipient) (sending.step hub letter).1 := by
  cases sending with
  | due =>
    have same : (due.step hub letter).2.2.taken letter.recipient = _ :=
      (taken_begun ..).trans (taken_ending ..)
    rw [same]
    exact Hub.carries_sendBy fun transport => transport.send_took letter.frame
  | heldBack =>
    have same : (heldBack.step hub letter).2.2.taken letter.recipient = _ := taken_ending ..
    rw [same]
    exact Hub.carries_sendBy fun transport => transport.resend_took letter.frame
  | finished result => exact Hub.Carries.refl _ hub

variable {hub letter}

/-- Unless it is held back, a send is over after its next step. -/
theorem step_finished (passes : ∀ transport, hub.transports.get? letter.recipient = some transport →
    transport.passes = true) : (sending.step hub letter).2.1.result?.isSome = true := by
  have resent {transport : Transport}
      (found : hub.transports.get? letter.recipient = some transport) :
      (transport.resend letter.frame).1.isSome = true :=
    Transport.resend_isSome (passes transport found) _
  cases sending with
  | due =>
    have sent : (hub.send letter.recipient letter.frame).1.isSome = true := by
      refine Hub.sendBy_isSome fun transport found => ?_
      rw [Transport.send_eq_resend (passes transport found)]
      exact resent found
    exact (isSome_result?_ofResult _).trans sent
  | heldBack =>
    have sent : (hub.resend letter.recipient letter.frame).1.isSome = true :=
      Hub.sendBy_isSome fun _ found => resent found
    exact (isSome_result?_ofResult _).trans sent
  | finished result => rfl

end Sending

end Inspector
