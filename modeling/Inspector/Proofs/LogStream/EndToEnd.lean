import Inspector.Proofs.LogStream.Lines
import Inspector.Proofs.LogStream.Messages
import Inspector.Proofs.Session.Recording

/-!
# The log stream, end to end

Logs are read line by line while sessions come and go and the log stream is turned on and off. What
a session gets are the lines that were read while it was open and lines were wanted, in the order in
which they were read and once each (`log_stream_end_to_end`).

* A list of `Event`s is one schedule. `Agent` runs it on the hub of an agent.
* `Chronicle` only notes which lines are read, and how things are when they are.
* `Follows` ties them together, event by event (`Follows.step`).
-/

namespace Inspector.LogStream

open Wire
open Pack (letters length_encode_letters)

/-! ## Schedules -/

/-- What can happen between one line and the next. -/
inductive Event where
  | connect
  | disconnect (id : ConnectionId)
  | disconnectAll
  /-- The log stream is turned on or off from within the program. -/
  | turn (on : Bool)
  /-- A request whose reply is given back. -/
  | message (id : ConnectionId) (raw : Bytes)
  /-- A request whose reply goes over its connection. -/
  | binary (id : ConnectionId) (raw : Bytes)
  /-- One more log is there to be read. -/
  | tail (text : String)
  /-- The next line of a log is read. -/
  | line (log : Nat)

/-! ## What an agent makes of a schedule -/

/-- A log that is read: what is left of it, and what has become of its lines so far. -/
structure Reading where
  rest : List (Option String)
  stats : LineStats := {}
deriving DecidableEq

/-- An agent whose transports record. -/
structure Agent where
  hub : Hub Environment PinTable
  readings : List Reading := []

namespace Agent

def initial (env : Environment) : Agent := { hub := { env } }

/-- Reads the next line of a log. -/
def readLine (hub : Hub Environment PinTable) (reading : Reading) :
    Hub Environment PinTable × Reading :=
  match reading.rest with
  | [] => (hub, reading)
  | line :: rest =>
    match hub.forward (introspection .shared) reading.stats [line] with
    | (.finished (.forwarded (some stats)), hub) => (hub, { rest, stats })
    | (_, hub) => (hub, { reading with rest := [] })

def step (agent : Agent) : Event → Agent
  | .connect =>
    { agent with hub := (agent.hub.connect (introspection .shared) .newRecording).2 }
  | .disconnect id =>
    { agent with hub := (agent.hub.start (introspection .shared) (.disconnect id)).2 }
  | .disconnectAll =>
    { agent with hub := (agent.hub.start (introspection .shared) .disconnectAll).2 }
  | .turn on =>
    { agent with hub := { agent.hub with env := LogSwitch.shared.set agent.hub.env on } }
  | .message id raw =>
    { agent with hub := (agent.hub.start (introspection .shared) (.message id raw)).2 }
  | .binary id raw =>
    { agent with hub := (agent.hub.start (introspection .shared) (.binary id raw)).2 }
  | .tail text =>
    { agent with readings := agent.readings ++ [{ rest := lines (Text.encode text) }] }
  | .line log =>
    match agent.readings[log]? with
    | none => agent
    | some reading =>
      let (hub, reading) := readLine agent.hub reading
      { hub, readings := agent.readings.set log reading }

def run (agent : Agent) (events : List Event) : Agent := events.foldl step agent

end Agent

/-! ## What happens in a schedule -/

/-- A line that was read, whether lines were wanted then, and the sessions that were open. -/
structure LineRead where
  log : Nat
  line : String
  wanted : Bool
  present : List ConnectionId

/-- A log and those of its lines that are not read yet. -/
structure Log where
  text : String
  rest : List String

/-- Who is there, what is wanted, and what was read so far. -/
structure Chronicle where
  next : ConnectionId := 1
  present : List ConnectionId := []
  wanted : Bool
  logs : List Log := []
  reads : List LineRead := []

namespace Chronicle

def initial (wanted : Bool) : Chronicle := { wanted }

def step (told : Chronicle) : Event → Chronicle
  | .connect => { told with next := told.next + 1, present := told.present ++ [told.next] }
  | .disconnect id => { told with present := told.present.filter (· ≠ id) }
  | .disconnectAll => { told with present := [] }
  | .turn on => { told with wanted := on }
  | .message id raw | .binary id raw =>
    if id ∈ told.present then { told with wanted := wantedAfter raw told.wanted } else told
  | .tail text => { told with logs := told.logs ++ [{ text, rest := textLines text }] }
  | .line log =>
    match told.logs[log]? with
    | some { text, rest := line :: rest } =>
      { told with
        logs := told.logs.set log { text, rest }
        reads := told.reads ++ [{ log, line, wanted := told.wanted, present := told.present }] }
    | _ => told

def run (told : Chronicle) (events : List Event) : Chronicle := events.foldl step told

end Chronicle

/-- The lines that were read while a session was open and lines were wanted. -/
def heardBy (id : ConnectionId) (reads : List LineRead) : List String :=
  (reads.filter fun read => read.wanted && read.present.contains id).map (·.line)

/-- What was read of one log. -/
def readOf (log : Nat) (reads : List LineRead) : List LineRead :=
  reads.filter (·.log = log)

/-- How many lines of a log were wanted and how many were not. -/
def statsOf (log : Nat) (reads : List LineRead) : LineStats where
  forwarded := (readOf log reads).countP (·.wanted)
  discarded := (readOf log reads).countP (!·.wanted)

/-! ## One more line -/

variable {reads : List LineRead} {read : LineRead} {id : ConnectionId} {log : Nat}

theorem heardBy_concat : heardBy id (reads ++ [read]) =
    heardBy id reads ++ if read.wanted ∧ id ∈ read.present then [read.line] else [] := by
  rw [heardBy, List.filter_append, List.map_append, ← heardBy, List.filter_cons, List.filter_nil]
  simp only [Bool.and_eq_true, List.contains_iff_mem]
  split <;> rfl

theorem readOf_concat : readOf log (reads ++ [read]) =
    readOf log reads ++ if read.log = log then [read] else [] := by
  rw [readOf, List.filter_append, ← readOf, List.filter_cons, List.filter_nil]
  simp only [decide_eq_true_eq]

/-- Statistics with one more line. -/
def LineStats.counted (stats : LineStats) (wanted : Bool) : LineStats :=
  if wanted then { stats with forwarded := stats.forwarded + 1 }
  else { stats with discarded := stats.discarded + 1 }

theorem statsOf_concat : statsOf log (reads ++ [read]) =
    if read.log = log then (statsOf log reads).counted read.wanted else statsOf log reads := by
  rw [statsOf, readOf_concat]
  split
  · rw [List.countP_append, List.countP_append, List.countP_singleton, List.countP_singleton]
    cases read.wanted <;> rfl
  · rw [List.append_nil, statsOf]

theorem forwarded_add_discarded (log : Nat) (reads : List LineRead) :
    (statsOf log reads).forwarded + (statsOf log reads).discarded = (readOf log reads).length := by
  rw [statsOf, List.length_eq_countP_add_countP (·.wanted)]
  simp only [Bool.not_eq_true, Bool.decide_eq_false]

/-! ## Who was told what -/

/-- The log lines that are kept for the sessions are those they should have heard. -/
def Carries (hub : Hub Environment PinTable) (told : Chronicle) : Prop :=
  hub.env.streamLogs = told.wanted ∧
  ∃ sent, hub.Stands told.next told.present sent ∧
    ∀ id, logLines (sent id) =
      ((heardBy id told.reads).filter isSendable).map Response.logLine

/-- Every log is read from its first line on. -/
structure Accounts (readings : List Reading) (told : Chronicle) : Prop where
  readings : readings = told.logs.mapIdx fun log state =>
    { rest := state.rest.map some, stats := statsOf log told.reads }
  known : ∀ read ∈ told.reads, read.log < told.logs.length ∧ ∀ id ∈ read.present, id < told.next
  complete : ∀ log state, told.logs[log]? = some state →
    (readOf log told.reads).map (·.line) ++ state.rest = textLines state.text

/-! ## Logs -/

section

variable {readings : List Reading} {told : Chronicle} {state : Log}

/-- A session that is yet to come has heard nothing. -/
theorem Accounts.heardBy_eq_nil (accounts : Accounts readings told) (later : told.next ≤ id) :
    heardBy id told.reads = [] := by
  rw [heardBy, List.map_eq_nil_iff, List.filter_eq_nil_iff]
  intro read among heard
  rw [Bool.and_eq_true, List.contains_iff_mem] at heard
  exact Nat.not_lt_of_le later ((accounts.known read among).2 id heard.2)

/-- Nothing that happens beside logs changes what was read of them. -/
theorem Accounts.of_same {after : Chronicle} (accounts : Accounts readings told)
    (logs : after.logs = told.logs) (reads : after.reads = told.reads)
    (next : told.next ≤ after.next) : Accounts readings after where
  readings := by rw [logs, reads]; exact accounts.readings
  known := by
    rw [logs, reads]
    intro read among
    obtain ⟨number, present⟩ := accounts.known read among
    exact ⟨number, fun id there => Nat.lt_of_lt_of_le (present id there) next⟩
  complete := by rw [logs, reads]; exact accounts.complete

theorem Accounts.request (accounts : Accounts readings told) (id : ConnectionId) (raw : Bytes) :
    Accounts readings (told.step (.message id raw)) := by
  rw [Chronicle.step]
  split
  · exact accounts.of_same rfl rfl (Nat.le_refl _)
  · exact accounts

/-- No line was read yet of a log that is new. -/
theorem Accounts.readOf_eq_nil (accounts : Accounts readings told)
    (later : told.logs.length ≤ log) : readOf log told.reads = [] := by
  rw [readOf, List.filter_eq_nil_iff]
  intro read among same
  rw [decide_eq_true_eq] at same
  exact Nat.not_lt_of_le later (same ▸ (accounts.known read among).1)

theorem Accounts.tail (accounts : Accounts readings told) (text : String) :
    Accounts (readings ++ [{ rest := lines (Text.encode text) }]) (told.step (.tail text)) where
  readings := by
    have none := accounts.readOf_eq_nil (Nat.le_refl _)
    rw [Chronicle.step, List.mapIdx_append, ← accounts.readings, lines_encode]
    simp [statsOf, none]
  known read among := by
    obtain ⟨number, present⟩ := accounts.known read among
    refine ⟨?_, present⟩
    rw [Chronicle.step, List.length_append]
    exact Nat.lt_add_right _ number
  complete log state found := by
    rw [Chronicle.step] at found
    dsimp only at found
    rcases Nat.lt_trichotomy log told.logs.length with earlier | rfl | later
    · rw [List.getElem?_append_left earlier] at found
      exact accounts.complete log state found
    · rw [List.getElem?_concat_length] at found
      cases found
      rw [Chronicle.step, accounts.readOf_eq_nil (Nat.le_refl _)]
      rfl
    · rw [List.getElem?_eq_none (by rw [List.length_append]; exact later)] at found
      cases found

theorem Accounts.readings_eq (accounts : Accounts readings told)
    (found : told.logs[log]? = some state) :
    readings[log]? = some { rest := state.rest.map some, stats := statsOf log told.reads } := by
  rw [accounts.readings, List.getElem?_mapIdx, found, Option.map_some]

/-- Every line of a log is forwarded, discarded or still there. -/
theorem Accounts.total (accounts : Accounts readings told)
    (found : told.logs[log]? = some state) :
    (statsOf log told.reads).forwarded + (statsOf log told.reads).discarded + state.rest.length =
      (textLines state.text).length := by
  rw [forwarded_add_discarded, ← accounts.complete log state found, List.length_append,
    List.length_map]

theorem Chronicle.step_line {text line : String} {rest : List String}
    (found : told.logs[log]? = some { text, rest := line :: rest }) :
    told.step (.line log) = { told with
      logs := told.logs.set log { text, rest }
      reads := told.reads ++ [{ log, line, wanted := told.wanted, present := told.present }] } := by
  rw [step, found]

/-- A line that is read goes over from what is left of its log to what was read, and the other logs
stay as they are. -/
theorem Accounts.line (accounts : Accounts readings told)
    (below : ∀ id ∈ told.present, id < told.next) {text line : String} {rest : List String}
    (found : told.logs[log]? = some { text, rest := line :: rest }) :
    Accounts (readings.set log
        { rest := rest.map some, stats := (statsOf log told.reads).counted told.wanted })
      (told.step (.line log)) := by
  have inside : log < told.logs.length := (List.getElem?_eq_some_iff.1 found).1
  rw [Chronicle.step_line found]
  refine ⟨List.ext_getElem? fun other => ?_, fun read among => ?_, fun other state there => ?_⟩
  · rw [List.getElem?_mapIdx, List.getElem?_set, List.getElem?_set, statsOf_concat,
      accounts.readings, List.length_mapIdx, List.getElem?_mapIdx]
    by_cases same : log = other
    · subst same
      simp [inside]
    · simp [same]
  · dsimp only
    rw [List.length_set]
    rcases List.mem_append.1 among with earlier | latest
    · exact accounts.known read earlier
    · rw [List.mem_singleton.1 latest]
      exact ⟨inside, below⟩
  · dsimp only at there ⊢
    rw [List.getElem?_set] at there
    rw [readOf_concat]
    dsimp only
    by_cases same : log = other
    · subst same
      rw [if_pos rfl, if_pos inside] at there
      cases there
      rw [if_pos rfl, List.map_append, List.append_assoc]
      exact accounts.complete log _ found
    · rw [if_neg same] at there
      rw [if_neg same, List.append_nil]
      exact accounts.complete other state there

end

/-! ## Sessions -/

section

variable {hub : Hub Environment PinTable} {told : Chronicle}

/-- A line is read: each session that is open has it if lines are wanted. -/
theorem Carries.line (carries : Carries hub told) (log : Nat) (line : String) (stats : LineStats) :
    ∃ after, hub.forward (introspection .shared) stats [some line] =
        (.finished (.forwarded (some (stats.counted told.wanted))), after) ∧
      Carries after { told with
        reads := told.reads ++
          [{ log, line, wanted := told.wanted, present := told.present }] } := by
  obtain ⟨switch, sent, stands, heard⟩ := carries
  have same : (introspection .shared).streamLogs hub.env = told.wanted := switch
  -- beside lines that are sent there are those that are not wanted and those that make no message
  cases wanted : told.wanted with
  | false =>
    refine ⟨hub, Hub.forward_of_unwanted (same.trans wanted) stats line, switch.trans wanted, sent,
      stands, fun id => ?_⟩
    dsimp only
    rw [heardBy_concat, if_neg fun both => Bool.false_ne_true both.1, List.append_nil]
    exact heard id
  | true =>
    rcases encodeLine_eq .shared line with ⟨sendable, encoded⟩ | ⟨unsendable, reason, refused⟩
    · obtain ⟨after, read, env, next⟩ := stands.forward (same.trans wanted) encoded stats
      refine ⟨after, read, (congrArg Environment.streamLogs env).trans (switch.trans wanted), _,
        next, fun id => ?_⟩
      dsimp only
      rw [heardBy_concat, List.filter_append, List.map_append, ← heard]
      by_cases present : id ∈ told.present
      · rw [if_pos present, if_pos ⟨rfl, present⟩, logLines_append, logLines_logLine sendable]
        simp [sendable]
      · rw [if_neg present, if_neg fun both => present both.2]
        exact (List.append_nil _).symm
    · refine ⟨hub, Hub.forward_of_error (same.trans wanted) refused stats,
        switch.trans wanted, sent, stands, fun id => ?_⟩
      dsimp only
      rw [heardBy_concat, List.filter_append, List.map_append, ← heard]
      split
      · simp [unsendable]
      · exact (List.append_nil _).symm

theorem lasting_streamLogs :
    Hub.Lasting (introspection .shared) fun env : Environment => env.streamLogs :=
  streamLogs_teardown

/-- A request is handled if its session is open, and no log line is sent for it. -/
theorem Carries.message (carries : Carries hub told) (id : ConnectionId) (raw : Bytes) :
    Carries (hub.start (introspection .shared) (.message id raw)).2
      (told.step (.message id raw)) := by
  obtain ⟨switch, sent, stands, heard⟩ := carries
  rw [Chronicle.step]
  split
  · rename_i present
    obtain ⟨pins, after, replied, next, env⟩ := stands.message (introspection .shared) present raw
    rw [replied]
    refine ⟨?_, sent, next, heard⟩
    rw [env, streamLogs_handle, switch]
  · rename_i absent
    rw [stands.message_of_absent (introspection .shared) absent]
    exact ⟨switch, sent, stands, heard⟩

theorem Carries.binary (carries : Carries hub told) (id : ConnectionId) (raw : Bytes) :
    Carries (hub.start (introspection .shared) (.binary id raw)).2
      (told.step (.binary id raw)) := by
  obtain ⟨switch, sent, stands, heard⟩ := carries
  rw [Chronicle.step]
  split
  · rename_i present
    obtain ⟨pins, env, next⟩ := stands.binary (introspection .shared) present raw
    refine ⟨?_, _, next, fun other => ?_⟩
    · rw [env, streamLogs_handle, switch]
    · rw [Function.update_apply]
      split
      · rename_i same
        rw [logLines_append, logLines_reply, List.append_nil, same]
        exact heard id
      · exact heard other
  · rename_i absent
    rw [stands.binary_of_absent (introspection .shared) absent]
    exact ⟨switch, sent, stands, heard⟩

theorem Carries.connect (carries : Carries hub told) (fresh : heardBy told.next told.reads = []) :
    Carries (hub.connect (introspection .shared) .newRecording).2 (told.step .connect) := by
  obtain ⟨switch, sent, stands, heard⟩ := carries
  refine ⟨switch, _, stands.connect rfl, fun id => ?_⟩
  rw [Chronicle.step, Function.update_apply]
  split
  · rename_i same
    rw [same, fresh]
    rfl
  · exact heard id

end

/-! ## Schedules, event by event -/

/-- What is kept for the sessions, and what became of the logs, are as they were told. -/
structure Follows (agent : Agent) (told : Chronicle) : Prop where
  carries : Carries agent.hub told
  accounts : Accounts agent.readings told

section

variable {agent : Agent} {told : Chronicle}

theorem follows_initial (env : Environment) :
    Follows (.initial env) (.initial env.streamLogs) where
  carries := ⟨rfl, _, Hub.stands_initial env, fun _ => rfl⟩
  accounts := ⟨rfl, nofun, fun log state found => by cases found⟩

theorem Follows.below (follows : Follows agent told) : ∀ id ∈ told.present, id < told.next := by
  obtain ⟨-, sent, stands, -⟩ := follows.carries
  exact stands.below

/-- After its last line nothing more is read of a log. -/
theorem Agent.step_line_of_nil {stats : LineStats}
    (found : agent.readings[log]? = some { rest := [], stats }) :
    agent.step (.line log) = agent := by
  obtain ⟨inside, same⟩ := List.getElem?_eq_some_iff.1 found
  rw [step, found]
  simp only [readLine]
  rw [← same, List.set_getElem_self]

theorem Agent.step_line {line : Option String} {rest : List (Option String)}
    {stats later : LineStats} {after : Hub Environment PinTable}
    (found : agent.readings[log]? = some { rest := line :: rest, stats })
    (read : agent.hub.forward (introspection .shared) stats [line] =
      (.finished (.forwarded (some later)), after)) :
    agent.step (.line log) =
      { hub := after, readings := agent.readings.set log { rest, stats := later } } := by
  rw [step, found]
  simp only [readLine, read]

theorem Follows.line (follows : Follows agent told) (log : Nat) :
    Follows (agent.step (.line log)) (told.step (.line log)) := by
  cases found : told.logs[log]? with
  | none =>
    have none : agent.readings[log]? = none := by
      rw [follows.accounts.readings, List.getElem?_mapIdx, found, Option.map_none]
    rw [Agent.step, none, Chronicle.step, found]
    exact follows
  | some state =>
    obtain ⟨text, rest⟩ := state
    have reading := follows.accounts.readings_eq found
    cases rest with
    | nil =>
      rw [Agent.step_line_of_nil reading, Chronicle.step, found]
      exact follows
    | cons line rest =>
      obtain ⟨after, read, carries⟩ := follows.carries.line log line (statsOf log told.reads)
      have accounts := follows.accounts.line follows.below found
      rw [Agent.step_line reading read]
      rw [Chronicle.step_line found] at accounts ⊢
      exact ⟨carries, accounts⟩

theorem Follows.step (follows : Follows agent told) (event : Event) :
    Follows (agent.step event) (told.step event) := by
  obtain ⟨carries, accounts⟩ := follows
  cases event with
  | connect =>
    exact ⟨carries.connect (accounts.heardBy_eq_nil (Nat.le_refl _)),
      accounts.of_same rfl rfl (Nat.le_succ _)⟩
  | disconnect id =>
    obtain ⟨switch, sent, stands, heard⟩ := carries
    obtain ⟨next, env⟩ := stands.disconnect lasting_streamLogs id
    exact ⟨⟨env.trans switch, sent, next, heard⟩, accounts.of_same rfl rfl (Nat.le_refl _)⟩
  | disconnectAll =>
    obtain ⟨switch, sent, stands, heard⟩ := carries
    obtain ⟨next, env⟩ := stands.disconnectAll lasting_streamLogs
    exact ⟨⟨env.trans switch, sent, next, heard⟩, accounts.of_same rfl rfl (Nat.le_refl _)⟩
  | turn on =>
    obtain ⟨switch, sent, stands, heard⟩ := carries
    exact ⟨⟨rfl, sent, stands.setEnv _, heard⟩, accounts.of_same rfl rfl (Nat.le_refl _)⟩
  | message id raw => exact ⟨carries.message id raw, accounts.request id raw⟩
  | binary id raw => exact ⟨carries.binary id raw, accounts.request id raw⟩
  | tail text => exact ⟨carries, accounts.tail text⟩
  | line log => exact Follows.line ⟨carries, accounts⟩ log

theorem Follows.run (follows : Follows agent told) (events : List Event) :
    Follows (agent.run events) (told.run events) := by
  induction events generalizing agent told with
  | nil => exact follows
  | cons event events ih => exact ih (follows.step event)

/-- Where a log is read to its end with nothing in between, the hub forwards its lines. -/
theorem Follows.forward (follows : Follows agent told) {text : String} {rest : List String}
    (found : told.logs[log]? = some { text, rest }) :
    let events : List Event := .replicate rest.length (.line log)
    (told.run events).logs[log]? = some { text, rest := [] } ∧
      agent.hub.forward (introspection .shared) (statsOf log told.reads) (rest.map some) =
        (.finished (.forwarded (some (statsOf log (told.run events).reads))),
          (agent.run events).hub) := by
  -- on the lines that are left, while agent and chronicle go on together
  induction rest generalizing agent told with
  | nil => exact ⟨found, rfl⟩
  | cons line rest ih =>
    obtain ⟨after, read, -⟩ := follows.carries.line log line (statsOf log told.reads)
    have stepped := Agent.step_line (follows.accounts.readings_eq found) read
    have next := Chronicle.step_line found
    have left : (told.step (.line log)).logs[log]? = some { text, rest } := by
      rw [next]
      exact List.getElem?_set_self (List.getElem?_eq_some_iff.1 found).1
    have stats : statsOf log (told.step (.line log)).reads =
        (statsOf log told.reads).counted told.wanted := by
      rw [next, statsOf_concat, if_pos rfl]
    obtain ⟨done, forwarded⟩ := ih (follows.step (.line log)) left
    refine ⟨done, ?_⟩
    rw [stats, stepped] at forwarded
    rw [List.map_cons, Hub.forward_cons read, forwarded, ← stepped]
    rfl

/-- What the hub does when it forwards the lines of a text is to read them as a log. -/
theorem Follows.forward_tail (follows : Follows agent told) (text : String) :
    let log := agent.readings.length
    let last := agent.run (.tail text :: .replicate (textLines text).length (.line log))
    ∃ stats, agent.hub.start (introspection .shared) (.forward (lines (Text.encode text))) =
        (.finished (.forwarded (some stats)), last.hub) ∧
      last.readings[log]? = some { rest := [], stats } ∧
      stats.forwarded + stats.discarded = (textLines text).length := by
  have number : agent.readings.length = told.logs.length := by
    rw [follows.accounts.readings, List.length_mapIdx]
  have begun : Follows (agent.step (.tail text)) (told.step (.tail text)) := follows.step _
  have there : (told.step (.tail text)).logs[told.logs.length]? =
      some { text, rest := textLines text } := List.getElem?_concat_length
  have none : statsOf told.logs.length (told.step (.tail text)).reads = {} := by
    rw [statsOf, Chronicle.step, follows.accounts.readOf_eq_nil (Nat.le_refl _)]
    rfl
  obtain ⟨done, forwarded⟩ := begun.forward there
  have last := (begun.run (.replicate (textLines text).length (.line told.logs.length))).accounts
  have total := last.total done
  rw [List.length_nil, Nat.add_zero] at total
  rw [none, ← lines_encode] at forwarded
  rw [number]
  exact ⟨_, forwarded, last.readings_eq done, total⟩

end

/-! ## The whole stream -/

/-- After any schedule of connects, disconnects, requests, turns of the switch, and lines that are
read from any number of logs by turns:

* The chronicle has the sessions that are open, and whether the switch is on.
* The log lines among the frames that are kept for a session are those that were read while the
  session was open and the switch was on, in the order in which they were read, each as often as it
  was read, and all with the id of log lines. Only lines that are longer than `maxLineLength` make
  no message: the sizes in a message are written in 32 bits.
* What was read of a log are its lines from the first one on, and each of them was counted, as
  forwarded if the switch was on and else as discarded. So once a log was read to its end, as many
  lines were forwarded or discarded as its text has.
* If nothing comes in between, reading a log to its end is what the hub does when it forwards the
  lines of the log. -/
theorem log_stream_end_to_end (env : Environment) (events : List Event) :
    let agent := (Agent.initial env).run events
    let told := (Chronicle.initial env.streamLogs).run events
    (agent.hub.env.streamLogs = told.wanted ∧
      ∀ id, agent.hub.isOpen id = true ↔ id ∈ told.present) ∧
    (∀ id, logLines (agent.hub.framesOf id) =
      ((heardBy id told.reads).filter isSendable).map Response.logLine) ∧
    (∀ log state, told.logs[log]? = some state →
      (readOf log told.reads).map (·.line) ++ state.rest = textLines state.text ∧
      let stats := statsOf log told.reads
      agent.readings[log]? = some { rest := state.rest.map some, stats } ∧
        stats.forwarded + stats.discarded + state.rest.length = (textLines state.text).length) ∧
    ∀ text,
      let log := agent.readings.length
      let last := agent.run (.tail text :: .replicate (textLines text).length (.line log))
      ∃ stats, agent.hub.start (introspection .shared) (.forward (lines (Text.encode text))) =
          (.finished (.forwarded (some stats)), last.hub) ∧
        last.readings[log]? = some { rest := [], stats } ∧
        stats.forwarded + stats.discarded = (textLines text).length := by
  intro agent told
  have follows : Follows agent told := (follows_initial env).run events
  obtain ⟨switch, sent, stands, heard⟩ := follows.carries
  refine ⟨⟨switch, fun id => stands.isOpen_iff⟩, fun id => ?_, fun log state found => ?_,
    fun text => ?_⟩
  · rw [stands.frames, heard]
  · exact ⟨follows.accounts.complete log state found, follows.accounts.readings_eq found,
      follows.accounts.total found⟩
  · exact follows.forward_tail text

/-- A session opens, and then a log is read that is one line. -/
def oneLine (line : String) : List Event := [.connect, .tail line, .line 0]

theorem run_oneLine {line : String} (single : textLines line = [line]) :
    (Chronicle.initial true).run (oneLine line) =
      { next := 2, present := [1], wanted := true, logs := [{ text := line, rest := [] }]
        reads := [{ log := 0, line, wanted := true, present := [1] }] } := by
  rw [oneLine, Chronicle.run]
  simp [Chronicle.initial, Chronicle.step, single]

/-- A line that is one letter too long is read while a session is open and the switch is on, and is
counted as forwarded, but the session never has it. -/
theorem overlong_line_lost :
    let line := letters (maxLineLength + 1)
    let agent := (Agent.initial { host := .empty }).run (oneLine line)
    let told := (Chronicle.initial true).run (oneLine line)
    (agent.hub.isOpen 1 = true ∧ agent.hub.env.streamLogs = true) ∧
      heardBy 1 told.reads = [line] ∧
      agent.readings = [{ rest := [], stats := { forwarded := 1 } }] ∧
      logLines (agent.hub.framesOf 1) = [] ∧
      logLines (agent.hub.framesOf 1) ≠ (heardBy 1 told.reads).map Response.logLine := by
  intro line agent told
  have size : (Text.encode line).length = maxLineLength + 1 := length_encode_letters _
  have plain : '\n' ∉ line.toList := by
    simp only [line, letters, String.toList_ofList, List.mem_replicate]
    exact fun both => absurd both.2 (by decide)
  have single : textLines line = [line] := by
    rw [textLines_tail plain, if_neg]
    intro empty
    rw [empty] at size
    cases size
  have unsendable : isSendable line = false := by
    rw [isSendable, size]
    exact decide_eq_false (Nat.not_succ_le_self _)
  have follows : Follows agent told := (follows_initial { host := .empty }).run (oneLine line)
  have outcome : told = _ := run_oneLine single
  obtain ⟨switch, sent, stands, heard⟩ := follows.carries
  have once : heardBy 1 told.reads = [line] := by
    rw [outcome]
    rfl
  have lost : logLines (agent.hub.framesOf 1) = [] := by
    rw [stands.frames, heard, once, List.filter_cons_of_neg (Bool.eq_false_iff.1 unsendable)]
    rfl
  have counted : agent.readings = [{ rest := [], stats := { forwarded := 1 } }] := by
    rw [follows.accounts.readings, outcome]
    rfl
  refine ⟨⟨stands.isOpen_iff.2 ?_, switch.trans ?_⟩, once, counted, lost, ?_⟩
  · rw [outcome]
    exact List.mem_singleton_self 1
  · rw [outcome]
  · rw [lost, once]
    exact (List.cons_ne_nil _ _).symm

/-- The second of three lines is read while the switch is off, and the second session comes after
the first line. -/
example :
    let told := (Chronicle.initial true).run [.connect, .tail "a\r\nb\n\nc", .line 0, .connect,
      .turn false, .line 0, .turn true, .line 0, .disconnect 1, .line 0]
    heardBy 1 told.reads = ["a", ""] ∧ heardBy 2 told.reads = ["", "c"] ∧
      statsOf 0 told.reads = { forwarded := 3, discarded := 1 } := by decide +kernel

end Inspector.LogStream
