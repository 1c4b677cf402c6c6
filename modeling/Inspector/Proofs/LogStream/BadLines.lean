import Inspector.Proofs.Session.Recording
import Inspector.Simulation.Echo

/-!
# Lines that are not text

A log is read up to its first line that is not text. Reading it is broadcasting the lines before
that one, one after the other, with others in between whenever a send is held back
(`settled_forward`); what stands behind the bad line is never read. So all lines that are text are
broadcast just if none of them stands behind a bad one (`readable_eq_texts_iff`).
-/

namespace Inspector

/-! ## The lines of a log -/

namespace LogStream

/-- The lines before the first one that is not text. -/
def readable : List (Option String) → List String
  | some line :: rest => line :: readable rest
  | _ => []

/-- What is left when a log has been read as far as it can be. -/
def unread : List (Option String) → List (Option String)
  | some _ :: rest => unread rest
  | rest => rest

/-- The lines that are text. -/
def texts (lines : List (Option String)) : List String := lines.filterMap id

theorem readable_append_unread (lines : List (Option String)) :
    (readable lines).map some ++ unread lines = lines := by
  induction lines with
  | nil => rfl
  | cons line rest ih =>
    cases line with
    | none => rfl
    | some line => exact congrArg (some line :: ·) ih

/-- A log is left unread from a bad line on. -/
theorem unread_cases (lines : List (Option String)) :
    unread lines = [] ∧ none ∉ lines ∨ ∃ back, unread lines = none :: back ∧ none ∈ lines := by
  induction lines with
  | nil => exact .inl ⟨rfl, List.not_mem_nil⟩
  | cons line rest ih =>
    cases line with
    | none => exact .inr ⟨rest, rfl, List.mem_cons_self⟩
    | some line =>
      rcases ih with ⟨whole, fine⟩ | ⟨back, left, bad⟩
      · refine .inl ⟨whole, fun found => ?_⟩
        rcases List.mem_cons.1 found with same | later
        · cases same
        · exact fine later
      · exact .inr ⟨back, left, List.mem_cons_of_mem _ bad⟩

theorem texts_eq_nil {lines : List (Option String)} :
    texts lines = [] ↔ ∀ line ∈ lines, line = none :=
  List.filterMap_eq_nil_iff

/-- All texts are readable just if no text stands behind a bad line. -/
theorem readable_eq_texts_iff (lines : List (Option String)) :
    readable lines = texts lines ↔
      ∀ front back, lines = front ++ none :: back → ∀ line ∈ back, line = none := by
  induction lines with
  | nil => simp [readable, texts]
  | cons first rest ih =>
    cases first with
    | none =>
      have here : readable (none :: rest) = texts (none :: rest) ↔ texts rest = [] := eq_comm
      rw [here, texts_eq_nil]
      constructor
      · intro bad front back parts line found
        cases front with
        | nil =>
          cases parts
          exact bad line found
        | cons _ front =>
          obtain rfl := (List.cons.inj parts).2
          exact bad line (List.mem_append_right _ (List.mem_cons_of_mem _ found))
      · intro behind
        exact behind [] rest rfl
    | some text =>
      have here : readable (some text :: rest) = texts (some text :: rest) ↔
          readable rest = texts rest := List.cons_inj_right text
      rw [here, ih]
      constructor
      · intro behind front back parts
        cases front with
        | nil => cases parts
        | cons _ front => exact behind front back (List.cons.inj parts).2
      · intro behind front back parts
        exact behind (some text :: front) back (congrArg (some text :: ·) parts)

end LogStream

/-! ## Operations that go on while others do as they like -/

namespace Hub

variable {Env Ctx : Type} (provider : ContextProvider Env Ctx)

/-- What others do to a hub before an operation that waits goes on. -/
abbrev Meddling (Env Ctx : Type) := List (Hub Env Ctx → Hub Env Ctx)

/-- Runs an operation on, each time after others have come in between, until it is over or nobody
lets it go on. Gives also what others have not done yet. -/
def settled : Meddling Env Ctx → Run Env Ctx → Run Env Ctx × Meddling Env Ctx
  | other :: rest, (.waits suspended, hub) => settled rest ((other hub).resume provider suspended)
  | others, run => (run, others)

/-- Where the broadcasts of some lines stand: over, or with a line that is held back and lines
behind it. -/
structure Telling (Env Ctx : Type) where
  hub : Hub Env Ctx
  held : Option (Bytes × List Delivery × List String) := none

/-- Broadcasts lines one after the other. -/
def tellEach (hub : Hub Env Ctx) (others : Meddling Env Ctx) :
    List String → Telling Env Ctx × Meddling Env Ctx
  | [] => ({ hub }, others)
  | line :: rest =>
    match settled provider others (hub.broadcast provider line) with
    | ((.waits (.broadcast frame deliveries), hub), others) =>
      ({ hub, held := some (frame, deliveries, rest) }, others)
    | ((_, hub), others) => tellEach hub others rest

/-- How far a log is read when broadcasts of its lines stand somewhere. `tail` is what cannot be
read, and `stats` counts the lines if all are read. -/
def Telling.progress (telling : Telling Env Ctx) (tail : List (Option String))
    (stats : LogStream.LineStats) : Progress :=
  match telling.held with
  | none => .finished (.forwarded (if tail = [] then some stats else none))
  | some (frame, deliveries, rest) =>
    .waits (.forward frame deliveries (rest.map some ++ tail)
      { stats with forwarded := stats.forwarded - rest.length })

/-- Goes on with the next lines when the broadcast of a line is over. -/
def thenForward (rest : List (Option String)) (stats : LogStream.LineStats) :
    Run Env Ctx → Run Env Ctx
  | (.finished (.broadcast _), hub) => hub.forward provider stats rest
  | (.waits (.broadcast frame deliveries), hub) =>
    (.waits (.forward frame deliveries rest stats), hub)
  | run => run

/-- Goes on with the next lines when the broadcast of a line was run on. -/
def readOn (rest : List (Option String)) (stats : LogStream.LineStats) :
    Run Env Ctx × Meddling Env Ctx → Run Env Ctx × Meddling Env Ctx
  | ((.waits (.broadcast frame deliveries), hub), others) =>
    ((.waits (.forward frame deliveries rest stats), hub), others)
  | ((_, hub), others) => settled provider others (hub.forward provider stats rest)

variable {provider} {hub : Hub Env Ctx} {stats : LogStream.LineStats}

/-- Reading a line is broadcasting it, if it is wanted. -/
theorem forward_wanted (wanted : provider.streamLogs hub.env = true) (line : String)
    (rest : List (Option String)) :
    hub.forward provider stats (some line :: rest) =
      thenForward provider rest { stats with forwarded := stats.forwarded + 1 }
        (hub.broadcast provider line) := by
  rw [forward, if_pos wanted, broadcast]
  dsimp only
  split <;> rename_i started
  · rfl
  · split <;> rename_i reported
    · rfl
    · rfl

theorem resume_forward (frame : Bytes) (deliveries : List Delivery)
    (rest : List (Option String)) :
    hub.resume provider (.forward frame deliveries rest stats) =
      thenForward provider rest stats (hub.resume provider (.broadcast frame deliveries)) := by
  rw [resume, resume]
  dsimp only
  split <;> rename_i reported
  · rfl
  · rfl

/-! ## Broadcasts alone -/

/-- The progress of a broadcast. -/
inductive OfBroadcast : Progress → Prop
  | reported (report : BroadcastReport) : OfBroadcast (.finished (.broadcast report))
  | held (frame : Bytes) (deliveries : List Delivery) :
      OfBroadcast (.waits (.broadcast frame deliveries))

theorem env_sendBy (step : Transport → Bytes → Option (Except SendError Unit) × Transport)
    (hub : Hub Env Ctx) (id : ConnectionId) (frame : Bytes) :
    (hub.sendBy step id frame).2.env = hub.env := by
  rw [sendBy]
  split <;> rfl

theorem env_deliverEach (hub : Hub Env Ctx) (frame : Bytes) (ids : List ConnectionId) :
    (hub.deliverEach frame ids).2.env = hub.env := by
  induction ids generalizing hub with
  | nil => rfl
  | cons id rest ih =>
    exact (ih (hub.send id frame).2).trans (env_sendBy Transport.send hub id frame)

theorem env_redeliverEach (hub : Hub Env Ctx) (frame : Bytes) (deliveries : List Delivery) :
    (hub.redeliverEach frame deliveries).2.env = hub.env := by
  induction deliveries generalizing hub with
  | nil => rfl
  | cons delivery rest ih =>
    refine (ih _).trans ?_
    cases delivery.result with
    | none => exact env_sendBy ..
    | some result => rfl

/-- A broadcast leaves the environment as it is. -/
theorem broadcast_spec (provider : ContextProvider Env Ctx) (hub : Hub Env Ctx) (line : String) :
    OfBroadcast (hub.broadcast provider line).1 ∧
      (hub.broadcast provider line).2.env = hub.env := by
  rw [broadcast, startLine]
  cases provider.encodeLine line with
  | error reason => exact ⟨.reported _, rfl⟩
  | ok message =>
    have env := hub.env_deliverEach (Gzip.compress message) hub.snapshot
    dsimp only
    split
    · exact ⟨.reported _, env⟩
    · exact ⟨.held _ _, env⟩

theorem resume_broadcast_spec (provider : ContextProvider Env Ctx) (hub : Hub Env Ctx)
    (frame : Bytes) (deliveries : List Delivery) :
    OfBroadcast (hub.resume provider (.broadcast frame deliveries)).1 ∧
      (hub.resume provider (.broadcast frame deliveries)).2.env = hub.env := by
  have env := hub.env_redeliverEach frame deliveries
  rw [resume]
  dsimp only
  split
  · exact ⟨.reported _, env⟩
  · exact ⟨.held _ _, env⟩

/-- Others leave log lines wanted. -/
def KeepWanted (provider : ContextProvider Env Ctx) (others : Meddling Env Ctx) : Prop :=
  ∀ other ∈ others, ∀ hub, provider.streamLogs hub.env = true →
    provider.streamLogs (other hub).env = true

variable {others : Meddling Env Ctx} {run : Run Env Ctx}

theorem settled_finished (others : Meddling Env Ctx) (outcome : Outcome) (hub : Hub Env Ctx) :
    settled provider others (.finished outcome, hub) = ((.finished outcome, hub), others) := by
  cases others <;> rfl

/-- A broadcast that is run on stays one, and log lines stay wanted. -/
theorem settled_broadcast (broadcast : OfBroadcast run.1)
    (wanted : provider.streamLogs run.2.env = true) (kept : KeepWanted provider others) :
    let after := settled provider others run
    OfBroadcast after.1.1 ∧ provider.streamLogs after.1.2.env = true ∧
      KeepWanted provider after.2 := by
  induction others generalizing run with
  | nil => exact ⟨broadcast, wanted, kept⟩
  | cons other rest ih =>
    obtain ⟨progress, hub⟩ := run
    obtain ⟨keeps, kept'⟩ := List.forall_mem_cons.1 kept
    cases broadcast with
    | reported report => exact ⟨.reported report, wanted, kept⟩
    | held frame deliveries =>
      obtain ⟨onward, env⟩ := (other hub).resume_broadcast_spec provider frame deliveries
      exact ih onward (env ▸ keeps hub wanted) kept'

/-- Reading on waits for the broadcast of a line, and goes on when it is over. -/
theorem settled_thenForward (broadcast : OfBroadcast run.1) (rest : List (Option String))
    (stats : LogStream.LineStats) :
    settled provider others (thenForward provider rest stats run) =
      readOn provider rest stats (settled provider others run) := by
  induction others generalizing run with
  | nil =>
    obtain ⟨progress, hub⟩ := run
    cases broadcast with
    | reported report => rfl
    | held frame deliveries => rfl
  | cons other others ih =>
    obtain ⟨progress, hub⟩ := run
    cases broadcast with
    | reported report => rfl
    | held frame deliveries =>
      have onward := ((other hub).resume_broadcast_spec provider frame deliveries).1
      rw [thenForward, settled, resume_forward, ih onward]
      rfl

/-! ## Logs -/

/-- Reading a log is broadcasting the lines before the first bad one. -/
theorem settled_forward (wanted : provider.streamLogs hub.env = true)
    (kept : KeepWanted provider others) (lines : List String) {tail : List (Option String)}
    (ended : tail = [] ∨ ∃ back, tail = none :: back) (stats : LogStream.LineStats) :
    let told := hub.tellEach provider others lines
    settled provider others (hub.forward provider stats (lines.map some ++ tail)) =
      ((told.1.progress tail { stats with forwarded := stats.forwarded + lines.length },
        told.1.hub), told.2) := by
  induction lines generalizing hub others stats with
  | nil =>
    rcases ended with rfl | ⟨back, rfl⟩
    · exact settled_finished ..
    · exact settled_finished ..
  | cons line rest ih =>
    obtain ⟨spoken, env⟩ := hub.broadcast_spec provider line
    obtain ⟨shape, wanted', kept'⟩ := settled_broadcast spoken (env ▸ wanted) kept
    rw [List.map_cons, List.cons_append, forward_wanted wanted, settled_thenForward spoken,
      tellEach]
    generalize settled provider others (hub.broadcast provider line) = ran at *
    obtain ⟨⟨progress, after⟩, left⟩ := ran
    cases shape with
    | reported report =>
      have total : stats.forwarded + 1 + rest.length = stats.forwarded + (rest.length + 1) := by
        omega
      have onward := ih wanted' kept' { stats with forwarded := stats.forwarded + 1 }
      rw [total] at onward
      exact onward
    | held frame deliveries =>
      have counted : stats.forwarded + (rest.length + 1) - rest.length = stats.forwarded + 1 := by
        omega
      simp only [Telling.progress, readOn, List.length_cons, counted]

/-- What is sent of a line, if it makes a message. -/
def lineFrame? (provider : ContextProvider Env Ctx) (line : String) : Option Bytes :=
  (provider.encodeLine line).toOption.map Gzip.compress

variable {next : ConnectionId} {published : List ConnectionId} {sent : ConnectionId → List Bytes}

/-- Where all transports record, each session that can be found gets one line after the other. -/
theorem Stands.forwardEach (stands : hub.Stands next published sent)
    (wanted : provider.streamLogs hub.env = true) (lines : List String)
    {tail : List (Option String)} (ended : tail = [] ∨ ∃ back, tail = none :: back)
    (stats : LogStream.LineStats) :
    ∃ after, hub.forward provider stats (lines.map some ++ tail) =
        (.finished (.forwarded (if tail = [] then
          some { stats with forwarded := stats.forwarded + lines.length } else none)), after) ∧
      after.Stands next published fun id =>
        if id ∈ published then sent id ++ lines.filterMap (lineFrame? provider) else sent id := by
  induction lines generalizing hub sent stats with
  | nil =>
    refine ⟨hub, ?_, by simpa using stands⟩
    rcases ended with rfl | ⟨back, rfl⟩
    · rfl
    · rfl
  | cons line rest ih =>
    have total : stats.forwarded + 1 + rest.length = stats.forwarded + (rest.length + 1) := by omega
    cases made : provider.encodeLine line with
    | error reason =>
      obtain ⟨after, done, last⟩ := ih stands wanted { stats with forwarded := stats.forwarded + 1 }
      refine ⟨after, ?_, ?_⟩
      · rw [List.map_cons, List.cons_append,
          forward_cons (forward_of_error wanted made stats), done, total]
        rfl
      · simpa [lineFrame?, made, Except.toOption] using last
    | ok message =>
      obtain ⟨middle, read, env, stood⟩ := stands.forward wanted made stats
      obtain ⟨after, done, last⟩ :=
        ih stood (env ▸ wanted) { stats with forwarded := stats.forwarded + 1 }
      refine ⟨after, ?_, ?_⟩
      · rw [List.map_cons, List.cons_append, forward_cons read, done, total]
        rfl
      · convert last using 2 with id
        by_cases found : id ∈ published <;> simp [lineFrame?, made, found, Except.toOption]

end Hub

open LogStream

variable {Env Ctx : Type}

/-- A log is sent to its first line that is not text. As long as log lines are wanted, reading it is
broadcasting the lines before that one in their order, whoever comes in between while a send is held
back; then the reading fails, and without a bad line it ends with all lines counted. Sessions whose
transports record get just these lines. They are all lines that are text just if no such line stands
behind a bad one. -/
theorem lines_sent_up_to_bad_line (provider : ContextProvider Env Ctx) (hub : Hub Env Ctx)
    (others : Hub.Meddling Env Ctx) (input : Bytes)
    (wanted : provider.streamLogs hub.env = true) (kept : Hub.KeepWanted provider others) :
    let read := readable (lines input)
    let told := hub.tellEach provider others read
    Hub.settled provider others (hub.start provider (.forward (lines input))) =
        ((told.1.progress (unread (lines input)) { forwarded := read.length }, told.1.hub),
          told.2) ∧
      (unread (lines input) = [] ↔ none ∉ lines input) ∧
      (∀ next published sent, hub.Stands next published sent →
        ∃ after, hub.start provider (.forward (lines input)) =
            (.finished (.forwarded (if none ∈ lines input then none
              else some { forwarded := read.length })), after) ∧
          after.Stands next published fun id =>
            if id ∈ published then sent id ++ read.filterMap (Hub.lineFrame? provider)
            else sent id) ∧
      (read = texts (lines input) ↔ ∀ front back, lines input = front ++ none :: back →
        ∀ line ∈ back, line = none) := by
  intro read told
  have parts : read.map some ++ unread (lines input) = lines input :=
    readable_append_unread (lines input)
  have ended : unread (lines input) = [] ∨ ∃ back, unread (lines input) = none :: back := by
    rcases unread_cases (lines input) with ⟨whole, -⟩ | ⟨back, left, -⟩
    · exact .inl whole
    · exact .inr ⟨back, left⟩
  have whole : unread (lines input) = [] ↔ none ∉ lines input := by
    rcases unread_cases (lines input) with ⟨whole, fine⟩ | ⟨back, left, bad⟩
    · exact ⟨fun _ => fine, fun _ => whole⟩
    · rw [left]
      exact ⟨nofun, fun fine => absurd bad fine⟩
  refine ⟨?_, whole, ?_, readable_eq_texts_iff (lines input)⟩
  · have settled := Hub.settled_forward wanted kept read ended {}
    rw [parts, Nat.zero_add] at settled
    exact settled
  · intro next published sent stands
    obtain ⟨after, done, last⟩ := stands.forwardEach wanted read ended {}
    rw [parts, Nat.zero_add] at done
    refine ⟨after, done.trans ?_, last⟩
    simp only [whole, ite_not]

/-- A client of contexts that echo. -/
def listener (transport : Transport) : Hub Environment EchoContext :=
  (({ env := { host := .empty } } : Hub Environment EchoContext).connect (echo {}) transport).2

/-- Whoever lets the sends to the first client through. -/
def lettingThrough (hub : Hub Environment EchoContext) : Hub Environment EchoContext :=
  { hub with
    transports := hub.transports.modify 1 fun transport => transport.release?.getD transport }

/-- The first line is held back and let through, and then the reading fails at the second, which is
not text. -/
theorem lines_sent_up_to_bad_line_held :
    let input : Bytes := [97, 10, 255, 10]
    let hub := listener .newStalling
    let run := Hub.settled (echo {}) [lettingThrough] (hub.start (echo {}) (.forward (lines input)))
    (echo {}).streamLogs hub.env = true ∧ Hub.KeepWanted (echo {}) [lettingThrough] ∧
      readable (lines input) = ["a"] ∧ readable (lines input) = texts (lines input) ∧
      run.1.1 = .finished (.forwarded none) ∧
      run.1.2.framesOf 1 = [Gzip.compress (Text.encode "event:a")] := by
  intro input hub run
  have kept : Hub.KeepWanted (echo {}) [lettingThrough] := by
    intro other among hub wanted
    rw [List.mem_singleton.1 among]
    exact wanted
  have read : readable (lines input) = ["a"] := by decide +kernel
  have texts : readable (lines input) = texts (lines input) := by decide +kernel
  obtain ⟨settled, -⟩ := lines_sent_up_to_bad_line (echo {}) hub [lettingThrough] input rfl kept
  have frames :
      (hub.tellEach (echo {}) [lettingThrough] (readable (lines input))).1.hub.framesOf 1 =
        [Gzip.compress (Text.encode "event:a")] := by decide +kernel
  have through : (hub.tellEach (echo {}) [lettingThrough] (readable (lines input))).1.held.isNone =
      true := by decide +kernel
  have left : unread (lines input) = [none] := by decide +kernel
  dsimp only [run]
  rw [settled]
  refine ⟨rfl, kept, read, texts, ?_, frames⟩
  rw [Hub.Telling.progress, Option.isNone_iff_eq_none.1 through, left]
  rfl

/-- A line behind one that is not text is never sent. -/
theorem line_lost_behind_bad_line :
    let input : Bytes := [97, 10, 255, 10, 98, 10]
    let hub := listener .newRecording
    let after := (hub.start (echo {}) (.forward (lines input))).2
    (echo {}).streamLogs hub.env = true ∧ hub.published = [1] ∧
      texts (lines input) = ["a", "b"] ∧
      after.framesOf 1 = [Gzip.compress (Text.encode "event:a")] ∧
      ¬∀ line ∈ texts (lines input), ∀ id ∈ hub.published, ∀ frame ∈ Hub.lineFrame? (echo {}) line,
        frame ∈ after.framesOf id := by
  intro input hub after
  have frames : after.framesOf 1 = [Gzip.compress (Text.encode "event:a")] := by decide +kernel
  have both : texts (lines input) = ["a", "b"] := by decide +kernel
  refine ⟨rfl, rfl, both, frames, fun all => ?_⟩
  have sent : Gzip.compress (Text.encode "event:b") ∈ after.framesOf 1 := by
    refine all "b" ?_ 1 ?_ _ rfl
    · rw [both]
      exact List.mem_cons_of_mem _ List.mem_cons_self
    · exact List.mem_singleton_self 1
  have lost : Gzip.compress (Text.encode "event:b") ∉ [Gzip.compress (Text.encode "event:a")] := by
    decide +kernel
  rw [frames] at sent
  exact lost sent

end Inspector
