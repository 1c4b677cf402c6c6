import Inspector.Proofs.Host.Changes
import Inspector.Simulation.Environment

/-!
# The host that contexts share

Contexts leave nothing behind on the host but pins, and a switch for log lines that is turned
(`Environment.Alike`). Nothing of this is ever seen by a client: environments that are alike look
the same (`Alike.view`), and a request is replied to in the same way on both (`Alike.handle`).
-/

namespace Inspector

/-! ## Pins on the host -/

namespace InMemoryHost

theorem pinAll_eq (host : InMemoryHost) (refs : List ObjectRef) :
    ∃ pins, host.pinAll refs = host.withPins pins := by
  induction refs generalizing host with
  | nil => exact ⟨host.pins, rfl⟩
  | cons ref rest ih =>
    obtain ⟨pins, same⟩ := ih (host.pin ref)
    exact ⟨pins, same⟩

theorem release_eq (host : InMemoryHost) (ref : ObjectRef) :
    ∃ pins, host.release ref = host.withPins pins := by
  rw [release]
  split
  · exact ⟨host.pins, rfl⟩
  · split <;> exact ⟨_, rfl⟩

theorem releaseAll_eq (host : InMemoryHost) (refs : List ObjectRef) :
    ∃ pins, host.releaseAll refs = host.withPins pins := by
  induction refs generalizing host with
  | nil => exact ⟨host.pins, rfl⟩
  | cons ref rest ih =>
    obtain ⟨first, released⟩ := host.release_eq ref
    obtain ⟨pins, same⟩ := ih (host.release ref)
    refine ⟨pins, same.trans ?_⟩
    rw [released]
    rfl

end InMemoryHost

namespace Environment

variable {env other last : Environment}

theorem pinAll_full (full : env.access = .full) (objects : List ObjectRef) :
    env.pinAll objects = { env with host := env.host.pinAll objects } := by
  rw [pinAll, full]

theorem releaseAll_full (full : env.access = .full) (objects : List ObjectRef) :
    env.releaseAll objects = { env with host := env.host.releaseAll objects } := by
  rw [releaseAll, full]

theorem host_set (env : Environment) (switch : LogSwitch) (on : Bool) :
    (switch.set env on).host = env.host := by
  cases switch <;> rfl

/-! ## Environments that look the same -/

/-- Two environments differ in pins and in switches only. -/
structure Alike (env other : Environment) : Prop where
  host : ∃ pins, other.host = env.host.withPins pins
  access : other.access = env.access
  givenTypes : other.givenTypes = env.givenTypes

theorem Alike.refl (env : Environment) : env.Alike env :=
  ⟨⟨env.host.pins, rfl⟩, rfl, rfl⟩

theorem Alike.trans (first : env.Alike other) (second : other.Alike last) : env.Alike last := by
  obtain ⟨before, host⟩ := first.host
  obtain ⟨pins, host'⟩ := second.host
  refine ⟨⟨pins, ?_⟩, second.access.trans first.access, second.givenTypes.trans first.givenTypes⟩
  rw [host', host]
  rfl

theorem Alike.view (alike : env.Alike other) : other.view = env.view := by
  obtain ⟨⟨pins, host⟩, access, givenTypes⟩ := alike
  have seen : other.host.view = env.host.view := by rw [host, InMemoryHost.view_withPins]
  have types : other.host.types = env.host.types := by rw [host]; rfl
  have typeOf (own : ObjectRef → Option HostType) : other.typeOf own = env.typeOf own := by
    funext object
    rw [Environment.typeOf, Environment.typeOf, givenTypes]
  rw [Environment.view, Environment.view, access]
  split
  · exact seen
  · rw [types, typeOf]
  · rw [types, typeOf, seen]

/-- The host is changed in the same way on both. -/
theorem Alike.change (alike : env.Alike other) (change : HostChange) :
    { env with host := change.apply env.host }.Alike
      { other with host := change.apply other.host } := by
  obtain ⟨⟨pins, host⟩, access, givenTypes⟩ := alike
  refine ⟨⟨pins, ?_⟩, access, givenTypes⟩
  dsimp only
  rw [host, change.apply_withPins]

theorem alike_set (env : Environment) (switch : LogSwitch) (on : Bool) :
    env.Alike (switch.set env on) := by
  cases switch <;> exact ⟨⟨env.host.pins, rfl⟩, rfl, rfl⟩

theorem alike_pinAll (env : Environment) (objects : List ObjectRef) :
    env.Alike (env.pinAll objects) := by
  rw [pinAll]
  split
  · exact ⟨env.host.pinAll_eq objects, rfl, rfl⟩
  · exact .refl env

theorem alike_releaseAll (env : Environment) (objects : List ObjectRef) :
    env.Alike (env.releaseAll objects) := by
  rw [releaseAll]
  split
  · exact ⟨env.host.releaseAll_eq objects, rfl, rfl⟩
  · exact .refl env

end Environment

/-! ## Requests -/

/-- Whether log lines are streamed is of no matter to an answer. -/
theorem HostView.handle_streamLogs (view : HostView) (pins : PinTable) (raw : Bytes)
    (first second : Bool) :
    (view.handle { pins, streamLogs := first } raw).1 =
        (view.handle { pins, streamLogs := second } raw).1 ∧
      (view.handle { pins, streamLogs := first } raw).2.pins =
        (view.handle { pins, streamLogs := second } raw).2.pins := by
  have answers (body : Wire.RequestBody) :
      (view.answer { pins, streamLogs := first } body).1 =
          (view.answer { pins, streamLogs := second } body).1 ∧
        (view.answer { pins, streamLogs := first } body).2.pins =
          (view.answer { pins, streamLogs := second } body).2.pins := by
    cases found : view.lookUp pins body <;> simp only [answer, found, and_self]
  rw [handle, handle]
  split
  · exact ⟨rfl, rfl⟩
  · rename_i request _
    obtain ⟨reply, table⟩ := answers request.body
    dsimp only
    rw [reply]
    exact ⟨rfl, table⟩

namespace Environment

/-- What a context makes of a request: its reply or its failure, its table, and the environment. -/
theorem handle_introspection (env : Environment) (switch : LogSwitch) (pins : PinTable)
    (raw : Bytes) :
    (introspection switch).handle env pins raw =
      (match (env.handle switch pins raw).1 with
        | .ok reply => .replied reply
        | .error e => .failed e.message, (env.handle switch pins raw).2) := by
  rw [introspection]
  dsimp only
  split <;> rename_i handled <;> rw [handled]

theorem alike_handle (env : Environment) (switch : LogSwitch) (pins : PinTable) (raw : Bytes) :
    env.Alike ((introspection switch).handle env pins raw).2.2 := by
  rw [handle_introspection]
  exact (alike_pinAll env _).trans (alike_set _ switch _)

theorem Alike.handle {env other : Environment} (alike : env.Alike other) (switch : LogSwitch)
    (pins : PinTable) (raw : Bytes) :
    ((introspection switch).handle other pins raw).1 =
        ((introspection switch).handle env pins raw).1 ∧
      ((introspection switch).handle other pins raw).2.1 =
        ((introspection switch).handle env pins raw).2.1 := by
  obtain ⟨reply, table⟩ :=
    env.view.handle_streamLogs pins raw (switch.get other) (switch.get env)
  rw [handle_introspection, handle_introspection, Environment.handle, Environment.handle,
    alike.view]
  dsimp only
  rw [reply]
  exact ⟨rfl, table⟩

end Environment

end Inspector
