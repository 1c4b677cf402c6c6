import Inspector.Proofs.Introspection.FieldReads
import Inspector.Proofs.Introspection.ObjectIds
import Inspector.Proofs.Introspection.SharedHost

/-!
# What a question changes

An answer is worked out step by step on the client's table and on the host: an object is pinned at
the moment at which it is sent, and what was done before a failure stays done (`InPlace.answer`).
This comes to the same as working out the answer first and pinning what is new afterwards
(`Environment.run_answer`), because all that can fail is done before the first object is pinned.

So a question that fails changes nothing, a question for values appends to the table the objects
that are new to it and pins each of them once, and of the others only the one about log lines
changes anything (`answer_effects`).
-/

namespace Inspector

open Outcome

/-! ## Tables with objects put at their end -/

namespace PinTable

/-- Objects with the ids that they get when the first of them is put at a place. -/
def numbered (objects : List ObjectRef) (place : Nat) : Table ObjectRef Int64 :=
  (objects.zipIdx place).map fun entry => (entry.1, Int64.ofNat entry.2)

/-- One table is another one with objects at its end, each of them once, that were not in it. -/
structure Appended (pins : PinTable) (objects : List ObjectRef) (after : PinTable) : Prop where
  pinned : after.pinned = pins.pinned ++ objects
  ids : after.ids = pins.ids ++ numbered objects pins.size
  new : ∀ object ∈ objects, pins.id? object = none
  distinct : objects.Nodup

theorem keys_numbered (objects : List ObjectRef) (place : Nat) :
    (numbered objects place).map (·.1) = objects := by
  rw [numbered, List.map_map]
  exact List.zipIdx_map_fst place objects

theorem numbered_append (first second : List ObjectRef) (place : Nat) :
    numbered (first ++ second) place =
      numbered first place ++ numbered second (place + first.length) := by
  rw [numbered, List.zipIdx_append, List.map_append]
  rfl

variable {pins middle after : PinTable} {objects first second : List ObjectRef}

theorem appended_nil (pins : PinTable) : pins.Appended [] pins where
  pinned := (List.append_nil _).symm
  ids := (List.append_nil _).symm
  new := nofun
  distinct := List.nodup_nil

theorem Appended.size (appended : pins.Appended objects after) :
    after.size = pins.size + objects.length := by
  rw [PinTable.size, appended.pinned, List.length_append]
  rfl

theorem Appended.added (appended : pins.Appended objects after) : pins.added after = objects := by
  rw [PinTable.added, appended.pinned]
  exact List.drop_left

/-- What is not known after objects were put at the end was not known before and is none of them. -/
theorem Appended.id?_eq_none (appended : pins.Appended objects after) {object : ObjectRef} :
    after.id? object = none ↔ pins.id? object = none ∧ object ∉ objects := by
  have none_of_them : (numbered objects pins.size).get? object = none ↔ object ∉ objects := by
    rw [Table.get?_eq_none, keys_numbered]
  rw [id?, appended.ids, Table.get?_append, Option.or_eq_none_iff, none_of_them]
  rfl

theorem Appended.trans (appended : pins.Appended first middle)
    (later : middle.Appended second after) : pins.Appended (first ++ second) after where
  pinned := by rw [later.pinned, appended.pinned, List.append_assoc]
  ids := by
    rw [later.ids, appended.ids, appended.size, numbered_append, List.append_assoc]
  new object present := by
    rcases List.mem_append.1 present with here | there
    · exact appended.new object here
    · exact (appended.id?_eq_none.1 (later.new object there)).1
  distinct := by
    refine List.nodup_append.2 ⟨appended.distinct, later.distinct, ?_⟩
    rintro object here _ there rfl
    exact (appended.id?_eq_none.1 (later.new object there)).2 here

/-- Pinning an object puts it at the end if it is new. -/
theorem appended_pin (pins : PinTable) (object : ObjectRef) :
    pins.Appended (if pins.id? object = none then [object] else []) (pins.pin object).2 := by
  cases found : pins.id? object with
  | some id =>
    rw [if_neg nofun, pin, found]
    exact appended_nil pins
  | none =>
    rw [if_pos rfl, pin, found]
    refine ⟨rfl, Table.set_of_get?_eq_none found _, ?_, List.nodup_singleton _⟩
    intro other present
    rw [List.mem_singleton.1 present, found]

end PinTable

/-! ## Pinning on the host -/

theorem InMemoryHost.pinCount_pinAll (host : InMemoryHost) (objects : List ObjectRef)
    (object : ObjectRef) :
    (host.pinAll objects).pinCount object = host.pinCount object + objects.count object := by
  induction objects generalizing host with
  | nil => rfl
  | cons first rest ih =>
    have here : (host.pin first).pinCount object =
        host.pinCount object + if first = object then 1 else 0 := by
      rw [pinCount, pin, Table.get?_set]
      by_cases same : object = first
      · rw [if_pos same, if_pos same.symm, same]
        rfl
      · rw [if_neg same, if_neg (Ne.symm same)]
        rfl
    have onward : host.pinAll (first :: rest) = (host.pin first).pinAll rest := rfl
    rw [onward, ih, here, List.count_cons, Nat.add_assoc, Nat.add_comm (rest.count object)]
    simp only [beq_iff_eq]

namespace Environment

theorem pinAll_nil (env : Environment) : env.pinAll [] = env := by
  rw [pinAll]
  split <;> rfl

theorem pinAll_append (env : Environment) (first second : List ObjectRef) :
    env.pinAll (first ++ second) = (env.pinAll first).pinAll second := by
  cases env with
  | mk host access =>
    cases access with
    | full => simp only [pinAll, InMemoryHost.pinAll, List.foldl_append]
    | classes => rfl
    | typed => rfl

end Environment

/-! ## Answering step by step -/

namespace InPlace

/-- What answering works on: the client's table and the environment. -/
abbrev Ground := PinTable × Environment

/-- The steps of an answer, of which one may fail. What was done before a failure stays done. -/
abbrev Steps (α : Type) := ExceptT QueryError (StateM Ground) α

/-- What is seen of the host at this moment. -/
def view : StateM Ground HostView := do
  return (← get).2.view

/-- The id of an object, which is pinned on the host and put at the end of the table if it is
new. -/
def pin (object : ObjectRef) : StateM Ground Int64 := fun (pins, env) =>
  match pins.id? object with
  | some id => (id, pins, env)
  | none =>
    let id := Int64.ofNat pins.size
    let pins := { pinned := pins.pinned ++ [object], ids := pins.ids.set object id }
    (id, pins, env.pinAll [object])

def reference (object : ObjectRef) (type : HostType) : StateM Ground Sent := do
  let id ← pin object
  return { value := .object type.displayName id, objectId := id }

def sendObject (item : Option (HostValue → StateM Ground Wire.Value)) (object : ObjectRef)
    (view : HostView) : StateM Ground Sent :=
  match view.typeOf object with
  | none => return { value := .null }
  | some type =>
    match view.text? object type, view.unbox object, item, view.sequence? object with
    | some text, _, _, _ => return { value := .text text }
    | none, some scalar, _, _ => return { value := scalar.toWire }
    | none, none, some item, some sequence => do
      let items ← (sequence.items.map (·.value)).mapM item
      return { value := .list sequence.sourceType.displayName items }
    | none, none, _, _ => reference object type

def sendWith (item : Option (HostValue → StateM Ground Wire.Value)) :
    HostValue → StateM Ground Sent
  | .scalar scalar => return { value := scalar.toWire }
  | .null => return { value := .null }
  | .object object => do sendObject item object (← view)

def send : (levels : Nat) → HostValue → StateM Ground Sent
  | 0 => sendWith none
  | levels + 1 => sendWith (some fun value => do return (← send levels value).value)

def serialize (levels : Nat) (value : HostValue) : StateM Ground Wire.Value := do
  return (← send levels value).value

/-- The entry of a field. The search for its value may never end. -/
def fieldEntry (row : FieldSummary) (found : Lookup) : Steps Wire.FieldEntry := do
  let sent ← match found with
    | .found value => liftM (send maxSerializeDepth value)
    | .absent => pure { value := .notPresent }
    | .endless => throw (.endlessRead row.name)
  return { name := row.name, typeName := row.typeName, descriptor := row.descriptor
           value := sent.value, objectId := sent.objectId }

/-- The entries of fields: each value is read and sent before the next is read. -/
def fields (read : HostView → String → Lookup) (rows : List FieldSummary) :
    Steps (List Wire.FieldEntry) :=
  rows.mapM fun row => do fieldEntry row (read (← view) row.name)

open HostView in
def answer (switch : LogSwitch) : Wire.RequestBody → Steps Wire.ResponseBody
  | .loadedClasses => do return .loadedClasses (← view).loadedClasses
  | .processStatus => do return .processStatus (← view).threads
  | .setLogStream enabled => do
    modify fun ground => (ground.1, switch.set ground.2 enabled)
    return .ack
  | .staticFields className => do
    let rows ← ((← view).types.enumerateFields className .static).mapError QueryError.reflection
    return .fields (← fields (·.staticField className) rows)
  | .objectFields id => do
    let object ← referent (← get).1 id
    let className ← (← view).memberClass object
    let rows ← ((← view).types.enumerateFields className .onInstance).mapError QueryError.reflection
    return .fields (← fields (·.instanceField object) rows)
  | .fieldSignature target field => do
    let (className, kind) ← (← view).target (← get).1 target
    let found ← ((← view).types.fieldSignature className field kind).mapError QueryError.reflection
    return signatureAnswer found
  | .methodSignature target method hints => do
    let (className, kind) ← (← view).target (← get).1 target
    let found ← ((← view).types.methodSignature className method hints kind).mapError
      QueryError.reflection
    return signatureAnswer found
  | .readSequence id => do
    let object ← referent (← get).1 id
    let sequence ← ((← view).toSequence object).mapError QueryError.reflection
    let items ← liftM ((sequence.items.map (·.value)).mapM (serialize (maxSerializeDepth - 1)))
    return .sequence sequence.sourceType.displayName items

/-! ## Steps that only send -/

/-- A step does on a table what is known of it, and pins on the host what it puts at the end. -/
def Does {α : Type} (seen : HostView) (step : StateM Ground α) (known : PinTable → α × PinTable) :
    Prop :=
  ∀ pins env, env.view = seen → ∃ objects, pins.Appended objects (known pins).2 ∧
    step (pins, env) = ((known pins).1, (known pins).2, env.pinAll objects)

section Does

variable {α β : Type} {seen : HostView}

theorem does_pure (a : α) : Does seen (pure a) fun pins => (a, pins) := by
  intro pins env _
  refine ⟨[], pins.appended_nil, ?_⟩
  rw [env.pinAll_nil]
  rfl

theorem Does.bind {step : StateM Ground α} {known : PinTable → α × PinTable}
    {next : α → StateM Ground β} {onward : α → PinTable → β × PinTable}
    (does : Does seen step known) (rest : ∀ a, Does seen (next a) (onward a)) :
    Does seen (step >>= next) fun pins => onward (known pins).1 (known pins).2 := by
  intro pins env sees
  obtain ⟨first, appended, done⟩ := does pins env sees
  -- pins are not seen
  have still : (env.pinAll first).view = seen := (env.alike_pinAll first).view.trans sees
  obtain ⟨second, later, ended⟩ := rest (known pins).1 (known pins).2 (env.pinAll first) still
  refine ⟨first ++ second, appended.trans later, ?_⟩
  rw [env.pinAll_append, ← ended]
  show (let (a, ground) := step (pins, env); next a ground) = _
  rw [done]

/-- What is seen stays the same, so a step may look at any time. -/
theorem Does.looking {next : HostView → StateM Ground β} {known : PinTable → β × PinTable}
    (does : Does seen (next seen) known) : Does seen (view >>= next) known := by
  intro pins env sees
  have looked : (view >>= next) (pins, env) = next seen (pins, env) := by
    rw [← sees]
    rfl
  rw [looked]
  exact does pins env sees

theorem does_pin (object : ObjectRef) : Does seen (pin object) (PinTable.pin · object) := by
  intro pins env _
  refine ⟨_, pins.appended_pin object, ?_⟩
  cases found : pins.id? object with
  | some id =>
    rw [if_neg nofun, env.pinAll_nil]
    simp only [pin, PinTable.pin, found]
  | none =>
    rw [if_pos rfl]
    simp only [pin, PinTable.pin, found]

theorem does_mapM {item : HostValue → StateM Ground Wire.Value}
    {known : HostValue → PinTable → Wire.Value × PinTable}
    (each : ∀ value, Does seen (item value) (known value)) (values : List HostValue) :
    Does seen (values.mapM item) (HostView.serializeEach known values) := by
  induction values with
  | nil => exact does_pure []
  | cons value rest ih =>
    rw [List.mapM_cons]
    exact (each value).bind fun first => ih.bind fun others => does_pure (first :: others)

theorem does_reference (object : ObjectRef) (type : HostType) :
    Does seen (reference object type) (HostView.reference object type) :=
  (does_pin object).bind fun _ => does_pure _

theorem does_sendWith {item : Option (HostValue → StateM Ground Wire.Value)}
    {known : Option (HostValue → PinTable → Wire.Value × PinTable)}
    (same : Option.Rel (fun item known => ∀ value, Does seen (item value) (known value)) item known)
    (value : HostValue) : Does seen (sendWith item value) (seen.serializeWith known value) := by
  cases value with
  | scalar scalar => exact does_pure _
  | null => exact does_pure _
  | object object =>
    refine Does.looking ?_
    unfold sendObject HostView.serializeWith
    dsimp only
    cases seen.typeOf object with
    | none => exact does_pure _
    | some type =>
      dsimp only
      cases seen.text? object type with
      | some text => exact does_pure _
      | none =>
        cases seen.unbox object with
        | some scalar => exact does_pure _
        | none =>
          cases same with
          | none => exact does_reference object type
          | some each =>
            cases seen.sequence? object with
            | none => exact does_reference object type
            | some sequence => exact (does_mapM each _).bind fun _ => does_pure _

theorem does_send (levels : Nat) (value : HostValue) :
    Does seen (send levels value) (seen.send levels value) := by
  induction levels generalizing value with
  | zero => exact does_sendWith .none value
  | succ levels ih =>
    exact does_sendWith (.some fun item => (ih item).bind fun _ => does_pure _) value

theorem does_serialize (levels : Nat) (value : HostValue) :
    Does seen (serialize levels value) (seen.serialize levels value) :=
  (does_send levels value).bind fun _ => does_pure _

/-- Steps that do not fail do on a table what is known of them. -/
def Succeeds (seen : HostView) (steps : Steps α) (known : PinTable → α × PinTable) : Prop :=
  Does seen steps.run fun pins => (.ok (known pins).1, (known pins).2)

theorem succeeds_pure (a : α) : Succeeds seen (pure a) fun pins => (a, pins) :=
  does_pure _

/-- What is known of steps that go on only after a success. -/
def onSuccess (onward : α → PinTable → β × PinTable) :
    Except QueryError α → PinTable → Except QueryError β × PinTable
  | .ok a, pins => (.ok (onward a pins).1, (onward a pins).2)
  | .error e, pins => (.error e, pins)

theorem Succeeds.bind {steps : Steps α} {known : PinTable → α × PinTable} {next : α → Steps β}
    {onward : α → PinTable → β × PinTable} (succeeds : Succeeds seen steps known)
    (rest : ∀ a, Succeeds seen (next a) (onward a)) :
    Succeeds seen (steps >>= next) fun pins => onward (known pins).1 (known pins).2 := by
  have goesOn (outcome : Except QueryError α) :
      Does seen (ExceptT.bindCont next outcome) (onSuccess onward outcome) := by
    cases outcome with
    | error e => exact does_pure _
    | ok a => exact rest a
  exact Does.bind succeeds goesOn

theorem Does.succeeds {step : StateM Ground α} {known : PinTable → α × PinTable}
    (does : Does seen step known) : Succeeds seen (liftM step) known := by
  have plain : Does seen (step >>= fun a => pure (Except.ok a : Except QueryError α)) fun pins =>
      (.ok (known pins).1, (known pins).2) := does.bind fun _ => does_pure _
  exact plain

theorem Succeeds.looking {next : HostView → Steps β} {known : PinTable → β × PinTable}
    (succeeds : Succeeds seen (next seen) known) : Succeeds seen (liftM view >>= next) known :=
  Does.looking succeeds

theorem succeeds_fieldEntry {row : FieldSummary} {found : Lookup} (ends : found.ends = true) :
    Succeeds seen (fieldEntry row found) (seen.fieldEntry row found.value?) := by
  cases found with
  | found value => exact (does_send maxSerializeDepth value).succeeds.bind fun _ => succeeds_pure _
  | absent => exact succeeds_pure _
  | endless => cases ends

/-- Where the searches for values come to an end, no entry fails. -/
theorem succeeds_fields {read : HostView → String → Lookup} {rows : List FieldSummary}
    (ends : ∀ row ∈ rows, (read seen row.name).ends = true) :
    Succeeds seen (fields read rows)
      (seen.fieldEntries (rows.map fun row => (row, (read seen row.name).value?))) := by
  induction rows with
  | nil => exact succeeds_pure _
  | cons row rest ih =>
    obtain ⟨here, later⟩ := List.forall_mem_cons.1 ends
    have first : Succeeds seen (do fieldEntry row (read (← view) row.name))
        (seen.fieldEntry row (read seen row.name).value?) := .looking (succeeds_fieldEntry here)
    rw [fields, List.mapM_cons]
    exact first.bind fun entry =>
      (ih later).bind fun others => succeeds_pure (entry :: others)

end Does

/-! ## Whole answers -/

/-- Steps come to an outcome that is known. If they fail, nothing has changed; if not, what they put
at the end of the table is pinned on the host. -/
structure Gives {α : Type} (ground : Ground) (steps : Steps α)
    (outcome : Except QueryError (α × PinTable)) : Prop where
  failed : ∀ e, outcome = .error e → steps.run ground = (.error e, ground)
  done : ∀ a after, outcome = .ok (a, after) → ∃ objects, ground.1.Appended objects after ∧
    steps.run ground = (.ok a, after, ground.2.pinAll objects)

section Gives

variable {α β : Type} {ground : Ground}

theorem gives_pure (a : α) : Gives ground (pure a) (.ok (a, ground.1)) where
  failed := nofun
  done := by
    rintro _ _ ⟨⟩
    refine ⟨[], ground.1.appended_nil, ?_⟩
    rw [ground.2.pinAll_nil]
    rfl

/-- What may fail comes before all that changes anything. -/
theorem Gives.after {outcome : Except QueryError α} {next : α → Steps β}
    {known : α → Except QueryError (β × PinTable)}
    (gives : ∀ a, outcome = .ok a → Gives ground (next a) (known a)) :
    Gives ground (liftM outcome >>= next) (outcome >>= known) := by
  cases outcome with
  | error e =>
    constructor
    · rintro _ ⟨⟩
      rfl
    · rintro _ _ ⟨⟩
  | ok a => exact gives a rfl

theorem Gives.looking {next : HostView → Steps β} {outcome : Except QueryError (β × PinTable)}
    (gives : Gives ground (next ground.2.view) outcome) :
    Gives ground (liftM view >>= next) outcome :=
  ⟨gives.failed, gives.done⟩

theorem Gives.reading {next : Ground → Steps β} {outcome : Except QueryError (β × PinTable)}
    (gives : Gives ground (next ground) outcome) : Gives ground (get >>= next) outcome :=
  ⟨gives.failed, gives.done⟩

theorem Succeeds.gives {steps : Steps α} {known : PinTable → α × PinTable}
    (succeeds : Succeeds ground.2.view steps known) :
    Gives ground steps (.ok (known ground.1)) where
  failed := nofun
  done := by
    intro a after same
    obtain ⟨objects, appended, done⟩ := succeeds ground.1 ground.2 rfl
    dsimp only at appended done
    rw [Except.ok.inj same] at appended done
    exact ⟨objects, appended, done⟩

/-- Answering step by step comes to the answer that is looked up as a whole. -/
theorem gives_answer (switch : LogSwitch) (ground : Ground) (body : Wire.RequestBody)
    (silent : ∀ enabled, body ≠ .setLogStream enabled) :
    Gives ground (answer switch body) (ground.2.view.lookUp ground.1 body) := by
  have ends := ground.2.readsEnd
  cases body with
  | loadedClasses => exact .looking (gives_pure _)
  | processStatus => exact .looking (gives_pure _)
  | setLogStream enabled => exact absurd rfl (silent enabled)
  | staticFields className =>
    refine .looking (.after fun rows listed => ?_)
    have listed := mapError_eq_ok.1 listed
    rw [HostView.readFields_of_ends (ends.static listed)]
    exact ((succeeds_fields (ends.static listed)).bind fun _ => succeeds_pure _).gives
  | objectFields id =>
    refine .reading (.after fun object _ => .looking (.after fun className member => ?_))
    refine .looking (.after fun rows listed => ?_)
    have listed := mapError_eq_ok.1 listed
    rw [HostView.readFields_of_ends (ends.onInstance member listed)]
    exact ((succeeds_fields (ends.onInstance member listed)).bind fun _ => succeeds_pure _).gives
  | fieldSignature target field =>
    exact .looking (.reading (.after fun _ _ => .looking (.after fun _ _ => gives_pure _)))
  | methodSignature target method hints =>
    exact .looking (.reading (.after fun _ _ => .looking (.after fun _ _ => gives_pure _)))
  | readSequence id =>
    refine .reading (.after fun object _ => .looking (.after fun sequence _ => ?_))
    exact ((does_mapM (does_serialize _) _).succeeds.bind fun _ => succeeds_pure _).gives

end Gives

end InPlace

/-! ## What is changed -/

namespace Environment

variable {env : Environment} {switch : LogSwitch} {pins after : PinTable} {body : Wire.RequestBody}

theorem set_get (env : Environment) (switch : LogSwitch) :
    switch.set env (switch.get env) = env := by
  cases switch <;> rfl

theorem get_pinAll (env : Environment) (switch : LogSwitch) (objects : List ObjectRef) :
    switch.get (env.pinAll objects) = switch.get env := by
  rw [pinAll]
  split <;> cases switch <;> rfl

theorem answer_of_error {e : QueryError} (failed : env.view.lookUp pins body = .error e) :
    env.answer switch pins body = (.error e, pins, env) := by
  have nothing : pins.added pins = [] := List.drop_length
  simp only [answer, HostView.answer, failed, update, nothing, pinAll_nil, set_get]

theorem answer_of_ok {reply : Wire.ResponseBody} {objects : List ObjectRef}
    (found : env.view.lookUp pins body = .ok (reply, after))
    (appended : pins.Appended objects after) (silent : ∀ enabled, body ≠ .setLogStream enabled) :
    env.answer switch pins body = (.ok reply, after, env.pinAll objects) := by
  have kept : (env.view.answer { pins, streamLogs := switch.get env } body).2.streamLogs =
      switch.get env := by
    cases body with
    | setLogStream enabled => exact absurd rfl (silent enabled)
    | _ => simp only [HostView.answer, found]
  have turned := set_get (env.pinAll objects) switch
  rw [get_pinAll] at turned
  have table : (env.view.answer { pins, streamLogs := switch.get env } body).2.pins = after := by
    simp only [HostView.answer, found]
  have replied : (env.view.answer { pins, streamLogs := switch.get env } body).1 = .ok reply := by
    simp only [HostView.answer, found]
  simp only [answer, update, kept, table, replied, appended.added, turned]

theorem answer_setLogStream (env : Environment) (switch : LogSwitch) (pins : PinTable)
    (enabled : Bool) :
    env.answer switch pins (.setLogStream enabled) = (.ok .ack, pins, switch.set env enabled) := by
  have nothing : pins.added pins = [] := List.drop_length
  show (Except.ok Wire.ResponseBody.ack, pins,
    switch.set (env.pinAll (pins.added pins)) enabled) = _
  rw [nothing, pinAll_nil]

/-- Answering step by step is answering. -/
theorem run_answer (env : Environment) (switch : LogSwitch) (pins : PinTable)
    (body : Wire.RequestBody) :
    (InPlace.answer switch body).run (pins, env) = env.answer switch pins body := by
  by_cases silent : ∀ enabled, body ≠ .setLogStream enabled
  · have gives := InPlace.gives_answer switch (pins, env) body silent
    cases outcome : env.view.lookUp pins body with
    | error e => rw [answer_of_error outcome, gives.failed e outcome]
    | ok found =>
      obtain ⟨objects, appended, done⟩ := gives.done _ _ outcome
      rw [answer_of_ok outcome appended silent, done]
  · simp only [ne_eq, not_forall, not_not] at silent
    obtain ⟨enabled, rfl⟩ := silent
    rw [answer_setLogStream]
    rfl

end Environment

/-- Objects are put at the end of the table and pinned once each on the host; nothing else is
changed. -/
structure Pinning (before after : InPlace.Ground) (objects : List ObjectRef) : Prop where
  table : before.1.Appended objects after.1
  env : after.2 = before.2.pinAll objects
  counted : before.2.access = .full → ∀ object, after.2.host.pinCount object =
    before.2.host.pinCount object + if object ∈ objects then 1 else 0
  switches : ∀ other : LogSwitch, other.get after.2 = other.get before.2

/-- A switch is turned; nothing else is changed. -/
structure Turning (switch : LogSwitch) (enabled : Bool) (before after : InPlace.Ground) : Prop where
  table : after.1 = before.1
  env : after.2 = switch.set before.2 enabled
  host : after.2.host = before.2.host
  turned : switch.get after.2 = enabled
  others : ∀ other, other ≠ switch → other.get after.2 = other.get before.2

/-- What a question may change. -/
def MayChange (switch : LogSwitch) (before after : InPlace.Ground) : Wire.RequestBody → Prop
  | .loadedClasses | .processStatus | .fieldSignature _ _ | .methodSignature _ _ _ => after = before
  | .staticFields _ | .objectFields _ | .readSequence _ => ∃ objects, Pinning before after objects
  | .setLogStream enabled => Turning switch enabled before after

theorem pinning_pinAll {pins after : PinTable} {objects : List ObjectRef} (env : Environment)
    (appended : pins.Appended objects after) :
    Pinning (pins, env) (after, env.pinAll objects) objects where
  table := appended
  env := rfl
  counted full object := by
    have once : objects.count object = if object ∈ objects then 1 else 0 := by
      split
      · exact List.count_eq_one_of_mem appended.distinct ‹_›
      · exact List.count_eq_zero.2 ‹_›
    show (env.pinAll objects).host.pinCount object = _
    rw [Environment.pinAll_full full, InMemoryHost.pinCount_pinAll, once]
  switches other := env.get_pinAll other objects

theorem turning_set (pins : PinTable) (env : Environment) (switch : LogSwitch) (enabled : Bool) :
    Turning switch enabled (pins, env) (pins, switch.set env enabled) where
  table := rfl
  env := rfl
  host := env.host_set switch enabled
  turned := by cases switch <;> rfl
  others other differ := by
    cases switch <;> cases other <;> first | rfl | exact absurd rfl differ

section Answers

variable (env : Environment) (switch : LogSwitch) (pins : PinTable) {body : Wire.RequestBody}

theorem exists_pinning (silent : ∀ enabled, body ≠ .setLogStream enabled) :
    ∃ objects, Pinning (pins, env) (env.answer switch pins body).2 objects := by
  have gives := InPlace.gives_answer switch (pins, env) body silent
  cases outcome : env.view.lookUp pins body with
  | error e =>
    rw [Environment.answer_of_error outcome]
    have pinning := pinning_pinAll env pins.appended_nil
    rw [env.pinAll_nil] at pinning
    exact ⟨[], pinning⟩
  | ok found =>
    obtain ⟨objects, appended, -⟩ := gives.done _ _ outcome
    rw [Environment.answer_of_ok outcome appended silent]
    exact ⟨objects, pinning_pinAll env appended⟩

/-- A question that hands the table back as it was changes nothing. -/
theorem unchanged_of_lookUp (silent : ∀ enabled, body ≠ .setLogStream enabled)
    (same : ∀ found, env.view.lookUp pins body = .ok found → found.2 = pins) :
    (env.answer switch pins body).2 = (pins, env) := by
  cases outcome : env.view.lookUp pins body with
  | error e => rw [Environment.answer_of_error outcome]
  | ok found =>
    have appended : pins.Appended [] found.2 := same found outcome ▸ pins.appended_nil
    rw [Environment.answer_of_ok outcome appended silent, same found outcome, env.pinAll_nil]

theorem mayChange_answer (body : Wire.RequestBody) :
    MayChange switch (pins, env) (env.answer switch pins body).2 body := by
  cases body with
  | staticFields className => exact exists_pinning env switch pins nofun
  | objectFields id => exact exists_pinning env switch pins nofun
  | readSequence id => exact exists_pinning env switch pins nofun
  | setLogStream enabled =>
    rw [Environment.answer_setLogStream]
    exact turning_set pins env switch enabled
  | loadedClasses =>
    refine unchanged_of_lookUp env switch pins nofun ?_
    rintro _ ⟨⟩
    rfl
  | processStatus =>
    refine unchanged_of_lookUp env switch pins nofun ?_
    rintro _ ⟨⟩
    rfl
  | fieldSignature target field =>
    refine unchanged_of_lookUp env switch pins nofun fun found looked => ?_
    obtain ⟨member, -, looked⟩ := bind_eq_ok.1 looked
    obtain ⟨signature, -, looked⟩ := bind_eq_ok.1 looked
    cases looked
    rfl
  | methodSignature target method hints =>
    refine unchanged_of_lookUp env switch pins nofun fun found looked => ?_
    obtain ⟨member, -, looked⟩ := bind_eq_ok.1 looked
    obtain ⟨signature, -, looked⟩ := bind_eq_ok.1 looked
    cases looked
    rfl

theorem failed_answer {e : QueryError} (failed : (env.answer switch pins body).1 = .error e) :
    (env.answer switch pins body).2 = (pins, env) := by
  cases outcome : env.view.lookUp pins body with
  | error _ => rw [Environment.answer_of_error outcome]
  | ok found => simp only [Environment.answer, HostView.answer, outcome, reduceCtorEq] at failed

theorem alike_answer (body : Wire.RequestBody) :
    env.Alike (env.answer switch pins body).2.2 :=
  (env.alike_pinAll _).trans (Environment.alike_set _ switch _)

end Answers

/-- A question changes only what it is for. It is answered as it is step by step, where failures
undo nothing. If it fails, table and environment are as they were; otherwise it has changed what
questions of its kind may change. Classes, heap and threads stay as they are. -/
theorem answer_effects (env : Environment) (switch : LogSwitch) (pins : PinTable)
    (body : Wire.RequestBody) :
    let answered := env.answer switch pins body
    (InPlace.answer switch body).run (pins, env) = answered ∧
      (∀ e, answered.1 = .error e →
        answered.2 = (pins, env) ∧ ∀ field, e ≠ .endlessRead field) ∧
      MayChange switch (pins, env) answered.2 body ∧
      answered.2.2.host.classes = env.host.classes ∧ answered.2.2.host.heap = env.host.heap ∧
      answered.2.2.host.threads = env.host.threads := by
  intro answered
  obtain ⟨counts, host⟩ := (alike_answer env switch pins body).host
  have settled := HostView.settled_answer env.readsEnd { pins, streamLogs := switch.get env } body
  refine ⟨env.run_answer switch pins body, fun e failed => ?_,
    mayChange_answer env switch pins body, ?_, ?_, ?_⟩
  · refine ⟨failed_answer env switch pins failed, ?_⟩
    rintro field rfl
    exact settled field failed
  all_goals
    rw [host]
    rfl

/-- A question for statics puts two objects at the end of the table and pins each of them once,
although one is sent twice; a question about an object that the client does not know of changes
nothing. -/
theorem answer_effects_sharing :
    let answered := sharing.answer .shared {} (.staticFields "A")
    answered.2.1.pinned = [{ id := 9 }, { id := 10 }] ∧
      (∀ object, answered.2.2.host.pinCount object =
        sharing.host.pinCount object + if object ∈ answered.2.1.pinned then 1 else 0) ∧
      (answered.2.2.answer .shared answered.2.1 (.readSequence 2)).2 = answered.2 := by
  intro answered
  obtain ⟨-, -, ⟨objects, pinning⟩, -⟩ := answer_effects sharing .shared {} (.staticFields "A")
  have table : answered.2.1.pinned = objects := pinning.table.pinned
  have two : answered.2.1.pinned = [{ id := 9 }, { id := 10 }] := by decide +kernel
  have missing : answered.2.1.object? 2 = none := by decide +kernel
  have unknown : answered.2.2.view.lookUp answered.2.1 (.readSequence 2) =
      .error (.unknownObjectId 2) := by
    simp only [HostView.lookUp, HostView.referent, missing, error_bind]
  have failed : (answered.2.2.answer .shared answered.2.1 (.readSequence 2)).1 =
      .error (.unknownObjectId 2) := by
    rw [Environment.answer_of_error unknown]
  refine ⟨two, fun object => ?_, ?_⟩
  · rw [table]
    exact pinning.counted rfl object
  · exact ((answer_effects answered.2.2 .shared answered.2.1 (.readSequence 2)).2.1 _ failed).1

end Inspector
