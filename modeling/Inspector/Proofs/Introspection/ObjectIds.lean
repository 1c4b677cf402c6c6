import Inspector.Proofs.Introspection.SentValues

/-!
# Ids of objects in a session

A client is told of objects by ids, and asks about them by these ids. Whatever it asks, and whatever
the host is like at each moment, an id stands for one object as long as the session lasts
(`object_ids_meaningful`): the table of the session comes about by pinning and only grows
(`grown_knownAfter`).
-/

namespace Inspector

open Outcome

/-! ## Sessions -/

/-- What a client asks, with the host as it is at that moment. -/
inductive Inquiry where
  | question (env : Environment) (body : Wire.RequestBody)
  /-- The bytes of a request, or any bytes. -/
  | message (env : Environment) (raw : Bytes)

def Inquiry.after (switch : LogSwitch) (pins : PinTable) : Inquiry → PinTable
  | question env body => (env.answer switch pins body).2.1
  | message env raw => (env.handle switch pins raw).2.1

/-- The objects that a client knows of after it has asked. -/
def knownAfter (switch : LogSwitch) (pins : PinTable) (inquiries : List Inquiry) : PinTable :=
  inquiries.foldl (Inquiry.after switch) pins

namespace HostView

variable {view : HostView} {pins : PinTable}

theorem grown_answer (kept : pins.Kept) (streamLogs : Bool) (body : Wire.RequestBody) :
    pins.Grown (view.answer { pins, streamLogs } body).2.pins := by
  cases found : view.lookUp pins body with
  | error e =>
    simp only [answer, found]
    exact kept.grown
  | ok result =>
    obtain ⟨reply, after⟩ := result
    obtain ⟨values, -, sends⟩ := sends_of_lookUp kept found
    simp only [answer, found]
    exact sends.grown kept

/-- Bytes that are no request leave the table as it is. -/
theorem grown_handle (kept : pins.Kept) (streamLogs : Bool) (raw : Bytes) :
    pins.Grown (view.handle { pins, streamLogs } raw).2.pins := by
  rw [handle]
  split
  · exact kept.grown
  · rename_i request _
    exact grown_answer kept streamLogs request.body

end HostView

variable {switch : LogSwitch} {pins : PinTable}

theorem Inquiry.grown_after (kept : pins.Kept) (inquiry : Inquiry) :
    pins.Grown (inquiry.after switch pins) := by
  cases inquiry with
  | question env body => exact HostView.grown_answer kept _ body
  | message env raw => exact HostView.grown_handle kept _ raw

theorem grown_knownAfter (kept : pins.Kept) (inquiries : List Inquiry) :
    pins.Grown (knownAfter switch pins inquiries) := by
  induction inquiries generalizing pins with
  | nil => exact kept.grown
  | cons inquiry rest ih =>
    have grown : pins.Grown (inquiry.after switch pins) := inquiry.grown_after kept
    exact grown.trans (ih grown.kept)

/-! ## Questions about an object -/

/-- The id of the object that a question is about. -/
def Wire.RequestBody.subject? : RequestBody → Option Int64
  | objectFields id | readSequence id | fieldSignature (.object id) _
  | methodSignature (.object id) _ _ => some id
  | _ => none

/-- The id in a value that is a reference. -/
def objectIdOf : Wire.Value → Int64
  | .object _ id => id
  | _ => Wire.noObject

namespace HostView

variable {view : HostView} {id : Int64}

theorem lookUp_of_unknown {body : Wire.RequestBody} (about : body.subject? = some id)
    (unknown : pins.object? id = none) :
    view.lookUp pins body = .error (.unknownObjectId id) := by
  have fails : referent pins id = .error (.unknownObjectId id) := by rw [referent, unknown]
  cases body with
  | objectFields own | readSequence own =>
    cases about
    rw [lookUp, fails, error_bind]
  | fieldSignature target field =>
    cases target with
    | cls name => cases about
    | object own =>
      cases about
      rw [lookUp, target, fails, error_bind, error_bind]
  | methodSignature target method hints =>
    cases target with
    | cls name => cases about
    | object own =>
      cases about
      rw [lookUp, target, fails, error_bind, error_bind]
  | _ => cases about

/-- A question about an id that leads nowhere fails, and changes nothing. -/
theorem answer_of_unknown {body : Wire.RequestBody} (about : body.subject? = some id)
    (unknown : pins.object? id = none) (streamLogs : Bool) :
    view.answer { pins, streamLogs } body =
      (.error (.unknownObjectId id), { pins, streamLogs }) := by
  simp only [answer, lookUp_of_unknown about unknown]

theorem referent_eq_ok {object : ObjectRef} :
    referent pins id = .ok object ↔ pins.object? id = some object := by
  rw [referent]
  cases pins.object? id <;> simp

/-- What is asked about an id is asked about the object that it leads to. -/
theorem resolve {object : ObjectRef} (found : pins.object? id = some object) :
    view.sources pins (.objectFields id) = (do return (← view.fieldsOf object).map (·.2)) ∧
      view.sources pins (.readSequence id) = (do return (← view.itemsOf object).map some) ∧
      view.target pins (.object id) = (do return (← view.memberClass object, .onInstance)) := by
  have meant := referent_eq_ok.2 found
  simp only [sources, target, meant, ok_bind, and_self]

/-- The id that is given to a value as it is sent stands in the value. -/
theorem objectId_serializeWith (item : Option (HostValue → PinTable → Wire.Value × PinTable))
    (value : HostValue) (pins : PinTable) :
    (view.serializeWith item value pins).1.objectId =
      objectIdOf (view.serializeWith item value pins).1.value := by
  have plain (scalar : Scalar) : objectIdOf scalar.toWire = Wire.noObject := by
    cases scalar <;> rfl
  cases value with
  | scalar scalar => exact (plain scalar).symm
  | null => rfl
  | object object =>
    rw [serializeWith]
    split
    · rfl
    · split
      · rfl
      · exact (plain _).symm
      · rfl
      · rfl

/-- The entry of a field repeats the id that its value holds. -/
theorem objectId_of_mem_fieldEntries {rows : List (FieldSummary × Option HostValue)}
    {entry : Wire.FieldEntry} (present : entry ∈ (view.fieldEntries rows pins).1) :
    entry.objectId = objectIdOf entry.value := by
  induction rows generalizing pins with
  | nil => cases present
  | cons row rest ih =>
    obtain ⟨row, value⟩ := row
    rcases List.mem_cons.1 present with rfl | later
    · cases value with
      | none => rfl
      | some value => exact objectId_serializeWith _ value pins
    · exact ih later

theorem objectId_of_lookUp {body : Wire.RequestBody} {entries : List Wire.FieldEntry}
    {after : PinTable} (found : view.lookUp pins body = .ok (.fields entries, after))
    {entry : Wire.FieldEntry} (present : entry ∈ entries) :
    entry.objectId = objectIdOf entry.value := by
  cases body with
  | staticFields className =>
    obtain ⟨rows, -, found⟩ := bind_eq_ok.1 found
    obtain ⟨values, -, found⟩ := bind_eq_ok.1 found
    cases found
    exact objectId_of_mem_fieldEntries present
  | objectFields own =>
    obtain ⟨object, -, found⟩ := bind_eq_ok.1 found
    obtain ⟨className, -, found⟩ := bind_eq_ok.1 found
    obtain ⟨rows, -, found⟩ := bind_eq_ok.1 found
    obtain ⟨values, -, found⟩ := bind_eq_ok.1 found
    cases found
    exact objectId_of_mem_fieldEntries present
  | fieldSignature target field =>
    obtain ⟨member, -, found⟩ := bind_eq_ok.1 found
    obtain ⟨_ | signature, -, found⟩ := bind_eq_ok.1 found <;> cases found
  | methodSignature target method hints =>
    obtain ⟨member, -, found⟩ := bind_eq_ok.1 found
    obtain ⟨_ | signature, -, found⟩ := bind_eq_ok.1 found <;> cases found
  | readSequence own =>
    obtain ⟨object, -, found⟩ := bind_eq_ok.1 found
    obtain ⟨sequence, -, found⟩ := bind_eq_ok.1 found
    cases found
  | _ => cases found

end HostView

/-! ## What ids mean -/

/-- The new ids in an answer are the next ones, in the order in which they are first met. -/
theorem HostView.Sends.eraseDups_fresh {view : HostView} {after : PinTable}
    {values : List (Option HostValue)} {sent : List Wire.Value} (kept : pins.Kept)
    (sends : view.Sends pins values sent after) (small : after.size ≤ PinTable.idLimit) :
    (pins.fresh (sent.flatMap Wire.Value.ids)).eraseDups =
      (List.range' pins.size (after.size - pins.size)).map Int64.ofNat := by
  obtain ⟨objects, rfl, ids⟩ := sends.pinned
  rw [ids]
  exact kept.eraseDups_fresh objects small

/-- A client asks `earlier`, then `body`, and then `later`, of a host that is different each time,
and it never comes to know of more objects than there are ids. Then, of the table of its session:

* no object stands in it twice, and an object has an id if and only if the id leads to the object;
* an id leads to the same object for the rest of the session, in whatever is asked, and the object
  keeps the id; each number below the size of the table is an id, and a question about any other
  number is answered by an error;
* an answer that fails gives out no ids; else the values asked for are sent, at any depth the id of
  an object and the name of its type in its place; the new ids are the next numbers, in the order
  in which they are first met; and the entry of a field repeats the id of its value if that is an
  object. -/
theorem object_ids_meaningful (switch : LogSwitch) (earlier : List Inquiry) (env : Environment)
    (body : Wire.RequestBody) (later : List Inquiry) :
    let before := knownAfter switch {} earlier
    let answer := (env.answer switch before body).1
    let after := (env.answer switch before body).2.1
    let last := knownAfter switch after later
    last.size ≤ PinTable.idLimit →
    (last.pinned.Nodup ∧
      ∀ object id, last.id? object = some id ↔ last.object? id = some object) ∧
    ((∀ id object, after.object? id = some object →
        HostView.referent last id = .ok object ∧ last.pin object = (id, last) ∧ ∀ view : HostView,
          view.sources last (.objectFields id) = (do return (← view.fieldsOf object).map (·.2)) ∧
          view.sources last (.readSequence id) = (do return (← view.itemsOf object).map some) ∧
          view.target last (.object id) = (do return (← view.memberClass object, .onInstance))) ∧
      (∀ place < last.size, (last.object? (Int64.ofNat place)).isSome = true) ∧
      ∀ (id : Int64) (question : Wire.RequestBody) (now : Environment),
        id.toInt < 0 ∨ (last.size : Int) ≤ id.toInt → question.subject? = some id →
          (now.answer switch last question).1 = .error (.unknownObjectId id) ∧
          (now.answer switch last question).2.1 = last) ∧
    (∀ e, answer = .error e → after = before) ∧
    ∀ reply, answer = .ok reply →
      (∃ values, env.view.sources before body = .ok values ∧
        List.Forall₂ (env.view.Placed after) values reply.values) ∧
      (before.fresh (reply.values.flatMap Wire.Value.ids)).eraseDups =
        (List.range' before.size (after.size - before.size)).map Int64.ofNat ∧
      ∀ entries, reply = .fields entries → ∀ entry ∈ entries,
        entry.objectId = match entry.value with
          | .object _ id => id
          | _ => Wire.noObject := by
  intro before answer after last small
  have kept : before.Kept := (grown_knownAfter PinTable.kept_empty earlier).kept
  have keeps : after.Kept := (HostView.grown_answer kept _ body).kept
  have grown : after.Grown last := grown_knownAfter keeps later
  have inverse {object : ObjectRef} {id : Int64} :
      last.id? object = some id ↔ last.object? id = some object :=
    grown.kept.id?_eq_some_iff small
  refine ⟨⟨grown.kept.nodup, fun _ _ => inverse⟩,
    ⟨fun id object known => ?_, fun place inside => ?_, fun id question now outside about => ?_⟩,
    fun e failed => ?_, fun reply answered => ?_⟩
  · have still := grown.object? known
    obtain ⟨present, same⟩ := grown.kept.id?_eq_some.1 (inverse.2 still)
    refine ⟨HostView.referent_eq_ok.2 still, ?_, fun _ => HostView.resolve still⟩
    rw [grown.kept.pin_of_mem present, same]
  · rw [PinTable.object?_ofNat (Nat.lt_of_lt_of_le inside small)]
    exact Option.isSome_iff_exists.2 ⟨_, List.getElem?_eq_getElem inside⟩
  · have unknown : now.view.answer { pins := last, streamLogs := switch.get now } question = _ :=
      HostView.answer_of_unknown about (PinTable.object?_eq_none.2 outside) _
    simp only [Environment.answer, unknown, and_self]
  · cases found : env.view.lookUp before body with
    | error e => simp only [after, Environment.answer, HostView.answer, found]
    | ok result => simp [answer, Environment.answer, HostView.answer, found] at failed
  · cases found : env.view.lookUp before body with
    | error e => simp [answer, Environment.answer, HostView.answer, found] at answered
    | ok result =>
      obtain ⟨sent, pins⟩ := result
      obtain rfl : sent = reply := by
        simpa [answer, Environment.answer, HostView.answer, found] using answered
      obtain rfl : after = pins := by
        simp only [after, Environment.answer, HostView.answer, found]
      obtain ⟨values, asked, sends⟩ := HostView.sends_of_lookUp kept found
      have room : after.size ≤ PinTable.idLimit := Nat.le_trans grown.size_le small
      refine ⟨⟨values, asked, sends.placed⟩, sends.eraseDups_fresh kept room, ?_⟩
      rintro entries rfl entry present
      exact HostView.objectId_of_lookUp found present

/-- Arrays inside each other, the outermost one in a static field. The innermost one is the last to
be sent with its items; it holds an empty array twice, and another one in between. -/
def sharing : Environment :=
  let host := InMemoryHost.empty.define "A" fun definition =>
    (definition.extending "A").withStaticField "f" (.array (.cls "A")) (.object { id := 1 })
  let host := (List.range 7).foldl (fun host place =>
    (host.newArray (.cls "A") [.object { id := place + 2 }]).2) host
  let host := (host.newArray (.cls "A")
    [.object { id := 9 }, .object { id := 10 }, .object { id := 9 }]).2
  { host := ((host.newArray (.cls "A") []).2.newArray (.cls "A") []).2 }

/-- The bytes of a question. -/
def asking (body : Wire.RequestBody) : Bytes :=
  (Wire.Envelope.toItem "req" Wire.RequestBody.toItem { id := 5, body }).bytes

/-- The empty arrays are given the ids 0 and 1, and 1 still leads to the other one after a message
that is no request and after a question about it; nothing goes by the id 2. -/
theorem object_ids_meaningful_sharing :
    let after := (sharing.answer .shared {} (.staticFields "A")).2.1
    let last := knownAfter .shared after
      [.message sharing [1, 2, 3], .message sharing (asking (.readSequence 1))]
    last.size ≤ PinTable.idLimit ∧ HostView.referent last 1 = .ok { id := 10 } ∧
      (sharing.answer .shared last (.readSequence 2)).1 = .error (.unknownObjectId 2) ∧
      ∃ reply, (sharing.answer .shared {} (.staticFields "A")).1 = .ok reply ∧
        reply.values.flatMap Wire.Value.ids = [0, 1, 0] ∧
        (PinTable.fresh {} (reply.values.flatMap Wire.Value.ids)).eraseDups = [0, 1] := by
  intro after last
  have small : last.size ≤ PinTable.idLimit := by decide +kernel
  have known : after.object? 1 = some { id := 10 } := by decide +kernel
  have size : after.size = 2 := by decide +kernel
  obtain ⟨-, ⟨stays, -, unknown⟩, -, answers⟩ :=
    object_ids_meaningful .shared [] sharing (.staticFields "A")
      [.message sharing [1, 2, 3], .message sharing (asking (.readSequence 1))] small
  refine ⟨small, (stays 1 _ known).1,
    (unknown 2 (.readSequence 2) sharing (.inr (by decide +kernel)) rfl).1, ?_⟩
  cases replied : (sharing.answer .shared {} (.staticFields "A")).1 with
  | error e =>
    have well : ((sharing.answer .shared {} (.staticFields "A")).1.toOption).isSome = true := by
      decide +kernel
    rw [replied] at well
    cases well
  | ok reply =>
    have ids : (((sharing.answer .shared {} (.staticFields "A")).1.toOption).map fun reply =>
        reply.values.flatMap Wire.Value.ids) = some [0, 1, 0] := by decide +kernel
    rw [replied] at ids
    refine ⟨reply, rfl, Option.some.inj ids, (answers reply replied).2.1.trans ?_⟩
    change (List.range' 0 (after.size - 0)).map Int64.ofNat = [0, 1]
    rw [size]
    decide

end Inspector
