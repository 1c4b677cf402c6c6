import Inspector.Host.InMemory
import Inspector.Proofs.Outcome
import Inspector.Proofs.Reflection.Collections

/-!
# Which objects can be read as sequences

Whether an object is a sequence is told by its type alone, and its items are taken from where the
host holds them. `InMemoryHost.Reading` says what comes of both questions, with one rule for each
way in which an object may be held. The two go together but for objects that are collections by
their class and are held without items, such as a plain object of a list class
(`InMemoryHost.Hollow`): these are said to be sequences, and when they are asked for their items the
host is said not to know them, though it does (`live_object_reported_unknown`).
-/

namespace Inspector

open Outcome

/-- Whether an object is held with items: as an array or as a list. -/
def HeapObject.holdsItems : HeapObject → Bool
  | array _ _ | list _ _ => true
  | plain _ _ | text _ | boxed _ => false

@[simp] theorem HostView.available_some {α : Type} (ref : ObjectRef) (a : α) :
    available ref (some a) = .ok a := rfl

@[simp] theorem HostView.available_none {α : Type} (ref : ObjectRef) :
    available ref (none : Option α) = .error (.unknownObject ref) := rfl

@[simp] theorem HostType.displayName_cls (name : String) : (cls name).displayName = name := by
  simp [displayName, elementName, dimensions]

namespace InMemoryHost

variable {host : InMemoryHost} {ref : ObjectRef}

/-- An object that is an ordered collection by its class and is held without items. -/
def Hollow (host : InMemoryHost) (ref : ObjectRef) : Prop :=
  ∃ object name, host.object? ref = some object ∧ object.holdsItems = false ∧
    object.type = .cls name ∧ host.types.isCollection name = true

/-- What comes of asking whether an object is a sequence, and of asking for its items. -/
inductive Reading (host : InMemoryHost) (ref : ObjectRef) :
    (like : Except ReflectionError Bool) → (copied : Except ReflectionError Sequence) → Prop
  | unknown : host.object? ref = none →
    Reading host ref (.error (.unknownObject ref)) (.error (.unknownObject ref))
  | array {component : HostType} {elements : List HostValue} :
    host.object? ref = some (.array component elements) →
    Reading host ref (.ok true) (.ok ⟨.array component, elements.map (⟨.ofComponent component, ·⟩)⟩)
  | list {className : String} {items : List HostValue} :
    host.object? ref = some (.list className items) → host.types.isCollection className = true →
    Reading host ref (.ok true) (.ok ⟨.cls className, items.map (⟨.reference, ·⟩)⟩)
  | hollow : host.Hollow ref → Reading host ref (.ok true) (.error (.unknownObject ref))
  | other {object : HeapObject} {name : String} : host.object? ref = some object →
    object.type = .cls name → host.types.isCollection name = false →
    Reading host ref (.ok false) (.error (.notSequence name))

/-- The elements of an array, asked for one by one, are all there. -/
theorem mapM_arrayElement {component : HostType} {elements : List HostValue}
    (held : host.object? ref = some (.array component elements)) :
    (List.range elements.length).mapM (fun index =>
      HostView.available ref (host.view.arrayElement ref index)) = .ok elements := by
  have each : ∀ index ∈ List.range elements.length,
      HostView.available ref (host.view.arrayElement ref index) =
        .ok (elements.getD index .null) := by
    intro index inside
    have inside := List.mem_range.1 inside
    simp [view, elements?, held, inside, HostView.available]
  have all : (List.range elements.length).map (elements.getD · .null) = elements := by
    refine List.ext_getElem (by simp) fun index _ inside => ?_
    simp [inside]
  rw [mapM_eq_ok_map each, all]

theorem knownType_of_held {object : HeapObject} (held : host.object? ref = some object) :
    host.view.knownType ref = .ok object.type := by
  simp [HostView.knownType, view, held]

theorem reading_array {component : HostType} {elements : List HostValue}
    (held : host.object? ref = some (.array component elements)) :
    host.Reading ref (host.view.isSequenceLike ref) (host.view.toSequence ref) := by
  have length : host.view.arrayLength ref = some elements.length := by
    simp [view, elements?, held]
  have like : host.view.isSequenceLike ref = .ok true := by
    rw [HostView.isSequenceLike, knownType_of_held held]
    rfl
  have copied : host.view.toSequence ref =
      .ok ⟨.array component, elements.map (⟨.ofComponent component, ·⟩)⟩ := by
    rw [HostView.toSequence, knownType_of_held held]
    simp only [ok_bind, HeapObject.type, length, HostView.available_some, mapM_arrayElement held,
      pure_eq_ok]
  rw [like, copied]
  exact .array held

section Classes

variable {object : HeapObject} {name : String} (held : host.object? ref = some object)
  (type : object.type = .cls name)

include held type

theorem isSequenceLike_class :
    host.view.isSequenceLike ref = .ok (host.types.isCollection name) := by
  rw [HostView.isSequenceLike, knownType_of_held held, type]
  rfl

theorem toSequence_class (other : host.types.isCollection name = false) :
    host.view.toSequence ref = .error (.notSequence name) := by
  have other : host.view.types.isCollection name = false := other
  rw [HostView.toSequence, knownType_of_held held, type]
  simp [other]

theorem toSequence_collection (collection : host.types.isCollection name = true) :
    host.view.toSequence ref =
      HostView.available ref (host.view.collectionSnapshot ref) >>= fun items =>
        .ok ⟨.cls name, items.map (⟨.reference, ·⟩)⟩ := by
  have collection : host.view.types.isCollection name = true := collection
  rw [HostView.toSequence, knownType_of_held held, type]
  simp [collection]

theorem reading_class :
    host.Reading ref (host.view.isSequenceLike ref) (host.view.toSequence ref) := by
  rw [isSequenceLike_class held type]
  cases collection : host.types.isCollection name with
  | false =>
    rw [toSequence_class held type collection]
    exact .other held type collection
  | true =>
    rw [toSequence_collection held type collection]
    cases object with
    | array component elements => cases type
    | list className items =>
      cases type
      simp only [view, held, HostView.available_some, ok_bind]
      exact .list held collection
    | plain className fields =>
      simp only [view, held, HostView.available_none, error_bind]
      exact .hollow ⟨_, name, held, rfl, type, collection⟩
    | text value =>
      simp only [view, held, HostView.available_none, error_bind]
      exact .hollow ⟨_, name, held, rfl, type, collection⟩
    | boxed value =>
      simp only [view, held, HostView.available_none, error_bind]
      exact .hollow ⟨_, name, held, rfl, type, collection⟩

end Classes

/-- Both questions are answered by the rules. -/
theorem reading (host : InMemoryHost) (ref : ObjectRef) :
    host.Reading ref (host.view.isSequenceLike ref) (host.view.toSequence ref) := by
  cases held : host.object? ref with
  | none =>
    have missing : host.view.knownType ref = .error (.unknownObject ref) := by
      simp [HostView.knownType, view, held]
    rw [HostView.isSequenceLike, HostView.toSequence, missing]
    exact .unknown held
  | some object =>
    cases object with
    | array component elements => exact reading_array held
    | list className items => exact reading_class held rfl
    | plain className fields => exact reading_class held rfl
    | text value => exact reading_class held rfl
    | boxed value => exact reading_class held rfl

/-! ## Reading off the outcomes -/

/-- What is known of a hollow object that is held in a certain way. -/
theorem Hollow.of_held {object : HeapObject} (hollow : host.Hollow ref)
    (held : host.object? ref = some object) :
    object.holdsItems = false ∧
      ∃ name, object.type = .cls name ∧ host.types.isCollection name = true := by
  obtain ⟨own, name, there, bare, type, collection⟩ := hollow
  cases there.symm.trans held
  exact ⟨bare, name, type, collection⟩

theorem not_hollow_of_items {object : HeapObject} (held : host.object? ref = some object)
    (items : object.holdsItems = true) : ¬host.Hollow ref := by
  intro hollow
  rw [(hollow.of_held held).1] at items
  cases items

theorem not_hollow_of_class {object : HeapObject} {name : String}
    (held : host.object? ref = some object) (type : object.type = .cls name)
    (other : host.types.isCollection name = false) : ¬host.Hollow ref := by
  intro hollow
  obtain ⟨-, own, same, collection⟩ := hollow.of_held held
  cases type.symm.trans same
  rw [other] at collection
  cases collection

theorem exists_of_hollow (hollow : host.Hollow ref) : host.object? ref ≠ none := by
  obtain ⟨object, name, held, -⟩ := hollow
  simp [held]

section Outcomes

variable {like : Except ReflectionError Bool} {copied : Except ReflectionError Sequence}

theorem Reading.ok_iff (reading : host.Reading ref like copied) :
    (∃ sequence, copied = .ok sequence) ↔ like = .ok true ∧ ¬host.Hollow ref := by
  cases reading with
  | unknown missing => simp
  | array held => exact iff_of_true ⟨_, rfl⟩ ⟨rfl, not_hollow_of_items held rfl⟩
  | list held collection => exact iff_of_true ⟨_, rfl⟩ ⟨rfl, not_hollow_of_items held rfl⟩
  | hollow hollow => simp [hollow]
  | other held type other => simp

theorem Reading.notSequence_iff (reading : host.Reading ref like copied) (typeName : String) :
    copied = .error (.notSequence typeName) ↔
      like = .ok false ∧ (host.view.typeOf ref).map HostType.displayName = some typeName := by
  cases reading with
  | other held type other => simp [view, held, type]
  | _ => simp

theorem Reading.unknownObject_iff (reading : host.Reading ref like copied) :
    copied = .error (.unknownObject ref) ↔ host.object? ref = none ∨ host.Hollow ref := by
  cases reading with
  | unknown missing => exact iff_of_true rfl (.inl missing)
  | hollow hollow => exact iff_of_true rfl (.inr hollow)
  | array held => simp [held, not_hollow_of_items held rfl]
  | list held collection => simp [held, not_hollow_of_items held rfl]
  | other held type other => simp [held, not_hollow_of_class held type other]

/-- There are no other failures. -/
theorem Reading.error_cases (reading : host.Reading ref like copied) {e : ReflectionError}
    (failed : copied = .error e) :
    e = .unknownObject ref ∨ ∃ typeName, e = .notSequence typeName := by
  cases reading with
  | array | list => cases failed
  | unknown | hollow =>
    cases failed
    exact .inl rfl
  | other =>
    cases failed
    exact .inr ⟨_, rfl⟩

theorem Reading.of_hollow (reading : host.Reading ref like copied) (hollow : host.Hollow ref) :
    like = .ok true := by
  cases reading with
  | unknown missing => exact absurd missing (exists_of_hollow hollow)
  | other held type other => exact absurd hollow (not_hollow_of_class held type other)
  | _ => rfl

theorem Reading.items_eq (reading : host.Reading ref like copied) {sequence : Sequence}
    (read : copied = .ok sequence) :
    (∃ component elements, host.object? ref = some (.array component elements) ∧
      sequence = ⟨.array component, elements.map (⟨.ofComponent component, ·⟩)⟩) ∨
    ∃ className items, host.object? ref = some (.list className items) ∧
      sequence = ⟨.cls className, items.map (⟨.reference, ·⟩)⟩ := by
  cases reading with
  | array held =>
    cases read
    exact .inl ⟨_, _, held, rfl⟩
  | list held collection =>
    cases read
    exact .inr ⟨_, _, held, rfl⟩
  | _ => cases read

end Outcomes

end InMemoryHost

/-- Reading an object as a sequence succeeds exactly if it is said to be one and is not hollow; it
is refused under the name of its type exactly if it is said not to be one; and it is called unknown
exactly if there is no such object or if it is hollow, though a hollow object is said to be a
sequence. What is read are the elements of an array, in their order and with the kind of its
component, or the elements of a list as references. -/
theorem sequences_read_unless_hollow (host : InMemoryHost) (ref : ObjectRef) :
    ((∃ sequence, host.view.toSequence ref = .ok sequence) ↔
      host.view.isSequenceLike ref = .ok true ∧ ¬host.Hollow ref) ∧
    (∀ typeName, host.view.toSequence ref = .error (.notSequence typeName) ↔
      host.view.isSequenceLike ref = .ok false ∧
        (host.view.typeOf ref).map HostType.displayName = some typeName) ∧
    (host.view.toSequence ref = .error (.unknownObject ref) ↔
      host.object? ref = none ∨ host.Hollow ref) ∧
    (∀ e, host.view.toSequence ref = .error e →
      e = .unknownObject ref ∨ ∃ typeName, e = .notSequence typeName) ∧
    (host.Hollow ref → host.view.isSequenceLike ref = .ok true) ∧
    ∀ sequence, host.view.toSequence ref = .ok sequence →
      (∃ component elements, host.object? ref = some (.array component elements) ∧
        sequence = ⟨.array component, elements.map (⟨.ofComponent component, ·⟩)⟩) ∨
      ∃ className items, host.object? ref = some (.list className items) ∧
        sequence = ⟨.cls className, items.map (⟨.reference, ·⟩)⟩ := by
  have reading := host.reading ref
  exact ⟨reading.ok_iff, reading.notSequence_iff, reading.unknownObject_iff,
    fun _ => reading.error_cases, reading.of_hollow, fun _ => reading.items_eq⟩

/-- A list class with an array, a list and a plain object of it on the heap. -/
def listsApart : InMemoryHost :=
  let host := InMemoryHost.empty.define "t.Rows" (·.implementing "java.util.List")
  let host := (host.newArray (.primitive .int) [.scalar (.int 7), .scalar (.int 8)]).2
  let host := (host.newList "t.Rows" [.null]).2
  (host.newInstance "t.Rows" []).2

theorem heap_listsApart :
    listsApart.heap = [.array (.primitive .int) [.scalar (.int 7), .scalar (.int 8)],
      .list "t.Rows" [.null], .plain "t.Rows" []] := by
  have dotted : dottedName "t.Rows" = "t.Rows" := by decide +kernel
  simp only [listsApart, InMemoryHost.newInstance, InMemoryHost.newList, InMemoryHost.newArray,
    InMemoryHost.allocate, dotted]
  rfl

theorem isCollection_rows : listsApart.types.isCollection "t.Rows" = true := by
  obtain ⟨above, chain⟩ : ∃ above, listsApart.types.chainFrom [] "t.Rows" = "t.Rows" :: above :=
    listsApart.types.exists_chainFrom List.not_mem_nil
  have implemented : listsApart.types.Implements "t.Rows" orderedCollection := by
    unfold TypeSource.Implements
    decide +kernel
  exact TypeSource.isCollection_iff.2
    ⟨[], "t.Rows", above, chain, List.pairwise_singleton _ _, .single implemented⟩

theorem hollow_rows : listsApart.Hollow ⟨3⟩ :=
  ⟨.plain "t.Rows" [], "t.Rows", congrArg (·[2]?) heap_listsApart, rfl, rfl, isCollection_rows⟩

/-- The plain object is there and is said to be a sequence, and yet it is called unknown. -/
theorem live_object_reported_unknown :
    listsApart.view.typeOf ⟨3⟩ = some (.cls "t.Rows") ∧
      listsApart.view.isSequenceLike ⟨3⟩ = .ok true ∧
      listsApart.view.toSequence ⟨3⟩ = .error (.unknownObject ⟨3⟩) := by
  have reading := listsApart.reading ⟨3⟩
  have type : listsApart.view.typeOf ⟨3⟩ = some (.cls "t.Rows") := by decide +kernel
  exact ⟨type, reading.of_hollow hollow_rows, reading.unknownObject_iff.2 (.inr hollow_rows)⟩

/-- The list is read with what it holds, and nothing is read of the plain object. -/
theorem sequences_read_unless_hollow_apart :
    listsApart.view.toSequence ⟨2⟩ = .ok ⟨.cls "t.Rows", [⟨.reference, .null⟩]⟩ ∧
      listsApart.Hollow ⟨3⟩ ∧ listsApart.view.isSequenceLike ⟨3⟩ = .ok true ∧
      ¬∃ sequence, listsApart.view.toSequence ⟨3⟩ = .ok sequence := by
  obtain ⟨read, -, -, -, -, items⟩ := sequences_read_unless_hollow listsApart ⟨2⟩
  obtain ⟨readBare, -, -, -, like, -⟩ := sequences_read_unless_hollow listsApart ⟨3⟩
  refine ⟨?_, hollow_rows, like hollow_rows, fun found => (readBare.1 found).2 hollow_rows⟩
  have held : listsApart.object? ⟨2⟩ = some (.list "t.Rows" [.null]) :=
    congrArg (·[1]?) heap_listsApart
  have like : listsApart.view.isSequenceLike ⟨2⟩ = .ok true := by
    rw [InMemoryHost.isSequenceLike_class held rfl, isCollection_rows]
  obtain ⟨sequence, copied⟩ := read.2 ⟨like, InMemoryHost.not_hollow_of_items held rfl⟩
  rcases items sequence copied with ⟨component, elements, there, -⟩ | ⟨className, items, there, rfl⟩
  · cases held.symm.trans there
  · cases held.symm.trans there
    exact copied

end Inspector
