import Mathlib.Data.List.Forall2
import Inspector.Proofs.Introspection.PinTables
import Inspector.Proofs.Outcome
import Inspector.Proofs.Wire.Response
import Inspector.Simulation.Environment

/-!
# What is sent of the host's values

An answer sends values of the host one after the other (`HostView.sources`). Sending pins the
objects that go out as references and nothing else, in the order in which their ids stand in the
answer, and in the place of an object stands its id (`HostView.Sends`). This holds of single values
at any depth (`sends_serialize`) and of whole answers (`sends_of_lookUp`).
-/

namespace Inspector

open Outcome

/-! ## Places inside values -/

namespace Wire.Value

/-- The part of a value at a path that goes into lists. -/
def part? : Value → List Nat → Option Value
  | value, [] => some value
  | .list _ items, place :: path => items[place]?.bind (part? · path)
  | _, _ :: _ => none

mutual

/-- The ids in a value, from left to right. -/
def ids : Value → List Int64
  | .object _ id => [id]
  | .list _ items => idsOfEach items
  | _ => []

def idsOfEach : List Value → List Int64
  | [] => []
  | value :: rest => value.ids ++ idsOfEach rest

end

theorem idsOfEach_eq (values : List Value) : idsOfEach values = values.flatMap ids := by
  induction values with
  | nil => rfl
  | cons value rest ih => rw [idsOfEach, ih, List.flatMap_cons]

/-- Whatever id stands at a path is one of the ids. -/
theorem mem_ids_of_part? {value : Value} {path : List Nat} {name : String} {id : Int64}
    (found : value.part? path = some (.object name id)) : id ∈ value.ids := by
  induction path generalizing value with
  | nil =>
    cases found
    exact List.mem_singleton_self id
  | cons place path ih =>
    cases value with
    | list listType items =>
      obtain ⟨item, there, found⟩ := Option.bind_eq_some_iff.1 found
      rw [ids, idsOfEach_eq, List.mem_flatMap]
      exact ⟨item, List.mem_of_getElem? there, ih found⟩
    | _ => cases found

end Wire.Value

namespace HostView

/-- The part of a value of the host at a path that goes into sequences. -/
def part? (view : HostView) : HostValue → List Nat → Option HostValue
  | value, [] => some value
  | .object object, place :: path =>
    (view.sequence? object).bind fun sequence =>
      sequence.items[place]?.bind fun item => view.part? item.value path
  | _, _ :: _ => none

variable (view : HostView)

/-- In the place of an object stands its id, with the name of its type. -/
def Placed (pins : PinTable) (value : Option HostValue) (sent : Wire.Value) : Prop :=
  ∀ path name id, sent.part? path = some (.object name id) →
    ∃ whole object type, value = some whole ∧ view.part? whole path = some (.object object) ∧
      view.typeOf object = some type ∧ name = type.displayName ∧ pins.id? object = some id

/-! ## Sending -/

/-- Values are sent one after the other, where a field without a value counts as one. -/
structure Sends (pins : PinTable) (values : List (Option HostValue)) (sent : List Wire.Value)
    (after : PinTable) : Prop where
  /-- Objects are pinned in the order in which their ids are sent. -/
  pinned : ∃ objects, after = pins.pinEach objects ∧
    sent.flatMap Wire.Value.ids = objects.map after.idOf
  placed : List.Forall₂ (view.Placed after) values sent

variable {view} {pins later after : PinTable}

theorem Placed.of_grown {value : Option HostValue} {sent : Wire.Value} (kept : pins.Kept)
    (grown : pins.Grown later) (placed : view.Placed pins value sent) :
    view.Placed later value sent := by
  intro path name id found
  obtain ⟨whole, object, type, given, there, known, named, noted⟩ := placed path name id found
  obtain ⟨present, same⟩ := kept.id?_eq_some.1 noted
  refine ⟨whole, object, type, given, there, known, named, grown.kept.id?_eq_some.2 ?_⟩
  exact ⟨grown.subset present, (grown.idOf present).trans same⟩

theorem Placed.of_ids_eq_nil {value : Option HostValue} {sent : Wire.Value}
    (none : sent.ids = []) : view.Placed pins value sent := by
  intro path name id found
  have present := Wire.Value.mem_ids_of_part? found
  rw [none] at present
  cases present

theorem Placed.of_list {object : ObjectRef} {sequence : Sequence} {listType : String}
    {items : List Wire.Value} (read : view.sequence? object = some sequence)
    (placed : List.Forall₂ (view.Placed pins) ((sequence.items.map (·.value)).map some) items) :
    view.Placed pins (some (.object object)) (.list listType items) := by
  intro path name id found
  cases path with
  | nil => cases found
  | cons place path =>
    obtain ⟨sent, there, found⟩ := Option.bind_eq_some_iff.1 found
    obtain ⟨inside, rfl⟩ := List.getElem?_eq_some_iff.1 there
    have within : place < sequence.items.length := by
      rw [← placed.length_eq, List.length_map, List.length_map] at inside
      exact inside
    obtain ⟨whole, child, type, given, part, rest⟩ :=
      placed.get (placed.length_eq ▸ inside) inside path name id found
    have value : sequence.items[place].value = whole := by simpa using given
    refine ⟨_, child, type, rfl, ?_, rest⟩
    simp only [part?, read, Option.bind_some, List.getElem?_eq_getElem within, value, part]

theorem Sends.grown {values : List (Option HostValue)} {sent : List Wire.Value}
    (sends : view.Sends pins values sent after) (kept : pins.Kept) : pins.Grown after := by
  obtain ⟨objects, rfl, -⟩ := sends.pinned
  exact kept.grown_pinEach objects

theorem Sends.nil : view.Sends pins [] [] pins where
  pinned := ⟨[], rfl, rfl⟩
  placed := .nil

theorem Sends.cons {value : Option HostValue} {first : Wire.Value} {middle : PinTable}
    {values : List (Option HostValue)} {others : List Wire.Value} (kept : pins.Kept)
    (head : view.Sends pins [value] [first] middle)
    (tail : view.Sends middle values others after) :
    view.Sends pins (value :: values) (first :: others) after := by
  have keeps := (head.grown kept).kept
  have grown := tail.grown keeps
  obtain ⟨⟨before, rfl, ids⟩, placed⟩ := head
  obtain ⟨placed, -⟩ := List.forall₂_cons.1 placed
  obtain ⟨⟨objects, rfl, ids'⟩, placed'⟩ := tail
  refine ⟨⟨before ++ objects, (pins.pinEach_append before objects).symm, ?_⟩,
    .cons (placed.of_grown keeps grown) placed'⟩
  -- the ids of the first value are the same in the table in the end
  have same : before.map (pins.pinEach before).idOf =
      before.map ((pins.pinEach before).pinEach objects).idOf := by
    refine List.map_congr_left fun object present => ?_
    exact (grown.idOf (kept.subset_pinEach before present)).symm
  rw [List.flatMap_singleton] at ids
  rw [List.flatMap_cons, ids, ids', same, List.map_append]

/-- A value that holds no object is sent without pinning any. -/
theorem Sends.of_ids_eq_nil {value : Option HostValue} {sent : Wire.Value}
    (none : sent.ids = []) : view.Sends pins [value] [sent] pins where
  pinned := ⟨[], rfl, by rw [List.flatMap_singleton, none, List.map_nil]⟩
  placed := .cons (.of_ids_eq_nil none) .nil

theorem Sends.of_list {object : ObjectRef} {sequence : Sequence} {listType : String}
    {items : List Wire.Value} (read : view.sequence? object = some sequence)
    (sends : view.Sends pins ((sequence.items.map (·.value)).map some) items after) :
    view.Sends pins [some (.object object)] [.list listType items] after := by
  obtain ⟨⟨objects, rfl, ids⟩, placed⟩ := sends
  refine ⟨⟨objects, rfl, ?_⟩, .cons (.of_list read placed) .nil⟩
  rw [List.flatMap_singleton, Wire.Value.ids, Wire.Value.idsOfEach_eq, ids]

theorem sends_reference {object : ObjectRef} {type : HostType} (kept : pins.Kept)
    (known : view.typeOf object = some type) :
    view.Sends pins [some (.object object)] [(reference object type pins).1.value]
      (reference object type pins).2 := by
  have noted : (pins.pin object).2.id? object = some (pins.pin object).1 :=
    (kept.pin object).id?_eq_some.2 ⟨kept.mem_pin object, (kept.pin_fst object).symm⟩
  refine ⟨⟨[object], rfl, congrArg (· :: []) (kept.pin_fst object)⟩, .cons ?_ .nil⟩
  intro path name id found
  cases path with
  | nil =>
    cases found
    exact ⟨_, object, type, rfl, rfl, known, rfl, noted⟩
  | cons place path => cases found

theorem ids_toWire (scalar : Scalar) : scalar.toWire.ids = [] := by
  cases scalar <;> simp [Scalar.toWire, Wire.Value.ids]

/-- Sends a value as any value is sent. -/
def Faithful (view : HostView) (send : HostValue → PinTable → Wire.Value × PinTable) : Prop :=
  ∀ value pins, pins.Kept → view.Sends pins [some value] [(send value pins).1] (send value pins).2

theorem sends_serializeEach {send : HostValue → PinTable → Wire.Value × PinTable}
    (each : view.Faithful send) (values : List HostValue) (kept : pins.Kept) :
    view.Sends pins (values.map some) (serializeEach send values pins).1
      (serializeEach send values pins).2 := by
  induction values generalizing pins with
  | nil => exact .nil
  | cons value rest ih =>
    have head := each value pins kept
    exact .cons kept head (ih (head.grown kept).kept)

theorem sends_serializeWith {item : Option (HostValue → PinTable → Wire.Value × PinTable)}
    (each : ∀ send ∈ item, view.Faithful send) (value : HostValue) (kept : pins.Kept) :
    view.Sends pins [some value] [(view.serializeWith item value pins).1.value]
      (view.serializeWith item value pins).2 := by
  cases value with
  | scalar scalar => exact .of_ids_eq_nil (ids_toWire scalar)
  | null => exact .of_ids_eq_nil (by simp [serializeWith, Wire.Value.ids])
  | object object =>
    rw [serializeWith]
    split
    · exact .of_ids_eq_nil (by simp [Wire.Value.ids])
    · rename_i type known
      split
      · exact .of_ids_eq_nil (by simp [Wire.Value.ids])
      · exact .of_ids_eq_nil (ids_toWire _)
      · rename_i send sequence _ _ read
        exact .of_list read (sends_serializeEach (each send rfl) _ kept)
      · exact sends_reference kept known

/-- At any depth, the objects that are sent as references are pinned from left to right. -/
theorem faithful_serialize (levels : Nat) : view.Faithful (view.serialize levels) := by
  induction levels with
  | zero =>
    have items : ∀ send ∈ Option.none, view.Faithful send := by
      rintro send ⟨⟩
    exact fun value pins kept => sends_serializeWith items value kept
  | succ levels ih =>
    have items : ∀ send ∈ some (view.serialize levels), view.Faithful send := by
      rintro send ⟨⟩
      exact ih
    exact fun value pins kept => sends_serializeWith items value kept

theorem sends_fieldEntries (rows : List (FieldSummary × Option HostValue)) (kept : pins.Kept) :
    view.Sends pins (rows.map (·.2)) ((view.fieldEntries rows pins).1.map (·.value))
      (view.fieldEntries rows pins).2 := by
  induction rows generalizing pins with
  | nil => exact .nil
  | cons row rest ih =>
    obtain ⟨row, value⟩ := row
    have head : view.Sends pins [value] [(view.fieldEntry row value pins).1.value]
        (view.fieldEntry row value pins).2 := by
      cases value with
      | none => exact .of_ids_eq_nil (by simp [fieldEntry, Wire.Value.ids])
      | some value => exact faithful_serialize maxSerializeDepth value pins kept
    exact .cons kept head (ih (head.grown kept).kept)

/-! ## Answers -/

/-- The static fields of a class with their values. -/
def staticsOf (view : HostView) (className : String) :
    Except QueryError (List (FieldSummary × Option HostValue)) := do
  let rows ← (view.types.enumerateFields className .static).mapError .reflection
  readFields (view.staticField className) rows

/-- The fields of an object with their values. -/
def fieldsOf (view : HostView) (object : ObjectRef) :
    Except QueryError (List (FieldSummary × Option HostValue)) := do
  let className ← view.memberClass object
  let rows ← (view.types.enumerateFields className .onInstance).mapError .reflection
  readFields (view.instanceField object) rows

/-- The items of an object that is a sequence. -/
def itemsOf (view : HostView) (object : ObjectRef) : Except QueryError (List HostValue) := do
  let sequence ← (view.toSequence object).mapError .reflection
  return sequence.items.map (·.value)

/-- The values that a question asks for. -/
def sources (view : HostView) (pins : PinTable) :
    Wire.RequestBody → Except QueryError (List (Option HostValue))
  | .staticFields className => do return (← view.staticsOf className).map (·.2)
  | .objectFields id => do return (← view.fieldsOf (← referent pins id)).map (·.2)
  | .readSequence id => do return (← view.itemsOf (← referent pins id)).map some
  | _ => return []

theorem values_signatureAnswer (found : Option String) : (signatureAnswer found).values = [] := by
  cases found <;> rfl

/-- An answer sends the values that were asked for. -/
theorem sends_of_lookUp {body : Wire.RequestBody} {reply : Wire.ResponseBody} (kept : pins.Kept)
    (found : view.lookUp pins body = .ok (reply, after)) :
    ∃ values, view.sources pins body = .ok values ∧ view.Sends pins values reply.values after := by
  cases body with
  | staticFields className =>
    obtain ⟨rows, listed, found⟩ := bind_eq_ok.1 found
    obtain ⟨values, read, found⟩ := bind_eq_ok.1 found
    cases found
    refine ⟨values.map (·.2), ?_, sends_fieldEntries values kept⟩
    simp only [sources, staticsOf, listed, ok_bind, read, pure_eq_ok]
  | objectFields id =>
    obtain ⟨object, meant, found⟩ := bind_eq_ok.1 found
    obtain ⟨className, ofClass, found⟩ := bind_eq_ok.1 found
    obtain ⟨rows, listed, found⟩ := bind_eq_ok.1 found
    obtain ⟨values, read, found⟩ := bind_eq_ok.1 found
    cases found
    refine ⟨values.map (·.2), ?_, sends_fieldEntries values kept⟩
    simp only [sources, fieldsOf, meant, ofClass, listed, ok_bind, read, pure_eq_ok]
  | readSequence id =>
    obtain ⟨object, meant, found⟩ := bind_eq_ok.1 found
    obtain ⟨sequence, read, found⟩ := bind_eq_ok.1 found
    cases found
    refine ⟨(sequence.items.map (·.value)).map some, ?_,
      sends_serializeEach (faithful_serialize _) _ kept⟩
    simp only [sources, itemsOf, meant, read, ok_bind, pure_eq_ok]
  | fieldSignature target field =>
    obtain ⟨member, -, found⟩ := bind_eq_ok.1 found
    obtain ⟨signature, -, found⟩ := bind_eq_ok.1 found
    cases found
    rw [values_signatureAnswer]
    exact ⟨[], rfl, .nil⟩
  | methodSignature target method hints =>
    obtain ⟨member, -, found⟩ := bind_eq_ok.1 found
    obtain ⟨signature, -, found⟩ := bind_eq_ok.1 found
    cases found
    rw [values_signatureAnswer]
    exact ⟨[], rfl, .nil⟩
  | _ =>
    cases found
    exact ⟨[], rfl, .nil⟩

end HostView

end Inspector
