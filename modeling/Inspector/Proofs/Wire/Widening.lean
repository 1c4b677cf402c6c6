import Mathlib.Data.List.Forall2
import Inspector.Proofs.Wire.Response

/-!
# Messages from peers that know more

A peer may write the fields of a map in another order and may add fields that readers do not know
yet, wherever a map stands in a response. `Widened` says which items come about in this way. Every
map that is written holds all the names that its reader knows, so the names that are new to it are
those that its reader passes over. A response that reads back from its own packed form is read from
all of the wider forms as well (`decode_widened_response`).
-/

namespace Inspector.Pack

/-- An item that differs from a written one only in the order of the fields in its maps and in
further fields under names of their own, which may hold anything. -/
inductive Item.Widened : (written wider : Item) → Prop
  | nil : Widened .nil .nil
  | bool (value : Bool) : Widened (.bool value) (.bool value)
  | int (value : Int64) : Widened (.int value) (.int value)
  | float (bits : UInt64) : Widened (.float bits) (.float bits)
  | text (value : String) : Widened (.text value) (.text value)
  | list {items wider : List Item} (each : List.Forall₂ Widened items wider) :
    Widened (.list items) (.list wider)
  | field (name : String) {payload wider : Item} (inside : Widened payload wider) :
    Widened (.field name payload) (.field name wider)
  | map {fields kept added wider : List (String × Item)}
    (names : kept.map (·.1) = fields.map (·.1))
    (each : List.Forall₂ Widened (fields.map (·.2)) (kept.map (·.2)))
    (unknown : ∀ entry ∈ added, entry.1 ∉ fields.map (·.1))
    (mixed : wider.Perm (kept ++ added)) : Widened (.map fields) (.map wider)

end Inspector.Pack

namespace Inspector.Wire

open Pack Outcome

/-! ## Lists and records -/

/-- Each item of a wider list reads as the value whose item it comes from. -/
theorem mapM_widened {α : Type} {toItem : α → Item} {decode : Bytes → Except Error α}
    {values : List α} {items : List Item}
    (widened : List.Forall₂ Item.Widened (values.map toItem) items)
    (each : ∀ value ∈ values, ∀ item ∈ items, Item.Widened (toItem value) item →
      decode item.bytes = .ok value) :
    items.mapM (fun item => decode item.bytes) = .ok values := by
  induction values generalizing items with
  | nil =>
    cases widened
    rfl
  | cons value rest ih =>
    cases widened with
    | @cons _ item _ others first later =>
      rw [mapM_cons_eq_ok]
      refine ⟨value, rest, each value List.mem_cons_self item List.mem_cons_self first, ?_, rfl⟩
      exact ih later fun value present item among =>
        each value (List.mem_cons_of_mem _ present) item (List.mem_cons_of_mem _ among)

theorem readList_widened {α : Type} {toItem : α → Item} {decode : Bytes → Except Error α}
    {values : List α} {item : Item} (widened : Item.Widened (.list (values.map toItem)) item)
    (fits : item.Fits)
    (each : ∀ value ∈ values, ∀ wider, Item.Widened (toItem value) wider → wider.Fits →
      decode wider.bytes = .ok value) : readList item.bytes decode = .ok values := by
  cases widened with
  | list inside =>
    rw [readList_bytes fits]
    exact mapM_widened inside fun value present item among widened =>
      each value present item widened (fits.of_mem_list among)

/-- How a record takes its fields: what a known field holds goes into a place of its own, in
whatever wider form it comes, and any other field is passed over. -/
structure Settles {σ : Type} (step : σ → String → Bytes → Except Error σ)
    (fields : List (String × Item)) (fill : String → σ → σ) : Prop where
  known : ∀ {name payload}, (name, payload) ∈ fields → ∀ {wider}, Item.Widened payload wider →
    wider.Fits → ∀ slots, step slots name wider.bytes = .ok (fill name slots)
  unknown : ∀ name ∉ fields.map (·.1), ∀ slots, fill name slots = slots ∧
    ∀ payload, step slots name payload = read Pack.skip payload >>= fun _ => .ok slots
  commute : ∀ first second slots, fill first (fill second slots) = fill second (fill first slots)

/-- The field that a field of a wider map comes from. -/
theorem exists_written {fields kept : List (String × Item)}
    (names : kept.map (·.1) = fields.map (·.1))
    (each : List.Forall₂ Item.Widened (fields.map (·.2)) (kept.map (·.2)))
    {entry : String × Item} (present : entry ∈ kept) :
    ∃ written ∈ fields, written.1 = entry.1 ∧ Item.Widened written.2 entry.2 := by
  induction kept generalizing fields with
  | nil => cases present
  | cons first rest ih =>
    cases fields with
    | nil => cases names
    | cons written others =>
      obtain ⟨sameName, names⟩ := List.cons.inj names
      cases each with
      | cons here later =>
        rcases List.mem_cons.1 present with rfl | present
        · exact ⟨written, List.mem_cons_self, sameName.symm, here⟩
        · obtain ⟨source, among, named, wider⟩ := ih names later present
          exact ⟨source, List.mem_cons_of_mem _ among, named, wider⟩

theorem foldlM_of_ok {ε σ α : Type} {step : σ → α → Except ε σ} {next : σ → α → σ}
    {entries : List α}
    (each : ∀ entry ∈ entries, ∀ slots, step slots entry = .ok (next slots entry)) (slots : σ) :
    entries.foldlM step slots = .ok (entries.foldl next slots) := by
  induction entries generalizing slots with
  | nil => rfl
  | cons first rest ih =>
    rw [List.foldlM_cons, each first List.mem_cons_self, ok_bind, List.foldl_cons]
    exact ih (fun entry later => each entry (List.mem_cons_of_mem _ later)) _

section Record

variable {σ : Type} {step : σ → String → Bytes → Except Error σ} {fields : List (String × Item)}
  {fill : String → σ → σ}

/-- Every field of a wider record is taken. -/
theorem Settles.step_ok (settles : Settles step fields fill)
    {kept added wider : List (String × Item)} (names : kept.map (·.1) = fields.map (·.1))
    (each : List.Forall₂ Item.Widened (fields.map (·.2)) (kept.map (·.2)))
    (unknown : ∀ entry ∈ added, entry.1 ∉ fields.map (·.1)) (mixed : wider.Perm (kept ++ added))
    (fits : (Item.map wider).Fits) {entry : String × Item} (present : entry ∈ wider) (slots : σ) :
    step slots entry.1 entry.2.bytes = .ok (fill entry.1 slots) := by
  have inside : entry.2.Fits := (fits.of_mem_map present).payload
  rcases List.mem_append.1 (mixed.mem_iff.1 present) with old | new
  · obtain ⟨written, among, sameName, widened⟩ := exists_written names each old
    rw [← sameName]
    exact settles.known among widened inside slots
  · obtain ⟨idle, skips⟩ := settles.unknown entry.1 (unknown entry new) slots
    rw [skips, read_of_run (run_skip inside), ok_bind, idle]

/-- A wider record fills the same places as the one that was written. -/
theorem readRecord_widened (settles : Settles step fields fill) {item : Item}
    (widened : Item.Widened (.map fields) item) (fits : item.Fits) (slots : σ) :
    readRecord item.bytes step slots =
      .ok ((fields.map (·.1)).foldl (fun slots name => fill name slots) slots) := by
  cases widened with
  | @map _ kept added wider names each unknown mixed =>
    have taken : ∀ entry ∈ wider, ∀ slots, step slots entry.1 entry.2.bytes =
        .ok (fill entry.1 slots) := fun entry present =>
      settles.step_ok names each unknown mixed fits present
    have idle (slots : σ) : added.foldl (fun slots entry => fill entry.1 slots) slots = slots := by
      refine List.foldlRecOn added _ (motive := fun s => s = slots) rfl ?_
      intro current same entry new
      rw [(settles.unknown entry.1 (unknown entry new) current).1, same]
    rw [readRecord_bytes fits, foldlM_of_ok taken,
      mixed.foldl_eq' (fun first _ second _ slots => settles.commute second.1 first.1 slots),
      List.foldl_append, idle, ← names, List.foldl_map]

end Record

/-! ## Values -/

namespace Value

/-- What the fields of an object put into its slots. -/
def ObjectSlots.fill (className : String) (objectId : Int64) (name : String)
    (slots : ObjectSlots) : ObjectSlots :=
  match name with
  | "class_name" => { slots with className := some className }
  | "object_id" => { slots with objectId := some objectId }
  | _ => slots

theorem settles_object (className : String) (objectId : Int64) :
    Settles ObjectSlots.take [("class_name", .text className), ("object_id", .int objectId)]
      (ObjectSlots.fill className objectId) where
  known present wider widened fits slots := by
    simp only [List.mem_cons, Prod.mk.injEq, List.not_mem_nil, or_false] at present
    rcases present with ⟨rfl, rfl⟩ | ⟨rfl, rfl⟩ <;> cases widened
    · simp only [ObjectSlots.take, ObjectSlots.fill, read_text fits, ok_bind, pure_eq_ok]
    · simp only [ObjectSlots.take, ObjectSlots.fill, read_int, ok_bind, pure_eq_ok]
  unknown name other slots := by
    unfold ObjectSlots.fill ObjectSlots.take
    split <;> simp_all
  commute first second slots := by
    unfold ObjectSlots.fill
    split <;> split <;> rfl

/-- What the fields of a list put into its slots. -/
def ListSlots.fill (listType : String) (items : List Value) (name : String) (slots : ListSlots) :
    ListSlots :=
  match name with
  | "list_type" => { slots with listType := some listType }
  | "items" => { slots with items := some items }
  | _ => slots

theorem settles_list (listType : String) {items : List Value} {item : Bytes → Except Error Value}
    (each : ∀ value ∈ items, ∀ wider, Item.Widened value.toItem wider → wider.Fits →
      item wider.bytes = .ok value) :
    Settles (ListSlots.take item)
      [("list_type", .text listType), ("items", .list (toItems items))]
      (ListSlots.fill listType items) where
  known present wider widened fits slots := by
    simp only [List.mem_cons, Prod.mk.injEq, List.not_mem_nil, or_false] at present
    rcases present with ⟨rfl, rfl⟩ | ⟨rfl, rfl⟩
    · cases widened
      simp only [ListSlots.take, ListSlots.fill, read_text fits, ok_bind, pure_eq_ok]
    · rw [toItems_eq_map] at widened
      simp only [ListSlots.take, ListSlots.fill, readList_widened widened fits each, ok_bind,
        pure_eq_ok]
  unknown name other slots := by
    unfold ListSlots.fill ListSlots.take
    split <;> simp_all
  commute first second slots := by
    unfold ListSlots.fill
    split <;> split <;> rfl

/-- A value is read from each of its wider forms, if it nests less deep than the reader goes. -/
theorem decodeWithin_widened {value : Value} {item : Item} {depth : Nat}
    (widened : Item.Widened value.toItem item) (fits : item.Fits) (within : value.nesting < depth) :
    decodeWithin depth item.bytes = .ok value := by
  induction depth generalizing value item with
  | zero => exact absurd within (Nat.not_lt_zero _)
  | succ depth ih =>
    cases value with
    | notPresent | null =>
      rw [toItem, Item.unit] at widened
      cases widened with
      | field _ inside =>
        cases inside
        rw [decodeWithin_succ, read_field_alone fits, ok_bind]
        simp only [ofPayload, read_nil, ok_bind, pure_eq_ok]
    | int value =>
      rw [toItem] at widened
      cases widened with
      | field _ inside =>
        cases inside
        rw [decodeWithin_succ, read_field_alone fits, ok_bind]
        simp only [ofPayload, read_int, ok_bind, pure_eq_ok]
    | float bits =>
      rw [toItem] at widened
      cases widened with
      | field _ inside =>
        cases inside
        rw [decodeWithin_succ, read_field_alone fits, ok_bind]
        simp only [ofPayload, read_float, ok_bind, pure_eq_ok]
    | bool value =>
      rw [toItem] at widened
      cases widened with
      | field _ inside =>
        cases inside
        rw [decodeWithin_succ, read_field_alone fits, ok_bind]
        simp only [ofPayload, read_bool, ok_bind, pure_eq_ok]
    | text value =>
      rw [toItem] at widened
      cases widened with
      | field _ inside =>
        cases inside
        rw [decodeWithin_succ, read_field_alone fits, ok_bind]
        simp only [ofPayload, read_text fits.payload, ok_bind, pure_eq_ok]
    | object className objectId =>
      rw [toItem] at widened
      cases widened with
      | field _ inside =>
        have filled := readRecord_widened (settles_object className objectId) inside fits.payload {}
        rw [decodeWithin_succ, read_field_alone fits, ok_bind]
        simp only [ofPayload, filled, List.map_cons, List.map_nil, List.foldl_cons, List.foldl_nil,
          ObjectSlots.fill, ok_bind, required_some, pure_eq_ok]
    | list listType items =>
      rw [toItem] at widened
      have shallow := nestingInside_le_iff.1 (Nat.le_of_lt_succ within)
      have settles := settles_list listType fun value present wider widened fits =>
        ih widened fits (shallow value present)
      cases widened with
      | field _ inside =>
        have filled := readRecord_widened settles inside fits.payload {}
        rw [decodeWithin_succ, read_field_alone fits, ok_bind]
        simp only [ofPayload, filled, List.map_cons, List.map_nil, List.foldl_cons, List.foldl_nil,
          ListSlots.fill, ok_bind, required_some, pure_eq_ok]

theorem decode_widened {value : Value} {item : Item} (widened : Item.Widened value.toItem item)
    (fits : item.Fits) (within : value.nesting ≤ maxValueDepth) :
    decode item.bytes = .ok value :=
  decodeWithin_widened widened fits (Nat.lt_succ_of_le within)

end Value

/-! ## Entries -/

namespace ClassEntry

/-- What the fields of a class put into its slots. -/
def Slots.fill (entry : ClassEntry) (name : String) (slots : Slots) : Slots :=
  match name with
  | "name" => { slots with name := some entry.name }
  | "category" => { slots with kind := some entry.kind }
  | "loaded" => { slots with loaded := some entry.loaded }
  | _ => slots

theorem settles (entry : ClassEntry) :
    Settles Slots.take [("name", .text entry.name), ("category", .text entry.kind.word),
      ("loaded", .bool entry.loaded)] (Slots.fill entry) where
  known present wider widened fits slots := by
    simp only [List.mem_cons, Prod.mk.injEq, List.not_mem_nil, or_false] at present
    rcases present with ⟨rfl, rfl⟩ | ⟨rfl, rfl⟩ | ⟨rfl, rfl⟩ <;> cases widened
    · simp only [Slots.take, Slots.fill, read_text fits, ok_bind, pure_eq_ok]
    · simp only [Slots.take, Slots.fill, read_text fits, readKind_word, ok_bind, pure_eq_ok]
    · simp only [Slots.take, Slots.fill, read_bool, ok_bind, pure_eq_ok]
  unknown name other slots := by
    unfold Slots.fill Slots.take
    split <;> simp_all
  commute first second slots := by
    unfold Slots.fill
    split <;> split <;> rfl

theorem decode_widened {entry : ClassEntry} {item : Item}
    (widened : Item.Widened entry.toItem item) (fits : item.Fits) :
    decode item.bytes = .ok entry := by
  rw [decode, readRecord_widened (settles entry) widened fits]
  simp only [List.map_cons, List.map_nil, List.foldl_cons, List.foldl_nil, Slots.fill, ok_bind,
    required_some, pure_eq_ok]

end ClassEntry

namespace ThreadEntry

/-- What the fields of a thread put into its slots. -/
def Slots.fill (entry : ThreadEntry) (name : String) (slots : Slots) : Slots :=
  match name with
  | "name" => { slots with name := some entry.name }
  | "daemon" => { slots with daemon := some entry.daemon }
  | "stack_trace" => { slots with stackTrace := some entry.stackTrace }
  | _ => slots

theorem settles (entry : ThreadEntry) :
    Settles Slots.take [("name", .text entry.name), ("daemon", .bool entry.daemon),
      ("stack_trace", .text entry.stackTrace)] (Slots.fill entry) where
  known present wider widened fits slots := by
    simp only [List.mem_cons, Prod.mk.injEq, List.not_mem_nil, or_false] at present
    rcases present with ⟨rfl, rfl⟩ | ⟨rfl, rfl⟩ | ⟨rfl, rfl⟩ <;> cases widened
    · simp only [Slots.take, Slots.fill, read_text fits, ok_bind, pure_eq_ok]
    · simp only [Slots.take, Slots.fill, read_bool, ok_bind, pure_eq_ok]
    · simp only [Slots.take, Slots.fill, read_text fits, ok_bind, pure_eq_ok]
  unknown name other slots := by
    unfold Slots.fill Slots.take
    split <;> simp_all
  commute first second slots := by
    unfold Slots.fill
    split <;> split <;> rfl

theorem decode_widened {entry : ThreadEntry} {item : Item}
    (widened : Item.Widened entry.toItem item) (fits : item.Fits) :
    decode item.bytes = .ok entry := by
  rw [decode, readRecord_widened (settles entry) widened fits]
  simp only [List.map_cons, List.map_nil, List.foldl_cons, List.foldl_nil, Slots.fill, ok_bind,
    required_some, pure_eq_ok]

end ThreadEntry

namespace FieldEntry

/-- What the fields of a field's record put into its slots. -/
def Slots.fill (entry : FieldEntry) (name : String) (slots : Slots) : Slots :=
  match name with
  | "name" => { slots with name := some entry.name }
  | "type_name" => { slots with typeName := some entry.typeName }
  | "descriptor" => { slots with descriptor := some entry.descriptor }
  | "value" => { slots with value := some entry.value }
  | "object_id" => { slots with objectId := some entry.objectId }
  | _ => slots

theorem settles {entry : FieldEntry} (within : entry.value.nesting ≤ maxValueDepth) :
    Settles Slots.take [("name", .text entry.name), ("type_name", .text entry.typeName),
      ("descriptor", .text entry.descriptor), ("value", entry.value.toItem),
      ("object_id", .int entry.objectId)] (Slots.fill entry) where
  known present wider widened fits slots := by
    simp only [List.mem_cons, Prod.mk.injEq, List.not_mem_nil, or_false] at present
    rcases present with ⟨rfl, rfl⟩ | ⟨rfl, rfl⟩ | ⟨rfl, rfl⟩ | ⟨rfl, rfl⟩ | ⟨rfl, rfl⟩
    · cases widened
      simp only [Slots.take, Slots.fill, read_text fits, ok_bind, pure_eq_ok]
    · cases widened
      simp only [Slots.take, Slots.fill, read_text fits, ok_bind, pure_eq_ok]
    · cases widened
      simp only [Slots.take, Slots.fill, read_text fits, ok_bind, pure_eq_ok]
    · simp only [Slots.take, Slots.fill, Value.decode_widened widened fits within, ok_bind,
        pure_eq_ok]
    · cases widened
      simp only [Slots.take, Slots.fill, read_int, ok_bind, pure_eq_ok]
  unknown name other slots := by
    unfold Slots.fill Slots.take
    split <;> simp_all
  commute first second slots := by
    unfold Slots.fill
    split <;> split <;> rfl

theorem decode_widened {entry : FieldEntry} {item : Item}
    (widened : Item.Widened entry.toItem item) (fits : item.Fits)
    (within : entry.value.nesting ≤ maxValueDepth) : decode item.bytes = .ok entry := by
  rw [decode, readRecord_widened (settles within) widened fits]
  simp only [List.map_cons, List.map_nil, List.foldl_cons, List.foldl_nil, Slots.fill, ok_bind,
    required_some, pure_eq_ok]

end FieldEntry

/-! ## Responses -/

/-- An answer whose values do not nest too deep is read from each of its wider forms. -/
theorem ResponseBody.decode_widened {body : ResponseBody} {item : Item}
    (widened : Item.Widened body.toItem item) (fits : item.Fits) (shallow : body.Shallow) :
    decode item.bytes = .ok body := by
  cases body with
  | notFound | ack =>
    rw [toItem, Item.unit] at widened
    cases widened with
    | field _ inside =>
      cases inside
      rw [decode, read_field_alone fits, ok_bind]
      simp only [read_nil, ok_bind, pure_eq_ok]
  | signature text | logStream text | error text =>
    rw [toItem] at widened
    cases widened with
    | field _ inside =>
      cases inside
      rw [decode, read_field_alone fits, ok_bind]
      simp only [read_text fits.payload, ok_bind, pure_eq_ok]
  | loadedClasses classes =>
    rw [toItem] at widened
    cases widened with
    | field _ inside =>
      have list := readList_widened inside fits.payload fun entry _ wider widened fits =>
        ClassEntry.decode_widened widened fits
      rw [decode, read_field_alone fits, ok_bind]
      simp only [list, ok_bind, pure_eq_ok]
  | processStatus threads =>
    rw [toItem] at widened
    cases widened with
    | field _ inside =>
      have list := readList_widened inside fits.payload fun entry _ wider widened fits =>
        ThreadEntry.decode_widened widened fits
      rw [decode, read_field_alone fits, ok_bind]
      simp only [list, ok_bind, pure_eq_ok]
  | fields entries =>
    rw [toItem] at widened
    cases widened with
    | field _ inside =>
      have list := readList_widened inside fits.payload fun entry present wider widened fits =>
        FieldEntry.decode_widened widened fits (shallow_fields_iff.1 shallow entry present)
      rw [decode, read_field_alone fits, ok_bind]
      simp only [list, ok_bind, pure_eq_ok]
  | sequence listType items =>
    rw [toItem] at widened
    have within : ∀ value ∈ items, value.nesting ≤ maxValueDepth := shallow
    have settles := Value.settles_list listType fun value present wider widened fits =>
      Value.decode_widened widened fits (within value present)
    cases widened with
    | field _ inside =>
      have filled := readRecord_widened settles inside fits.payload {}
      rw [decode, read_field_alone fits, ok_bind]
      simp only [filled, List.map_cons, List.map_nil, List.foldl_cons, List.foldl_nil,
        Value.ListSlots.fill, ok_bind, required_some, pure_eq_ok]

namespace Envelope

variable {β : Type} {kind : String} {print : β → Item} {message : Envelope β}

/-- What the fields of an envelope put into its slots. -/
def Slots.fill (message : Envelope β) (name : String) (slots : Slots β) : Slots β :=
  match name with
  | "id" => { slots with id := some message.id }
  | "body" => { slots with body := some message.body }
  | _ => slots

theorem settles {body : Bytes → Except Error β}
    (inside : ∀ {wider}, Item.Widened (print message.body) wider → wider.Fits →
      body wider.bytes = .ok message.body) :
    Settles (Slots.take body) [("id", .int message.id), ("body", print message.body)]
      (Slots.fill message) where
  known present wider widened fits slots := by
    simp only [List.mem_cons, Prod.mk.injEq, List.not_mem_nil, or_false] at present
    rcases present with ⟨rfl, rfl⟩ | ⟨rfl, rfl⟩
    · cases widened
      simp only [Slots.take, Slots.fill, read_int, ok_bind, pure_eq_ok]
    · simp only [Slots.take, Slots.fill, inside widened fits, ok_bind, pure_eq_ok]
  unknown name other slots := by
    unfold Slots.fill Slots.take
    split <;> simp_all
  commute first second slots := by
    unfold Slots.fill
    split <;> split <;> rfl

/-- A message is read from each of its wider forms if its body is. -/
theorem decode_widened {body : Bytes → Except Error β}
    (inside : ∀ {wider}, Item.Widened (print message.body) wider → wider.Fits →
      body wider.bytes = .ok message.body)
    {item : Item} (widened : Item.Widened (message.toItem kind print) item) (fits : item.Fits) :
    decode kind body item.bytes = .ok message := by
  rw [toItem] at widened
  cases widened with
  | field _ record =>
    have filled := readRecord_widened (settles inside) record fits.payload {}
    rw [decode, read_field_alone fits, ok_bind]
    simp only [ne_eq, not_true, ↓reduceIte, filled, List.map_cons, List.map_nil, List.foldl_cons,
      List.foldl_nil, Slots.fill, ok_bind, required_some, pure_eq_ok]

end Envelope

namespace Response

/-- A response that survives its own writing and reading is also read, as the same response, from
every wider form of its item. -/
theorem decode_widened_response (response : Response)
    (survives : Response.encode response >>= Response.decode = .ok response) {item : Item}
    (widened : Item.Widened (response.toItem "res" ResponseBody.toItem) item) {written : Bytes}
    (packed : pack item = .ok written) : Response.decode written = .ok response := by
  obtain ⟨_, _, back⟩ := bind_eq_ok.1 survives
  obtain ⟨shallow, ordinary, _⟩ := shallow_and_fits_of_decode back
  obtain ⟨fits, rfl⟩ := pack_eq_ok_iff.1 packed
  have envelope : Envelope.decode "res" ResponseBody.decode item.bytes = .ok response :=
    Envelope.decode_widened (fun widened fits => ResponseBody.decode_widened widened fits shallow)
      widened fits
  rw [Response.decode, envelope, ok_bind, ordinary]
  rfl

/-- A field that holds an array with one object in it. -/
def cart : FieldEntry where
  name := "cart"
  typeName := "shop.Item[]"
  descriptor := "[Lshop/Item;"
  value := .list "shop.Item[]" [.object "shop.Item" 3]
  objectId := 4

/-- The fields of a map the other way round, behind one that is new. -/
def newerMap (extra : String × Item) (fields : List (String × Item)) : Item :=
  .map (extra :: fields.reverse)

/-- The value of the field as a newer peer may write it. -/
def newerValue : Item :=
  .field "List" (newerMap ("length", .int 1) [("list_type", .text "shop.Item[]"),
    ("items", .list [.field "Object" (newerMap ("shared", .field "by" (.text "id"))
      [("class_name", .text "shop.Item"), ("object_id", .int 3)])])])

/-- An answer with that field as a newer peer may write it. -/
def newerAnswer : Item :=
  .field "res" (newerMap ("trace", .list [.nil, .map [("at", .int 5)]]) [("id", .int 7),
    ("body", .field "Fields" (.list [newerMap ("hidden", .bool false) [("name", .text "cart"),
      ("type_name", .text "shop.Item[]"), ("descriptor", .text "[Lshop/Item;"),
      ("value", newerValue), ("object_id", .int 4)]]))])

theorem widened_newerMap {fields kept : List (String × Item)} {extra : String × Item}
    (each : List.Forall₂ Item.Widened (fields.map (·.2)) (kept.map (·.2)))
    (names : kept.map (·.1) = fields.map (·.1)) (unknown : extra.1 ∉ fields.map (·.1)) :
    Item.Widened (.map fields) (newerMap extra kept) := by
  refine .map names each (fun entry present => ?_) (((List.reverse_perm kept).cons extra).trans
    (List.perm_append_singleton extra kept).symm)
  rw [List.mem_singleton.1 present]
  exact unknown

theorem widened_newerValue : Item.Widened cart.value.toItem newerValue := by
  refine .field _ (widened_newerMap (.cons (.text _)
    (.cons (.list (.cons (.field _ ?_) .nil)) .nil)) rfl (by decide))
  exact widened_newerMap (.cons (.text _) (.cons (.int _) .nil)) rfl (by decide)

theorem widened_newerAnswer :
    Item.Widened (Envelope.toItem "res" ResponseBody.toItem { id := 7, body := .fields [cart] })
      newerAnswer := by
  refine .field _ (widened_newerMap (.cons (.int _) (.cons (.field _ (.list (.cons ?_ .nil))) .nil))
    rfl (by decide))
  exact widened_newerMap (.cons (.text _) (.cons (.text _) (.cons (.text _)
    (.cons widened_newerValue (.cons (.int _) .nil))))) rfl (by decide)

/-- The newer form is read as the answer that it stands for. -/
theorem decode_widened_response_newer : ∃ written, pack newerAnswer = .ok written ∧
    Response.decode written = .ok { id := 7, body := .fields [cart] } := by
  have fits : (Envelope.toItem "res" ResponseBody.toItem
      { id := 7, body := .fields [cart] }).Fits := by decide +kernel
  have shallow : (ResponseBody.fields [cart]).Shallow := by decide +kernel
  have survives : Response.encode { id := 7, body := .fields [cart] } >>= Response.decode =
      .ok { id := 7, body := .fields [cart] } := by
    rw [Response.encode, pack_eq_ok_iff.2 ⟨fits, rfl⟩, ok_bind, decode_bytes fits,
      if_neg (not_not_intro shallow)]
    rfl
  have packed := pack_eq_ok_iff.2 ⟨(by decide +kernel : newerAnswer.Fits), rfl⟩
  exact ⟨_, packed, decode_widened_response _ survives widened_newerAnswer packed⟩

end Response

end Inspector.Wire
