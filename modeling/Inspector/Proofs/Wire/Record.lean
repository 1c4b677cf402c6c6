import Inspector.Proofs.Outcome
import Inspector.Proofs.Pack.Reading
import Inspector.Wire.Record

/-!
# Records and lists, read from their packed forms

Reading a record goes through the fields of its packed form in order, and reading a list through
its items.
-/

namespace Inspector.Wire

open Pack Outcome

/-! ## Packing -/

/-- An item becomes a message exactly when its lengths fit. -/
theorem pack_eq_ok_iff {item : Item} {bytes : Bytes} :
    pack item = .ok bytes ↔ item.Fits ∧ bytes = item.bytes := by
  rw [pack, mapError_eq_ok, Item.encode_eq_ok_iff]

/-- The only way in which packing fails. -/
theorem pack_eq_error {item : Item} {e : Error} (failed : pack item = .error e) :
    ∃ length, e = .pack (.blobTooLarge length) ∧ maxLength < length := by
  rw [pack] at failed
  cases encoded : item.encode with
  | ok bytes =>
    rw [encoded] at failed
    cases failed
  | error cause =>
    obtain ⟨length, rfl, large⟩ := Item.encode_eq_error encoded
    rw [encoded] at failed
    cases failed
    exact ⟨length, rfl, large⟩

/-! ## Single items -/

/-- A read that succeeds whatever follows. -/
theorem read_of_run {α : Type} {reader : Read α} {payload : Bytes} {a : α}
    (done : ∀ rest : Bytes, reader.run (payload ++ rest) = (.ok a, rest)) :
    read reader payload = .ok a := by
  have alone := done []
  rw [List.append_nil] at alone
  rw [read, alone]
  rfl

theorem read_nil : read Pack.nil Item.nil.bytes = .ok () :=
  read_of_run run_nil

theorem read_bool (value : Bool) : read Pack.bool (Item.bool value).bytes = .ok value :=
  read_of_run (run_bool value)

theorem read_int (value : Int64) : read Pack.int (Item.int value).bytes = .ok value :=
  read_of_run (run_int value)

theorem read_float (bits : UInt64) : read Pack.float (Item.float bits).bytes = .ok bits :=
  read_of_run (run_float bits)

theorem read_text {value : String} (fits : (Item.text value).Fits) :
    read Pack.text (Item.text value).bytes = .ok value :=
  read_of_run (run_text fits)

/-- A field is read off the front, whatever follows it. -/
theorem read_field {name : String} {payload : Item} (fits : (Item.field name payload).Fits)
    (rest : Bytes) :
    read Pack.field ((Item.field name payload).bytes ++ rest) = .ok (name, payload.bytes) := by
  rw [read, run_field fits rest]
  rfl

theorem read_field_alone {name : String} {payload : Item}
    (fits : (Item.field name payload).Fits) :
    read Pack.field (Item.field name payload).bytes = .ok (name, payload.bytes) := by
  have front := read_field fits []
  rwa [List.append_nil] at front

/-! ## Records and lists -/

theorem readRecord_bytes {σ : Type} {fields : List (String × Item)}
    (fits : (Item.map fields).Fits) (step : σ → String → Bytes → Except Error σ) (slots : σ) :
    readRecord (Item.map fields).bytes step slots =
      fields.foldlM (fun slots entry => step slots entry.1 entry.2.bytes) slots := by
  have body : read Pack.map (Item.map fields).bytes = .ok (Item.bytesOfFields fields) :=
    read_of_run (run_map fits)
  have parts := fieldsOf_bytesOfFields fun entry present => fits.of_mem_map present
  rw [readRecord, body, ok_bind, parts, Contents.fold, List.foldlM_map]
  exact bind_pure _

theorem readList_bytes {α : Type} {items : List Item} (fits : (Item.list items).Fits)
    (item : Bytes → Except Error α) :
    readList (Item.list items).bytes item = items.mapM fun i => item i.bytes := by
  have body : read Pack.list (Item.list items).bytes = .ok (Item.bytesOfItems items) :=
    read_of_run (run_list fits)
  have parts := itemsOf_bytesOfItems fun i present => fits.of_mem_list present
  rw [readList, body, ok_bind, readItems]
  simp only [parts, List.mapM_map]
  exact bind_pure _

/-- Items are read back one by one; the first that is not within bounds ends the reading. -/
theorem readList_limited {α : Type} {toItem : α → Item} {item : Bytes → Except Error α}
    {Within : α → Prop} [DecidablePred Within] {e : Error} {values : List α}
    (fits : (Item.list (values.map toItem)).Fits)
    (each : ∀ value ∈ values,
      item (toItem value).bytes = if Within value then .ok value else .error e) :
    readList (Item.list (values.map toItem)).bytes item =
      if ∀ value ∈ values, Within value then .ok values else .error e := by
  rw [readList_bytes fits, List.mapM_map]
  clear fits
  induction values with
  | nil => simp
  | cons first rest ih =>
    have others := ih fun value later => each value (.tail _ later)
    rw [List.mapM_cons, Function.comp, each first (.head _)]
    simp only [List.forall_mem_cons]
    by_cases here : Within first
    · rw [if_pos here, ok_bind, others]
      by_cases later : ∀ value ∈ rest, Within value
      · rw [if_pos later, if_pos ⟨here, later⟩]
        rfl
      · rw [if_neg later, if_neg fun both => later both.2]
        rfl
    · rw [if_neg here, if_neg fun both => here both.1]
      rfl

/-- A list of items that each read back as one of the values. -/
theorem readList_toItem {α : Type} {toItem : α → Item} {item : Bytes → Except Error α}
    {values : List α} (fits : (Item.list (values.map toItem)).Fits)
    (each : ∀ value ∈ values, item (toItem value).bytes = .ok value) :
    readList (Item.list (values.map toItem)).bytes item = .ok values := by
  have unlimited : ∀ value ∈ values, item (toItem value).bytes =
      if True then .ok value else .error .recursionLimitExceeded := by simpa using each
  rw [readList_limited fits unlimited]
  simp

@[simp] theorem required_some {α : Type} (name : String) (value : α) :
    required name (some value) = .ok value := rfl

theorem required_eq_ok {α : Type} {name : String} {slot : Option α} {value : α} :
    required name slot = .ok value ↔ slot = some value := by
  cases slot with
  | none => simp [required]
  | some held => simp [required]

end Inspector.Wire
