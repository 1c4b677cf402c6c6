import Inspector.Pack.Reader
import Inspector.Proofs.Pack.Building

/-!
# Reading packed items back

Each read takes the packed form of its own kind of item off the front of the input and leaves
exactly what follows. The bodies of lists and maps fall into the packed forms of their members:
`itemsOf_bytesOfItems`, `fieldsOf_bytesOfFields`.
-/

namespace Inspector.Pack

/-! ## Tags and lengths -/

theorem run_peekTag (tag : Tag) (rest : Bytes) :
    peekTag.run (tag.byte :: rest) = (.ok tag, tag.byte :: rest) := by
  simp only [peekTag, Tag.ofByte?_byte]

theorem run_take_one (b : UInt8) (rest : Bytes) : (take 1).run (b :: rest) = (.ok [b], rest) := by
  simp [take]

theorem run_take {bytes : Bytes} {n : Nat} (exact : bytes.length = n) (rest : Bytes) :
    (take n).run (bytes ++ rest) = (.ok bytes, rest) := by
  subst exact
  simp [take]

theorem run_expectTag (tag : Tag) (rest : Bytes) :
    (expectTag tag).run (tag.byte :: rest) = (.ok (), rest) := by
  simp [expectTag, run_peekTag, run_take_one]

theorem run_takeLength {length : Nat} (fits : length ≤ maxLength) (rest : Bytes) :
    takeLength.run (Bytes.ofNatLE 4 length ++ rest) = (.ok length, rest) := by
  have small : length < Bytes.capacity 4 := by
    rw [maxLength] at fits
    simp only [Bytes.capacity]
    omega
  rw [takeLength, Read.run_bind, run_take (Bytes.length_ofNatLE 4 length)]
  simp only [Read.run_pure, Bytes.toNatLE_ofNatLE 4 length small]

theorem run_takeWord (word : UInt64) (rest : Bytes) :
    takeWord.run (Bytes.ofNatLE 8 word.toNat ++ rest) = (.ok word, rest) := by
  have small : word.toNat < Bytes.capacity 8 := by
    have bound := word.toNat_lt
    simp only [Bytes.capacity]
    omega
  rw [takeWord, Read.run_bind, run_take (Bytes.length_ofNatLE 8 word.toNat)]
  simp only [Read.run_pure, Bytes.toNatLE_ofNatLE 8 _ small, UInt64.ofNat_toNat]

theorem run_body {body : Bytes} (fits : body.length ≤ maxLength) (tag : Tag) (rest : Bytes) :
    (Pack.body tag).run (block tag body ++ rest) = (.ok body, rest) := by
  rw [Pack.body, block, List.cons_append, List.cons_append, List.append_assoc, Read.run_bind,
    run_expectTag]
  simp only [Read.run_bind]
  rw [run_takeLength fits]
  exact run_take rfl rest

/-! ## Items of each kind -/

theorem run_nil (rest : Bytes) : nil.run (Item.nil.bytes ++ rest) = (.ok (), rest) :=
  run_expectTag .nil rest

theorem run_bool (value : Bool) (rest : Bytes) :
    bool.run ((Item.bool value).bytes ++ rest) = (.ok value, rest) := by
  cases value with
  | false =>
    have peeked := run_peekTag .no rest
    simp [bool, Item.bytes, boolBytes, peeked, run_take_one]
  | true =>
    have peeked := run_peekTag .yes rest
    simp [bool, Item.bytes, boolBytes, peeked, run_take_one]

theorem run_int (value : Int64) (rest : Bytes) :
    int.run ((Item.int value).bytes ++ rest) = (.ok value, rest) := by
  rw [int, Item.bytes, intBytes, List.cons_append, Read.run_bind, run_expectTag]
  simp only [Read.run_bind]
  rw [run_takeWord]
  simp

theorem run_float (bits : UInt64) (rest : Bytes) :
    float.run ((Item.float bits).bytes ++ rest) = (.ok bits, rest) := by
  rw [float, Item.bytes, floatBytes, List.cons_append, Read.run_bind, run_expectTag]
  exact run_takeWord bits rest

theorem run_text {value : String} (fits : (Item.text value).Fits) (rest : Bytes) :
    text.run ((Item.text value).bytes ++ rest) = (.ok value, rest) := by
  rw [text, Item.bytes, Read.run_bind, run_body (Item.fits_text_iff.1 fits)]
  simp only [Text.decode?_encode, Read.run_pure]

theorem run_list {items : List Item} (fits : (Item.list items).Fits) (rest : Bytes) :
    list.run ((Item.list items).bytes ++ rest) = (.ok (Item.bytesOfItems items), rest) := by
  rw [list, Item.bytes, run_body (Item.fits_list_iff.1 fits)]

theorem run_map {fields : List (String × Item)} (fits : (Item.map fields).Fits) (rest : Bytes) :
    map.run ((Item.map fields).bytes ++ rest) = (.ok (Item.bytesOfFields fields), rest) := by
  rw [map, Item.bytes, run_body (Item.fits_map_iff.1 fits)]

theorem run_field {name : String} {payload : Item} (fits : (Item.field name payload).Fits)
    (rest : Bytes) :
    field.run ((Item.field name payload).bytes ++ rest) = (.ok (name, payload.bytes), rest) := by
  have named := run_text fits.name payload.bytes
  rw [Item.bytes] at named
  rw [field, Item.bytes, fieldBytes, Read.run_bind, run_body (Item.fits_field_iff.1 fits)]
  simp only [named, Read.run_pure]

/-! ## Passing over items -/

/-- The bytes of one item, as far as its end goes: a tag alone, a tag and a word, or a block. -/
inductive Layout : Bytes → Prop
  | bare {tag : Tag} : tag = .nil ∨ tag = .yes ∨ tag = .no → Layout [tag.byte]
  | word {tag : Tag} {word : Bytes} : tag = .int ∨ tag = .float → word.length = 8 →
      Layout (tag.byte :: word)
  | block {tag : Tag} {body : Bytes} : tag = .text ∨ tag = .list ∨ tag = .map ∨ tag = .field →
      body.length ≤ maxLength → Layout (block tag body)

theorem run_skip_bare {tag : Tag} (kind : tag = .nil ∨ tag = .yes ∨ tag = .no) (tail : Bytes) :
    skip.run (tag.byte :: tail) = (.ok (), tail) := by
  rcases kind with rfl | rfl | rfl <;> simp [skip, run_peekTag, run_take_one]

theorem run_skip_word {tag : Tag} (kind : tag = .int ∨ tag = .float) (tail : Bytes) :
    skip.run (tag.byte :: tail) = (take 8 >>= fun _ => pure ()).run tail := by
  rcases kind with rfl | rfl <;> simp [skip, run_peekTag, run_take_one]

/-- A block of whatever tag is passed over by its length alone. -/
theorem run_skip_block {tag : Tag}
    (kind : tag = .text ∨ tag = .list ∨ tag = .map ∨ tag = .field) (tail : Bytes) :
    skip.run (tag.byte :: tail) =
      (takeLength >>= fun length => take length >>= fun _ => pure ()).run tail := by
  rcases kind with rfl | rfl | rfl | rfl <;> simp [skip, run_peekTag, run_take_one]

theorem Layout.run_skip {whole : Bytes} (layout : Layout whole) (rest : Bytes) :
    skip.run (whole ++ rest) = (.ok (), rest) := by
  cases layout with
  | bare kind => exact run_skip_bare kind rest
  | word kind width =>
    rw [List.cons_append, run_skip_word kind, Read.run_bind, run_take width]
    rfl
  | @block tag body kind small =>
    rw [Pack.block, List.cons_append, List.cons_append, List.append_assoc, run_skip_block kind,
      Read.run_bind, run_takeLength small]
    simp only [Read.run_bind, Read.run_pure, run_take rfl rest]

theorem layout_boolBytes (value : Bool) : Layout (boolBytes value) := by
  cases value with
  | false => exact @Layout.bare .no (.inr (.inr rfl))
  | true => exact @Layout.bare .yes (.inr (.inl rfl))

theorem Item.layout {item : Item} (fits : item.Fits) : Layout item.bytes := by
  cases item with
  | nil => exact .bare (.inl rfl)
  | bool value => exact layout_boolBytes value
  | int value => exact .word (.inl rfl) (Bytes.length_ofNatLE 8 _)
  | float bits => exact .word (.inr rfl) (Bytes.length_ofNatLE 8 _)
  | text value => exact .block (by simp) (fits_text_iff.1 fits)
  | list items => exact .block (by simp) (fits_list_iff.1 fits)
  | map fields => exact .block (by simp) (fits_map_iff.1 fits)
  | field name payload => exact .block (by simp) (fits_field_iff.1 fits)

/-- Any item is skipped as a whole. -/
theorem run_skip {item : Item} (fits : item.Fits) (rest : Bytes) :
    skip.run (item.bytes ++ rest) = (.ok (), rest) :=
  (Item.layout fits).run_skip rest

/-! ## Whole bodies -/

theorem Item.bytes_eq_cons (item : Item) : ∃ rest, item.bytes = item.tag.byte :: rest := by
  cases item with
  | nil => exact ⟨_, rfl⟩
  | bool value => cases value <;> exact ⟨_, rfl⟩
  | int value => exact ⟨_, rfl⟩
  | float bits => exact ⟨_, rfl⟩
  | text value => exact ⟨_, rfl⟩
  | list items => exact ⟨_, rfl⟩
  | map fields => exact ⟨_, rfl⟩
  | field name payload => exact ⟨_, rfl⟩

theorem run_nextItem {item : Item} (fits : item.Fits) (rest : Bytes) :
    nextItem.run (item.bytes ++ rest) = (.ok (some item.bytes), rest) := by
  have more : (item.bytes ++ rest).isEmpty = false := by
    obtain ⟨tail, same⟩ := item.bytes_eq_cons
    rw [same]
    rfl
  simp only [nextItem, more, Bool.false_eq_true, ↓reduceIte, run_skip fits, List.length_append,
    Nat.add_sub_cancel, List.take_left]

theorem run_nextField {name : String} {payload : Item} (fits : (Item.field name payload).Fits)
    (rest : Bytes) :
    nextField.run (fieldBytes name payload.bytes ++ rest) =
      (.ok (some (name, payload.bytes)), rest) := by
  have read := run_field fits rest
  rw [Item.bytes] at read
  have peeked : peekTag.run (fieldBytes name payload.bytes ++ rest) =
      (.ok .field, fieldBytes name payload.bytes ++ rest) := run_peekTag .field _
  have more : (fieldBytes name payload.bytes ++ rest).isEmpty = false := rfl
  simp only [nextField, more, Bool.false_eq_true, ↓reduceIte, peeked, read]

theorem run_nextItem_nil : nextItem.run [] = (.ok none, []) := rfl

theorem run_nextField_nil : nextField.run [] = (.ok none, []) := rfl

theorem itemsOf_of_nextItem {input item rest : Bytes}
    (found : nextItem.run input = (.ok (some item), rest)) :
    itemsOf input = { itemsOf rest with parts := item :: (itemsOf rest).parts } := by
  rw [itemsOf]
  split
  · next none => rw [found] at none; cases none
  · next failed => rw [found] at failed; cases failed
  · next item left read =>
    rw [found] at read
    cases read
    rfl

/-- The parts of a list's body are its items' packed forms. -/
theorem itemsOf_bytesOfItems {items : List Item} (fit : ∀ item ∈ items, item.Fits) :
    itemsOf (Item.bytesOfItems items) = { parts := items.map Item.bytes, fault := none } := by
  induction items with
  | nil =>
    rw [Item.bytesOfItems, itemsOf]
    simp [run_nextItem_nil]
  | cons first rest ih =>
    have found := run_nextItem (fit first (.head _)) (Item.bytesOfItems rest)
    have others := ih fun item later => fit item (.tail _ later)
    rw [Item.bytesOfItems, itemsOf_of_nextItem found, others]
    rfl

/-- The parts of a map's body are its fields' names and packed payloads. -/
theorem fieldsOf_bytesOfFields {fields : List (String × Item)}
    (fit : ∀ entry ∈ fields, (Item.field entry.1 entry.2).Fits) :
    fieldsOf (Item.bytesOfFields fields) =
      { parts := fields.map fun entry => (entry.1, entry.2.bytes), fault := none } := by
  induction fields with
  | nil =>
    rw [Item.bytesOfFields, fieldsOf]
    simp [run_nextField_nil]
  | cons first rest ih =>
    have found := run_nextField (fit first (.head _)) (Item.bytesOfFields rest)
    have others := ih fun entry later => fit entry (.tail _ later)
    rw [Item.bytesOfFields, fieldsOf]
    split
    · next none => rw [found] at none; cases none
    · next failed => rw [found] at failed; cases failed
    · next entry left read =>
      rw [found] at read
      cases read
      rw [others]
      rfl

end Inspector.Pack
