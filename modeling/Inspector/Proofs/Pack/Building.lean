import Inspector.Pack.Writer

/-!
# What a writer makes of an item

Writing an item call by call gives its packed form, or fails because a length does not fit:
`Item.encode_eq_ok_iff` and `Item.encode_eq_error`. A tree can break no rule of the scopes, so
none of the errors for that is ever seen.
-/

namespace Inspector.Pack

/-! ## Lengths inside an item -/

namespace Item

theorem length_bytes_le_of_mem {items : List Item} {item : Item} (present : item ∈ items) :
    item.bytes.length ≤ (bytesOfItems items).length := by
  induction items with
  | nil => cases present
  | cons first rest ih =>
    simp only [bytesOfItems, List.length_append]
    cases present with
    | head => omega
    | tail _ later =>
      have shorter := ih later
      omega

theorem length_fieldBytes_le_of_mem {fields : List (String × Item)} {entry : String × Item}
    (present : entry ∈ fields) :
    (fieldBytes entry.1 entry.2.bytes).length ≤ (bytesOfFields fields).length := by
  induction fields with
  | nil => cases present
  | cons first rest ih =>
    rw [bytesOfFields, List.length_append]
    cases present with
    | head => exact Nat.le_add_right _ _
    | tail _ later =>
      have shorter := ih later
      omega

theorem fits_text_iff {value : String} :
    (text value).Fits ↔ (Text.encode value).length ≤ maxLength := by
  rw [Fits, bytes, length_block]
  omega

theorem fits_list_iff {items : List Item} :
    (list items).Fits ↔ (bytesOfItems items).length ≤ maxLength := by
  rw [Fits, bytes, length_block]
  omega

theorem fits_map_iff {fields : List (String × Item)} :
    (map fields).Fits ↔ (bytesOfFields fields).length ≤ maxLength := by
  rw [Fits, bytes, length_block]
  omega

theorem fits_field_iff {name : String} {payload : Item} :
    (field name payload).Fits ↔
      (block .text (Text.encode name) ++ payload.bytes).length ≤ maxLength := by
  rw [Fits, bytes, fieldBytes, length_block]
  omega

theorem Fits.of_mem_list {items : List Item} {item : Item} (fits : (list items).Fits)
    (present : item ∈ items) : item.Fits := by
  have shorter := length_bytes_le_of_mem present
  have whole := fits_list_iff.1 fits
  rw [Fits]
  omega

theorem Fits.of_mem_map {fields : List (String × Item)} {entry : String × Item}
    (fits : (map fields).Fits) (present : entry ∈ fields) : (field entry.1 entry.2).Fits := by
  have shorter := length_fieldBytes_le_of_mem present
  have whole := fits_map_iff.1 fits
  rw [Fits, bytes]
  omega

theorem Fits.name {name : String} {payload : Item} (fits : (field name payload).Fits) :
    (text name).Fits := by
  have whole := fits_field_iff.1 fits
  rw [List.length_append, length_block] at whole
  rw [fits_text_iff]
  omega

theorem Fits.payload {name : String} {payload : Item} (fits : (field name payload).Fits) :
    payload.Fits := by
  have whole := fits_field_iff.1 fits
  rw [List.length_append] at whole
  rw [Fits]
  omega

/-- The payload of a map's field fits if the map does. -/
theorem Fits.of_entry {fields : List (String × Item)} (fits : (map fields).Fits) (name : String)
    {payload : Item} (present : (name, payload) ∈ fields) : payload.Fits :=
  (fits.of_mem_map present).payload

/-- The tag that an item starts with. -/
def tag : Item → Tag
  | nil => .nil
  | bool value => if value then .yes else .no
  | int _ => .int
  | float _ => .float
  | text _ => .text
  | list _ => .list
  | map _ => .map
  | field _ _ => .field

end Item

/-! ## Single calls -/

/-- The call failed on a length, and the length does not fit. -/
def Written.TooLarge (written : Written) : Prop :=
  ∃ length w, written = (.error (.blobTooLarge length), w) ∧ maxLength < length

/-- The call leads to a writer if lengths fit, and else fails on one that does not. -/
abbrev Written.Gives (written : Written) (after : Writer) (fits : Prop) : Prop :=
  (written = (.ok (), after) ∧ fits) ∨ (written.TooLarge ∧ ¬ fits)

namespace Writer

theorem tooLarge_andThen {first : Written} (next : Writer → Written) (failed : first.TooLarge) :
    (andThen first next).TooLarge := by
  obtain ⟨length, w, rfl, large⟩ := failed
  exact ⟨length, w, rfl, large⟩

@[simp] theorem andThen_ok (w : Writer) (next : Writer → Written) :
    andThen (.ok (), w) next = next w := rfl

/-- The writer after so many more items with the given bytes. -/
def extend (w : Writer) (bytes : Bytes) (count : Nat) : Writer :=
  { w with top := { w.top with body := w.top.body ++ bytes, count := w.top.count + count } }

theorem extend_extend (w : Writer) (first second : Bytes) (n m : Nat) :
    (w.extend first n).extend second m = w.extend (first ++ second) (n + m) := by
  simp only [extend, List.append_assoc, Nat.add_assoc]

theorem extend_nil (w : Writer) : w.extend [] 0 = w := by
  simp only [extend, List.append_nil, Nat.add_zero]

theorem scalar_of_check {w : Writer} {tag : Tag} (allowed : w.check tag = .ok ()) (item : Bytes) :
    w.scalar tag item = (.ok (), w.extend item 1) := by
  rw [scalar, allowed]
  rfl

theorem text_outcome {w : Writer} (allowed : w.check .text = .ok ()) (value : String) :
    (w.text value).Gives (w.extend (Item.text value).bytes 1) (Item.text value).Fits := by
  rw [Item.fits_text_iff]
  by_cases fits : (Text.encode value).length ≤ maxLength
  · refine .inl ⟨?_, fits⟩
    rw [text, textBytes, framed, if_pos fits]
    exact scalar_of_check allowed _
  · refine .inr ⟨?_, fits⟩
    rw [text, textBytes, framed, if_neg fits]
    exact ⟨_, w, rfl, Nat.not_le.1 fits⟩

/-- The writer inside a scope that was just opened. -/
def inside (w : Writer) (scope : Scope) : Writer :=
  { top := { scope := scope }, outer := w.top :: w.outer }

theorem openScope_of_check {w : Writer} {tag : Tag} (allowed : w.check tag = .ok ())
    (scope : Scope) : w.openScope tag scope = (.ok (), w.inside scope) := by
  rw [openScope, allowed]
  rfl

/-- A scope that is given up: its bytes stay behind a length of zero, and it is no item. -/
def abandon (w : Writer) (tag : Tag) (body : Bytes) : Writer :=
  w.extend (tag.byte :: Bytes.ofNatLE 4 0 ++ body) 0

/-- Where a scope may be closed, only the length of its body counts. -/
theorem closeScope_of_ready {w : Writer} {parent : Level} {outer : List Level} {scope : Scope}
    (around : w.outer = parent :: outer) (same : w.top.scope = scope)
    (ready : ¬ (w.top.scope = .field ∧ w.top.count = 0)) (tag : Tag) :
    w.closeScope tag scope =
      if w.top.body.length ≤ maxLength then
        (.ok (), ({ top := parent, outer } : Writer).extend (block tag w.top.body) 1)
      else
        (.error (.blobTooLarge w.top.body.length),
          ({ top := parent, outer } : Writer).abandon tag w.top.body) := by
  rw [closeScope, around]
  refine ((if_neg (not_not_intro same)).trans (if_neg ready)).trans ?_
  by_cases fits : w.top.body.length ≤ maxLength
  · have item : framed tag w.top.body = .ok (block tag w.top.body) := if_pos fits
    rw [item, if_pos fits]
    rfl
  · have refused : framed tag w.top.body = .error (.blobTooLarge w.top.body.length) := if_neg fits
    rw [refused, if_neg fits]
    rfl

/-- Closing a scope that was opened and holds the given bytes, if it is not an empty field. -/
theorem closeScope_inside (w : Writer) (tag : Tag) (scope : Scope) (body : Bytes) (count : Nat)
    (filled : scope = .field → count ≠ 0) :
    ((w.inside scope).extend body count).closeScope tag scope =
      if body.length ≤ maxLength then (.ok (), w.extend (block tag body) 1)
      else (.error (.blobTooLarge body.length), w.abandon tag body) := by
  have held : ¬ (scope = .field ∧ 0 + count = 0) := by
    rw [Nat.zero_add]
    exact fun empty => filled empty.1 empty.2
  exact closeScope_of_ready (w := (w.inside scope).extend body count) rfl rfl held tag

theorem closeScope_outcome (w : Writer) (tag : Tag) (scope : Scope) (body : Bytes) (count : Nat)
    (filled : scope = .field → count ≠ 0) :
    (((w.inside scope).extend body count).closeScope tag scope).Gives
      (w.extend (block tag body) 1) (body.length ≤ maxLength) := by
  rw [closeScope_inside w tag scope body count filled]
  by_cases fits : body.length ≤ maxLength
  · rw [if_pos fits]
    exact .inl ⟨rfl, fits⟩
  · rw [if_neg fits]
    exact .inr ⟨⟨_, _, rfl, Nat.not_le.1 fits⟩, fits⟩

theorem fieldBegin_outcome {w : Writer} (allowed : w.check .field = .ok ()) (name : String) :
    (w.fieldBegin name).Gives ((w.inside .field).extend (Item.text name).bytes 0)
      (Item.text name).Fits := by
  have opened := openScope_of_check allowed .field
  have named := text_outcome (w := w.inside .field) rfl name
  rw [fieldBegin, opened, andThen_ok]
  rcases named with ⟨written, fits⟩ | ⟨failed, large⟩
  · rw [written]
    exact .inl ⟨rfl, fits⟩
  · exact .inr ⟨tooLarge_andThen _ failed, large⟩

/-! ## Whole items -/

/-- Writing a field, given what writing its payload does. -/
theorem field_outcome {w : Writer} (allowed : w.check .field = .ok ()) (name : String)
    (payload : Item)
    (inner : ∀ inside : Writer, inside.check payload.tag = .ok () →
      (inside.item payload).Gives (inside.extend payload.bytes 1) payload.Fits) :
    (w.field name (·.item payload)).Gives (w.extend (Item.field name payload).bytes 1)
      (Item.field name payload).Fits := by
  rw [field]
  rcases fieldBegin_outcome allowed name with ⟨named, _⟩ | ⟨failed, large⟩
  · rw [named, andThen_ok]
    rcases inner ((w.inside .field).extend (Item.text name).bytes 0) rfl with
      ⟨written, _⟩ | ⟨failed, large⟩
    · rw [written, andThen_ok, extend_extend, Item.fits_field_iff]
      exact closeScope_outcome w .field .field _ (0 + 1) (by simp)
    · exact .inr ⟨tooLarge_andThen _ failed, fun fits => large fits.payload⟩
  · exact .inr ⟨tooLarge_andThen _ (tooLarge_andThen _ failed), fun fits => large fits.name⟩

mutual

/-- An item that is allowed where the writer stands is written, or one of its lengths does not
fit. -/
theorem item_outcome (w : Writer) (item : Item) (allowed : w.check item.tag = .ok ()) :
    (w.item item).Gives (w.extend item.bytes 1) item.Fits := by
  cases item with
  | nil => exact .inl ⟨scalar_of_check allowed _, by decide⟩
  | bool value =>
    refine .inl ⟨scalar_of_check allowed _, ?_⟩
    cases value <;> decide
  | int value =>
    refine .inl ⟨scalar_of_check allowed _, ?_⟩
    simp [Item.Fits, Item.bytes, intBytes, maxLength]
  | float bits =>
    refine .inl ⟨scalar_of_check allowed _, ?_⟩
    simp [Item.Fits, Item.bytes, floatBytes, maxLength]
  | text value => exact text_outcome allowed value
  | list items =>
    have opened : w.openScope .list .list = (.ok (), w.inside .list) :=
      openScope_of_check allowed .list
    rw [item, listBegin, opened, andThen_ok]
    rcases items_outcome (w.inside .list) items rfl with ⟨written, _⟩ | ⟨failed, large⟩
    · rw [written, andThen_ok, Item.fits_list_iff]
      exact closeScope_outcome w .list .list _ _ (by simp)
    · exact .inr ⟨tooLarge_andThen _ failed, fun fits => large fun _ => fits.of_mem_list⟩
  | map fields =>
    have opened : w.openScope .map .map = (.ok (), w.inside .map) :=
      openScope_of_check allowed .map
    rw [item, mapBegin, opened, andThen_ok]
    rcases fields_outcome (w.inside .map) fields rfl with ⟨written, _⟩ | ⟨failed, large⟩
    · rw [written, andThen_ok, Item.fits_map_iff]
      exact closeScope_outcome w .map .map _ _ (by simp)
    · exact .inr ⟨tooLarge_andThen _ failed, fun fits => large fun _ => fits.of_mem_map⟩
  | field name payload =>
    rw [item]
    exact field_outcome allowed name payload fun inside => item_outcome inside payload

/-- Items are written into a list one after the other. -/
theorem items_outcome (w : Writer) (items : List Item) (inList : w.top.scope = .list) :
    (w.items items).Gives (w.extend (Item.bytesOfItems items) items.length)
      (∀ item ∈ items, item.Fits) := by
  cases items with
  | nil =>
    refine .inl ⟨?_, by simp⟩
    rw [Writer.items, Item.bytesOfItems, List.length_nil, extend_nil]
  | cons first rest =>
    rw [Writer.items]
    have allowed : w.check first.tag = .ok () := by rw [check, inList]
    rcases item_outcome w first allowed with ⟨written, fits⟩ | ⟨failed, large⟩
    · rw [written, andThen_ok]
      rcases items_outcome (w.extend first.bytes 1) rest inList with ⟨others, fit⟩ | ⟨failed, large⟩
      · refine .inl ⟨?_, by simpa using ⟨fits, fit⟩⟩
        rw [others, extend_extend, Item.bytesOfItems, List.length_cons, Nat.add_comm 1]
      · exact .inr ⟨failed, fun all => large fun item later => all item (.tail _ later)⟩
    · exact .inr ⟨tooLarge_andThen _ failed, fun all => large (all first (.head _))⟩

/-- Fields are written into a map one after the other. -/
theorem fields_outcome (w : Writer) (fields : List (String × Item)) (inMap : w.top.scope = .map) :
    (w.fields fields).Gives (w.extend (Item.bytesOfFields fields) fields.length)
      (∀ entry ∈ fields, (Item.field entry.1 entry.2).Fits) := by
  match fields with
  | [] =>
    refine .inl ⟨?_, by simp⟩
    rw [Writer.fields, Item.bytesOfFields, List.length_nil, extend_nil]
  | (name, payload) :: rest =>
    rw [Writer.fields]
    have allowed : w.check .field = .ok () := by rw [check, inMap]; rfl
    have written := field_outcome allowed name payload fun inside => item_outcome inside payload
    rcases written with ⟨written, fits⟩ | ⟨failed, large⟩
    · rw [written, andThen_ok]
      rcases fields_outcome (w.extend (Item.field name payload).bytes 1) rest inMap with
        ⟨others, fit⟩ | ⟨failed, large⟩
      · refine .inl ⟨?_, by simpa using ⟨fits, by simpa using fit⟩⟩
        rw [others, extend_extend, Item.bytesOfFields, Item.bytes, List.length_cons,
          Nat.add_comm 1]
      · exact .inr ⟨failed, fun all => large fun entry later => all entry (.tail _ later)⟩
    · exact .inr ⟨tooLarge_andThen _ failed, fun all => large (all (name, payload) (.head _))⟩

end

end Writer

/-! ## The packed form -/

namespace Item

/-- An item is encoded exactly when its lengths fit, and then as its packed form. -/
theorem encode_eq_ok_iff {item : Item} {bytes : Bytes} :
    item.encode = .ok bytes ↔ item.Fits ∧ bytes = item.bytes := by
  rw [encode]
  rcases Writer.item_outcome .empty item rfl with ⟨written, fits⟩ | ⟨⟨length, w, failed, -⟩, large⟩
  · rw [written]
    simp [Writer.bytes, Writer.extend, Writer.empty, fits, eq_comm]
  · rw [failed]
    simp [large]

/-- The only way in which encoding an item fails. -/
theorem encode_eq_error {item : Item} {e : Error} (failed : item.encode = .error e) :
    ∃ length, e = .blobTooLarge length ∧ maxLength < length := by
  rw [encode] at failed
  rcases Writer.item_outcome .empty item rfl with ⟨written, _⟩ | ⟨⟨length, w, refused, large⟩, _⟩
  · rw [written] at failed
    simp [Writer.bytes, Writer.extend, Writer.empty] at failed
  · rw [refused] at failed
    cases failed
    exact ⟨length, rfl, large⟩

end Item

end Inspector.Pack
