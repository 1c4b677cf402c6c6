import Inspector.Proofs.Wire.Lengths
import Inspector.Proofs.Wire.Record
import Inspector.Wire.Value

/-!
# Values and how deep they nest

A value that was written is read back exactly when it nests less deep than the reader goes, and is
refused for its depth otherwise (`decodeWithin_bytes`). Whatever a reader makes of other bytes
nests less deep as well (`yields_decodeWithin`).
-/

namespace Inspector.Wire.Value

open Pack Outcome

mutual

/-- How deep lists nest in a value: not at all in one that is no list or an empty list, and else
one deeper than in the deepest item. -/
def nesting : Value → Nat
  | list _ items => nestingInside items
  | _ => 0

/-- How deep lists nest in a list with the given items. -/
def nestingInside : List Value → Nat
  | [] => 0
  | value :: rest => max (value.nesting + 1) (nestingInside rest)

end

theorem nestingInside_le_iff {items : List Value} {depth : Nat} :
    nestingInside items ≤ depth ↔ ∀ value ∈ items, value.nesting < depth := by
  induction items with
  | nil => simp [nestingInside]
  | cons first rest ih =>
    rw [nestingInside, Nat.max_le, ih]
    simp only [List.mem_cons, forall_eq_or_imp, Nat.succ_le_iff]

theorem toItems_eq_map (items : List Value) : toItems items = items.map toItem := by
  induction items with
  | nil => rfl
  | cons first rest ih => rw [toItems, ih, List.map_cons]

/-! ## What was written -/

/-- The items of a list are read back if none of them nests too deep. -/
theorem readItems_bytes {items : List Value} {depth : Nat} (fits : (Item.list (toItems items)).Fits)
    (each : ∀ value ∈ items, decodeWithin depth value.toItem.bytes =
      if value.nesting < depth then .ok value else .error .recursionLimitExceeded) :
    readList (Item.list (toItems items)).bytes (decodeWithin depth) =
      if nestingInside items ≤ depth then .ok items else .error .recursionLimitExceeded := by
  simp only [nestingInside_le_iff]
  rw [toItems_eq_map] at fits ⊢
  exact readList_limited fits each

/-- A value is read back, or refused for its depth, whatever follows it. -/
theorem decodeWithin_bytes {value : Value} (fits : value.toItem.Fits) (depth : Nat)
    (rest : Bytes) :
    decodeWithin depth (value.toItem.bytes ++ rest) =
      if value.nesting < depth then .ok value else .error .recursionLimitExceeded := by
  induction depth generalizing value rest with
  | zero => rw [decodeWithin_zero, if_neg (Nat.not_lt_zero _)]
  | succ depth ih =>
    cases value with
    | notPresent | null =>
      rw [toItem, Item.unit] at fits
      rw [decodeWithin_succ, toItem, Item.unit, read_field fits, ok_bind]
      simp [ofPayload, read_nil, nesting]
    | int value =>
      rw [toItem] at fits
      rw [decodeWithin_succ, toItem, read_field fits, ok_bind]
      simp [ofPayload, read_int, nesting]
    | float bits =>
      rw [toItem] at fits
      rw [decodeWithin_succ, toItem, read_field fits, ok_bind]
      simp [ofPayload, read_float, nesting]
    | bool value =>
      rw [toItem] at fits
      rw [decodeWithin_succ, toItem, read_field fits, ok_bind]
      simp [ofPayload, read_bool, nesting]
    | text value =>
      rw [toItem] at fits
      rw [decodeWithin_succ, toItem, read_field fits, ok_bind]
      simp [ofPayload, read_text fits.payload, nesting]
    | object className objectId =>
      rw [toItem] at fits
      have name : (Item.text className).Fits := fits.payload.of_entry "class_name" (by simp)
      rw [decodeWithin_succ, toItem, read_field fits, ok_bind]
      simp [ofPayload, readRecord_bytes fits.payload, ObjectSlots.take, read_text name, read_int,
        nesting]
    | list listType items =>
      rw [toItem] at fits
      have name : (Item.text listType).Fits := fits.payload.of_entry "list_type" (by simp)
      have inner : (Item.list (toItems items)).Fits := fits.payload.of_entry "items" (by simp)
      have each : ∀ value ∈ items, decodeWithin depth value.toItem.bytes =
          if value.nesting < depth then .ok value else .error .recursionLimitExceeded := by
        intro value present
        have member : value.toItem.Fits := by
          rw [toItems_eq_map] at inner
          exact inner.of_mem_list (List.mem_map_of_mem present)
        have alone := ih member []
        rwa [List.append_nil] at alone
      rw [decodeWithin_succ, toItem, read_field fits, ok_bind, nesting]
      simp only [ofPayload, readRecord_bytes fits.payload, List.foldlM_cons, List.foldlM_nil,
        ListSlots.take, read_text name, readItems_bytes inner each, ok_bind, pure_eq_ok,
        Nat.lt_succ_iff]
      by_cases within : nestingInside items ≤ depth
      · simp only [if_pos within, ok_bind, required_some]
      · simp only [if_neg within, error_bind]

/-- The depth that a message admits is `maxValueDepth`. -/
theorem decode_bytes {value : Value} (fits : value.toItem.Fits) :
    decode value.toItem.bytes =
      if value.nesting ≤ maxValueDepth then .ok value else .error .recursionLimitExceeded := by
  have read := decodeWithin_bytes fits (maxValueDepth + 1) []
  rw [List.append_nil] at read
  simp only [Nat.lt_succ_iff] at read
  exact read

/-! ## What is read from any bytes -/

/-- The fields that the slots of an object stand for. -/
def ObjectSlots.size (slots : ObjectSlots) : Nat :=
  slotSize "class_name" .text slots.className + slotSize "object_id" .int slots.objectId

theorem gathers_object : Gathers ObjectSlots.take Whatever ObjectSlots.size := by
  intro slots name payload next _ done
  unfold ObjectSlots.take at done
  split at done
  · obtain ⟨_, _, rfl, longer⟩ := fills_slot yields_text "class_name" done
    refine ⟨trivial, ?_⟩
    simp only [ObjectSlots.size]
    omega
  · obtain ⟨_, _, rfl, longer⟩ := fills_slot yields_int "object_id" done
    refine ⟨trivial, ?_⟩
    simp only [ObjectSlots.size]
    omega
  · exact gathers_skip trivial done

/-- The fields that the slots of a list stand for. -/
def ListSlots.size (slots : ListSlots) : Nat :=
  slotSize "list_type" .text slots.listType +
    slotSize "items" (fun items => .list (items.map toItem)) slots.items

/-- The items that were read of a list nest less deep than the given depth. -/
def ListSlots.Within (depth : Nat) (slots : ListSlots) : Prop :=
  ∀ items, slots.items = some items → ∀ value ∈ items, value.nesting < depth

theorem gathers_list {item : Bytes → Except Error Value} {depth : Nat}
    (each : Yields item (·.nesting < depth) toItem) :
    Gathers (ListSlots.take item) (ListSlots.Within depth) ListSlots.size := by
  intro slots name payload next good done
  unfold ListSlots.take at done
  split at done
  · obtain ⟨_, _, rfl, longer⟩ := fills_slot yields_text "list_type" done
    refine ⟨good, ?_⟩
    simp only [ListSlots.size]
    omega
  · obtain ⟨items, within, rfl, longer⟩ := fills_slot (yields_list each) "items" done
    refine ⟨?_, ?_⟩
    · rintro _ ⟨⟩
      exact within
    · simp only [ListSlots.size]
      omega
  · exact gathers_skip good done

/-- Whatever is read from a list's payload nests less deep and is no longer. -/
theorem list_of_readRecord {item : Bytes → Except Error Value} {depth : Nat}
    (each : Yields item (·.nesting < depth) toItem) {payload : Bytes} {slots : ListSlots}
    (done : readRecord payload (ListSlots.take item) {} = .ok slots) {listType : String}
    {items : List Value} (named : slots.listType = some listType)
    (held : slots.items = some items) :
    (∀ value ∈ items, value.nesting < depth) ∧
      (Item.map [("list_type", .text listType), ("items", .list (toItems items))]).bytes.length ≤
        payload.length := by
  obtain ⟨within, shorter⟩ :=
    length_readRecord (gathers_list each) (by intro items same; cases same) rfl done
  refine ⟨within items held, ?_⟩
  simp only [ListSlots.size, named, held, slotSize] at shorter
  simp only [Item.bytes, Item.bytesOfFields, toItems_eq_map, length_block, List.length_append,
    List.length_nil] at shorter ⊢
  omega

theorem yields_ofPayload {item : Bytes → Except Error Value} {depth : Nat}
    (each : Yields item (·.nesting < depth) toItem) {kind : String} {payload : Bytes}
    {value : Value} (done : ofPayload item kind payload = .ok value) :
    value.nesting < depth + 1 ∧ ∃ content, value.toItem = .field kind content ∧
      content.bytes.length ≤ payload.length := by
  unfold ofPayload at done
  split at done
  · obtain ⟨_, read, same⟩ := bind_eq_ok.1 done
    cases same
    exact ⟨Nat.succ_pos _, _, rfl, (yields_nil _ _ read).2⟩
  · obtain ⟨_, read, same⟩ := bind_eq_ok.1 done
    cases same
    exact ⟨Nat.succ_pos _, _, rfl, (yields_nil _ _ read).2⟩
  · obtain ⟨_, read, same⟩ := bind_eq_ok.1 done
    cases same
    exact ⟨Nat.succ_pos _, _, rfl, (yields_int _ _ read).2⟩
  · obtain ⟨_, read, same⟩ := bind_eq_ok.1 done
    cases same
    exact ⟨Nat.succ_pos _, _, rfl, (yields_float _ _ read).2⟩
  · obtain ⟨_, read, same⟩ := bind_eq_ok.1 done
    cases same
    exact ⟨Nat.succ_pos _, _, rfl, (yields_bool _ _ read).2⟩
  · obtain ⟨_, read, same⟩ := bind_eq_ok.1 done
    cases same
    exact ⟨Nat.succ_pos _, _, rfl, (yields_text _ _ read).2⟩
  · obtain ⟨slots, read, built⟩ := bind_eq_ok.1 done
    obtain ⟨className, named, rest⟩ := bind_eq_ok.1 built
    obtain ⟨objectId, known, same⟩ := bind_eq_ok.1 rest
    cases same
    have shorter := (length_readRecord gathers_object trivial rfl read).2
    refine ⟨Nat.succ_pos _, _, rfl, ?_⟩
    simp only [ObjectSlots.size, required_eq_ok.1 named, required_eq_ok.1 known,
      slotSize] at shorter
    simp only [Item.bytes, Item.bytesOfFields, length_block, List.length_append,
      List.length_nil] at shorter ⊢
    omega
  · obtain ⟨slots, read, built⟩ := bind_eq_ok.1 done
    obtain ⟨listType, named, rest⟩ := bind_eq_ok.1 built
    obtain ⟨items, held, same⟩ := bind_eq_ok.1 rest
    cases same
    obtain ⟨within, shorter⟩ :=
      list_of_readRecord each read (required_eq_ok.1 named) (required_eq_ok.1 held)
    refine ⟨?_, _, rfl, shorter⟩
    rw [nesting, Nat.lt_succ_iff, nestingInside_le_iff]
    exact within
  · cases done

/-- Whatever is read within a depth nests less deep than that and is no longer. -/
theorem yields_decodeWithin (depth : Nat) :
    Yields (decodeWithin depth) (·.nesting < depth) toItem := by
  induction depth with
  | zero =>
    intro input value done
    cases done
  | succ depth ih =>
    intro input value done
    rw [decodeWithin_succ] at done
    obtain ⟨⟨kind, payload⟩, entered, inner⟩ := bind_eq_ok.1 done
    obtain ⟨within, content, same, shorter⟩ := yields_ofPayload ih inner
    refine ⟨within, ?_⟩
    rw [same]
    exact length_field_le entered shorter

theorem yields_decode : Yields decode (·.nesting < maxValueDepth + 1) toItem :=
  yields_decodeWithin (maxValueDepth + 1)

end Inspector.Wire.Value
