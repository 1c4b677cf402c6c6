import Inspector.Proofs.Pack.Lengths
import Inspector.Proofs.Pack.Reading

/-!
# Reading packed data as trees

A full read looks at each tag, takes the item with the read of its kind, and goes into lists, maps
and fields until nothing is left of them. It accepts what was written: `readItem_bytes` for one
item with something behind it, `readSequence_bytesOfItems` for whole data.
-/

namespace Inspector.Pack

/-! ## The full read -/

/-- An item of a kind that holds no others. -/
def readScalar {α : Type} (read : Read α) (make : α → Item) (input : Bytes) :
    Option (Item × Bytes) :=
  match read.run input with
  | (.ok value, rest) => some (make value, rest)
  | (.error _, _) => none

theorem length_lt_of_run_body {tag : Tag} {input inner rest : Bytes}
    (entered : (body tag).run input = (.ok inner, rest)) : inner.length < input.length := by
  have total := (length_body entered).2
  rw [length_block] at total
  omega

theorem length_payload_lt {input payload rest : Bytes} {name : String}
    (entered : field.run input = (.ok (name, payload), rest)) :
    payload.length < input.length := by
  have total := (length_field entered).2
  rw [length_fieldBytes] at total
  omega

theorem length_payload_lt_of_nextField {input payload rest : Bytes} {name : String}
    (found : nextField.run input = (.ok (some (name, payload)), rest)) :
    payload.length < input.length := by
  have total := length_nextField found
  rw [length_fieldBytes] at total
  omega

mutual

/-- The next item with everything inside it, and what follows it. The payload of a field has to
be one item and no more. -/
def readItem (input : Bytes) : Option (Item × Bytes) :=
  match peekTag.run input with
  | (.error _, _) => none
  | (.ok tag, _) =>
    match tag with
    | .nil => readScalar nil (fun _ => .nil) input
    | .yes | .no => readScalar bool .bool input
    | .int => readScalar int .int input
    | .float => readScalar float .float input
    | .text => readScalar text .text input
    | .list =>
      match _entered : list.run input with
      | (.ok inner, rest) => (readMembers inner).map fun items => (.list items, rest)
      | (.error _, _) => none
    | .map =>
      match _entered : map.run input with
      | (.ok inner, rest) => (readFields inner).map fun fields => (.map fields, rest)
      | (.error _, _) => none
    | .field =>
      match _entered : field.run input with
      | (.ok (name, payload), rest) =>
        match readItem payload with
        | some (item, []) => some (.field name item, rest)
        | _ => none
      | (.error _, _) => none
termination_by (input.length, 0)
decreasing_by
  · exact Prod.Lex.left _ _ (length_lt_of_run_body _entered)
  · exact Prod.Lex.left _ _ (length_lt_of_run_body _entered)
  · exact Prod.Lex.left _ _ (length_payload_lt _entered)

/-- The members of a list's body, each of them one item and no more. -/
def readMembers (input : Bytes) : Option (List Item) :=
  match _found : nextItem.run input with
  | (.error _, _) => none
  | (.ok none, _) => some []
  | (.ok (some bytes), rest) =>
    match readItem bytes, readMembers rest with
    | some (item, []), some others => some (item :: others)
    | _, _ => none
termination_by (input.length, 1)
decreasing_by
  · have total := length_nextItem _found
    rcases Nat.eq_or_lt_of_le (by omega : bytes.length ≤ input.length) with same | shorter
    · rw [same]
      exact Prod.Lex.right _ Nat.zero_lt_one
    · exact Prod.Lex.left _ _ shorter
  · exact Prod.Lex.left _ _ (length_lt_of_nextItem _found)

/-- The fields of a map's body, each of them with one payload and no more. -/
def readFields (input : Bytes) : Option (List (String × Item)) :=
  match _found : nextField.run input with
  | (.error _, _) => none
  | (.ok none, _) => some []
  | (.ok (some (name, payload)), rest) =>
    match readItem payload, readFields rest with
    | some (item, []), some others => some ((name, item) :: others)
    | _, _ => none
termination_by (input.length, 1)
decreasing_by
  · exact Prod.Lex.left _ _ (length_payload_lt_of_nextField _found)
  · exact Prod.Lex.left _ _ (length_lt_of_nextField _found)

end

theorem length_lt_of_readScalar {α : Type} {read : Read α} {make : α → Item} {input rest : Bytes}
    {item : Item}
    (taken : ∀ value, read.run input = (.ok value, rest) →
      (make value).bytes.length + rest.length = input.length)
    (done : readScalar read make input = some (item, rest)) : rest.length < input.length := by
  rw [readScalar] at done
  split at done
  · rename_i value left read
    cases done
    have total := taken value read
    obtain ⟨tail, same⟩ := (make value).bytes_eq_cons
    rw [same, List.length_cons] at total
    omega
  · cases done

/-- What follows an item is shorter than the input. -/
theorem length_lt_of_readItem {input rest : Bytes} {item : Item}
    (done : readItem input = some (item, rest)) : rest.length < input.length := by
  rw [readItem] at done
  split at done
  · cases done
  · split at done
    · exact length_lt_of_readScalar (fun _ => length_nil) done
    · exact length_lt_of_readScalar (fun _ => length_bool) done
    · exact length_lt_of_readScalar (fun _ => length_bool) done
    · exact length_lt_of_readScalar (fun _ => length_int) done
    · exact length_lt_of_readScalar (fun _ => length_float) done
    · exact length_lt_of_readScalar (fun _ => length_text) done
    · split at done
      · rename_i entered
        obtain ⟨members, -, same⟩ := Option.map_eq_some_iff.1 done
        cases same
        have total := (length_body entered).2
        rw [length_block] at total
        omega
      · cases done
    · split at done
      · rename_i entered
        obtain ⟨fields, -, same⟩ := Option.map_eq_some_iff.1 done
        cases same
        have total := (length_body entered).2
        rw [length_block] at total
        omega
      · cases done
    · split at done
      · rename_i entered
        split at done
        · cases done
          exact length_lt_of_field entered
        · cases done
      · cases done

/-- The items of whole data, to the last byte. -/
def readSequence (input : Bytes) : Option (List Item) :=
  if input.isEmpty then some []
  else
    match _done : readItem input with
    | none => none
    | some (item, rest) => (readSequence rest).map (item :: ·)
termination_by input.length
decreasing_by exact length_lt_of_readItem _done

/-! ## Reading what was written -/

theorem readScalar_of_run {α : Type} {read : Read α} {make : α → Item} {value : α}
    {input rest : Bytes} (done : read.run input = (.ok value, rest)) :
    readScalar read make input = some (make value, rest) := by
  rw [readScalar, done]

theorem run_peekTag_bytes (item : Item) (rest : Bytes) :
    peekTag.run (item.bytes ++ rest) = (.ok item.tag, item.bytes ++ rest) := by
  obtain ⟨tail, same⟩ := item.bytes_eq_cons
  rw [same, List.cons_append]
  exact run_peekTag item.tag _

mutual

/-- An item is read off the front of its input, and what follows it is left. -/
theorem readItem_bytes {item : Item} (fits : item.Fits) (rest : Bytes) :
    readItem (item.bytes ++ rest) = some (item, rest) := by
  have peeked := run_peekTag_bytes item rest
  rw [readItem, peeked]
  cases item with
  | nil => exact readScalar_of_run (run_nil rest)
  | bool value =>
    have read : readScalar bool .bool _ = some (.bool value, rest) :=
      readScalar_of_run (run_bool value rest)
    cases value <;> exact read
  | int value => exact readScalar_of_run (run_int value rest)
  | float bits => exact readScalar_of_run (run_float bits rest)
  | text value => exact readScalar_of_run (run_text fits rest)
  | list items =>
    have entered := run_list fits rest
    have members := readMembers_bytesOfItems fun item present => fits.of_mem_list present
    simp only [Item.tag]
    split
    · rename_i read
      rw [entered] at read
      cases read
      rw [members]
      rfl
    · rename_i read
      rw [entered] at read
      cases read
  | map fields =>
    have entered := run_map fits rest
    have members := readFields_bytesOfFields fun entry present => fits.of_mem_map present
    simp only [Item.tag]
    split
    · rename_i read
      rw [entered] at read
      cases read
      rw [members]
      rfl
    · rename_i read
      rw [entered] at read
      cases read
  | field name payload =>
    have entered := run_field fits rest
    have inner := readItem_bytes fits.payload []
    rw [List.append_nil] at inner
    simp only [Item.tag]
    split
    · rename_i read
      rw [entered] at read
      cases read
      rw [inner]
    · rename_i read
      rw [entered] at read
      cases read

theorem readMembers_bytesOfItems {items : List Item} (fit : ∀ item ∈ items, item.Fits) :
    readMembers (Item.bytesOfItems items) = some items := by
  rw [readMembers]
  cases items with
  | nil =>
    rw [Item.bytesOfItems]
    split
    · rename_i read
      cases read
    · rfl
    · rename_i read
      cases read
  | cons first others =>
    have found := run_nextItem (fit first (.head _)) (Item.bytesOfItems others)
    have whole := readItem_bytes (fit first (.head _)) []
    have later := readMembers_bytesOfItems fun item present => fit item (.tail _ present)
    rw [List.append_nil] at whole
    rw [Item.bytesOfItems]
    split
    · rename_i read
      rw [found] at read
      cases read
    · rename_i read
      rw [found] at read
      cases read
    · rename_i read
      rw [found] at read
      cases read
      rw [whole, later]

theorem readFields_bytesOfFields {fields : List (String × Item)}
    (fit : ∀ entry ∈ fields, (Item.field entry.1 entry.2).Fits) :
    readFields (Item.bytesOfFields fields) = some fields := by
  rw [readFields]
  match fields with
  | [] =>
    rw [Item.bytesOfFields]
    split
    · rename_i read
      cases read
    · rfl
    · rename_i read
      cases read
  | (name, payload) :: others =>
    have fits : (Item.field name payload).Fits := fit (name, payload) (.head _)
    have found := run_nextField fits (Item.bytesOfFields others)
    have whole := readItem_bytes fits.payload []
    have later := readFields_bytesOfFields fun entry present => fit entry (.tail _ present)
    rw [List.append_nil] at whole
    rw [Item.bytesOfFields]
    split
    · rename_i read
      rw [found] at read
      cases read
    · rename_i read
      rw [found] at read
      cases read
    · rename_i read
      rw [found] at read
      cases read
      rw [whole, later]

end

/-- Items written one after the other are read back, with nothing left. -/
theorem readSequence_bytesOfItems {items : List Item} (fit : ∀ item ∈ items, item.Fits) :
    readSequence (Item.bytesOfItems items) = some items := by
  induction items with
  | nil =>
    rw [Item.bytesOfItems, readSequence]
    rfl
  | cons first rest ih =>
    have read := readItem_bytes (fit first (.head _)) (Item.bytesOfItems rest)
    have later := ih fun item present => fit item (.tail _ present)
    have more : (first.bytes ++ Item.bytesOfItems rest).isEmpty = false := by
      obtain ⟨tail, same⟩ := first.bytes_eq_cons
      rw [same]
      rfl
    rw [Item.bytesOfItems, readSequence, more, if_neg Bool.false_ne_true]
    split
    · rename_i missed
      rw [read] at missed
      cases missed
    · rename_i done
      rw [read] at done
      cases done
      rw [later]
      rfl

end Inspector.Pack
