import Inspector.Proofs.Wire.Response

/-!
# Values among other bytes

A value that was written is read from the front of any input that begins with it, and what stands
behind it is left (`run_reader_bytes`). A list of values is written as its values one after the
other behind one length (`encodeValues_eq_ok_iff`), and it is read in the same way
(`run_listReader_bytes`). Where the nesting goes beyond `maxValueDepth`, both readers refuse it for
that and for nothing else, and leave the same.
-/

namespace Inspector.Wire

open Pack Outcome

/-- What follows a list does not matter to the reading of its items. -/
theorem readList_append {α : Type} {items : List Item} (fits : (Item.list items).Fits)
    (item : Bytes → Except Error α) (rest : Bytes) :
    readList ((Item.list items).bytes ++ rest) item = readList (Item.list items).bytes item := by
  have front (rest : Bytes) :
      read Pack.list ((Item.list items).bytes ++ rest) = .ok (Item.bytesOfItems items) := by
    rw [read, run_list fits rest]
    rfl
  have alone := front []
  rw [List.append_nil] at alone
  rw [readList, readList, front, alone]

namespace Value

variable {value : Value} {values : List Value}

/-! ## One value -/

/-- Every value is a field. -/
theorem exists_field (value : Value) : ∃ kind content, value.toItem = .field kind content := by
  cases value <;> exact ⟨_, _, rfl⟩

/-- A value is read or refused for its depth, and what stands behind it is left. -/
theorem run_reader_bytes (fits : value.toItem.Fits) (rest : Bytes) :
    reader.run (value.toItem.bytes ++ rest) =
      (if value.nesting ≤ maxValueDepth then .ok value else .error .recursionLimitExceeded,
        rest) := by
  have read := decodeWithin_bytes fits (maxValueDepth + 1) rest
  simp only [Nat.lt_succ_iff] at read
  refine Prod.ext read ?_
  obtain ⟨kind, content, same⟩ := exists_field value
  rw [same] at fits ⊢
  rw [snd_run_reader, run_field fits rest]

theorem nesting_le_of_decode {input : Bytes} (done : decode input = .ok value) :
    value.nesting ≤ maxValueDepth :=
  Nat.le_of_lt_succ (yields_decode input value done).1

/-! ## Lists of values -/

theorem bytesOfItems_toItems (values : List Value) :
    Item.bytesOfItems (toItems values) = (values.map fun value => value.toItem.bytes).flatten := by
  induction values with
  | nil => rfl
  | cons value rest ih =>
    rw [toItems, Item.bytesOfItems, ih, List.map_cons, List.flatten_cons]

/-- Values can be written one by one exactly if each of them fits. -/
theorem mapM_encode_eq_ok_iff {parts : List Bytes} :
    values.mapM encode = .ok parts ↔
      (∀ value ∈ values, value.toItem.Fits) ∧
        parts = values.map fun value => value.toItem.bytes := by
  induction values generalizing parts with
  | nil => simp [eq_comm]
  | cons value rest ih =>
    rw [mapM_cons_eq_ok, List.forall_mem_cons, List.map_cons]
    constructor
    · rintro ⟨first, others, written, later, rfl⟩
      obtain ⟨fits, rfl⟩ := pack_eq_ok_iff.1 written
      obtain ⟨each, rfl⟩ := ih.1 later
      exact ⟨⟨fits, each⟩, rfl⟩
    · rintro ⟨⟨fits, each⟩, rfl⟩
      exact ⟨_, _, pack_eq_ok_iff.2 ⟨fits, rfl⟩, ih.2 ⟨each, rfl⟩, rfl⟩

/-- A list of values is written if each of its values can be written and all of them together are
not too long. -/
theorem encodeValues_eq_ok_iff {bytes : Bytes} :
    encodeValues values = .ok bytes ↔
      ∃ parts, values.mapM encode = .ok parts ∧ parts.flatten.length ≤ maxLength ∧
        bytes = block .list parts.flatten := by
  rw [encodeValues, pack_eq_ok_iff, Item.bytes, bytesOfItems_toItems]
  constructor
  · rintro ⟨fits, same⟩
    have each (value : Value) (present : value ∈ values) : value.toItem.Fits := by
      rw [toItems_eq_map] at fits
      exact fits.of_mem_list (List.mem_map_of_mem present)
    have whole := Item.fits_list_iff.1 fits
    rw [bytesOfItems_toItems] at whole
    exact ⟨_, mapM_encode_eq_ok_iff.2 ⟨each, rfl⟩, whole, same⟩
  · rintro ⟨parts, written, whole, same⟩
    obtain ⟨-, rfl⟩ := mapM_encode_eq_ok_iff.1 written
    refine ⟨Item.fits_list_iff.2 ?_, same⟩
    rwa [bytesOfItems_toItems]

/-- So are values in a list, of which the deepest counts. -/
theorem run_listReader_bytes (fits : (Item.list (toItems values)).Fits) (rest : Bytes) :
    listReader.run ((Item.list (toItems values)).bytes ++ rest) =
      (if ∀ value ∈ values, value.nesting ≤ maxValueDepth then .ok values
        else .error .recursionLimitExceeded, rest) := by
  refine Prod.ext ?_ (by rw [snd_run_listReader, run_list fits rest])
  change decodeAll _ = _
  rw [decodeAll_eq, readList_append fits, toItems_eq_map]
  rw [toItems_eq_map] at fits
  refine readList_limited fits fun value present => ?_
  exact decode_bytes (fits.of_mem_list (List.mem_map_of_mem present))

end Value

/-! ## In place -/

open Value

/-- What is written among other bytes is read there.

* A value that was written is read back in front of any bytes, if it nests no deeper than
  `maxValueDepth`. Otherwise it is refused for its depth. Either way the bytes behind it are left.
* So is a list of values, where the deepest of them counts. It can be written if each of its values
  can and all of them together are not too long, and then it is these one after the other.
* Whatever is read from any bytes nests no deeper than `maxValueDepth`. -/
theorem values_read_in_place :
    (∀ (value : Value) (bytes : Bytes), value.encode = .ok bytes → ∀ rest : Bytes,
      (value.nesting ≤ maxValueDepth → reader.run (bytes ++ rest) = (.ok value, rest)) ∧
      (maxValueDepth < value.nesting →
        reader.run (bytes ++ rest) = (.error .recursionLimitExceeded, rest))) ∧
    (∀ (values : List Value) (bytes : Bytes), encodeValues values = .ok bytes → ∀ rest : Bytes,
      ((∀ value ∈ values, value.nesting ≤ maxValueDepth) →
        listReader.run (bytes ++ rest) = (.ok values, rest)) ∧
      ((∃ value ∈ values, maxValueDepth < value.nesting) →
        listReader.run (bytes ++ rest) = (.error .recursionLimitExceeded, rest))) ∧
    (∀ (values : List Value) (bytes : Bytes), encodeValues values = .ok bytes ↔
      ∃ parts, values.mapM encode = .ok parts ∧ parts.flatten.length ≤ maxLength ∧
        bytes = block .list parts.flatten) ∧
    ∀ (input : Bytes) (value : Value), decode input = .ok value →
      value.nesting ≤ maxValueDepth := by
  refine ⟨?_, ?_, fun _ _ => encodeValues_eq_ok_iff, fun _ _ => nesting_le_of_decode⟩
  · intro value bytes encoded rest
    obtain ⟨fits, rfl⟩ := pack_eq_ok_iff.1 encoded
    rw [run_reader_bytes fits]
    refine ⟨fun shallow => ?_, fun deep => ?_⟩
    · rw [if_pos shallow]
    · rw [if_neg (Nat.not_le_of_lt deep)]
  · intro values bytes encoded rest
    obtain ⟨fits, rfl⟩ := pack_eq_ok_iff.1 encoded
    rw [run_listReader_bytes fits]
    refine ⟨fun shallow => ?_, ?_⟩
    · rw [if_pos shallow]
    · rintro ⟨value, present, deep⟩
      rw [if_neg fun shallow => Nat.not_le_of_lt deep (shallow value present)]

theorem nesting_nested (depth : Nat) : (Response.nested depth).nesting = depth := by
  induction depth with
  | zero => rfl
  | succ depth ih =>
    show (Value.list "t" [Response.nested depth]).nesting = depth + 1
    rw [nesting, nestingInside, nestingInside, ih, Nat.max_eq_left (Nat.zero_le _)]

/-- A null in thirty-two lists is read back in front of two bytes, and one list more is refused. In
a list of values the second is what counts. -/
theorem values_read_in_place_at_limit :
    (∃ bytes, (Response.nested 32).encode = .ok bytes ∧
      reader.run (bytes ++ [7, 8]) = (.ok (Response.nested 32), [7, 8])) ∧
    (∃ bytes, (Response.nested 33).encode = .ok bytes ∧
      reader.run (bytes ++ [7, 8]) = (.error .recursionLimitExceeded, [7, 8])) ∧
    ∃ bytes, encodeValues [Response.nested 32, Response.nested 33] = .ok bytes ∧
      listReader.run (bytes ++ [7, 8]) = (.error .recursionLimitExceeded, [7, 8]) := by
  obtain ⟨single, several, written, -⟩ := values_read_in_place
  have fits {depth : Nat} (small : depth ≤ 100) : (Response.nested depth).toItem.Fits := by
    rw [Item.Fits, Response.length_nested, maxLength]
    omega
  obtain ⟨shallow, atLimit⟩ : ∃ bytes, (Response.nested 32).encode = .ok bytes :=
    ⟨_, pack_eq_ok_iff.2 ⟨fits (by decide), rfl⟩⟩
  obtain ⟨deep, beyond⟩ : ∃ bytes, (Response.nested 33).encode = .ok bytes :=
    ⟨_, pack_eq_ok_iff.2 ⟨fits (by decide), rfl⟩⟩
  obtain ⟨bytes, both⟩ :
      ∃ bytes, encodeValues [Response.nested 32, Response.nested 33] = .ok bytes := by
    refine ⟨_, (written _ _).2 ⟨_, mapM_encode_eq_ok_iff.2 ⟨?_, rfl⟩, ?_, rfl⟩⟩
    · intro value present
      simp only [List.mem_cons, List.not_mem_nil, or_false] at present
      rcases present with rfl | rfl <;> exact fits (by decide)
    · rw [List.map_cons, List.map_singleton, List.flatten_cons, List.flatten_singleton,
        List.length_append, Response.length_nested, Response.length_nested]
      decide
  have tooDeep : maxValueDepth < (Response.nested 33).nesting := by
    rw [nesting_nested]
    decide
  exact ⟨⟨shallow, atLimit, (single _ _ atLimit [7, 8]).1 (Nat.le_of_eq (nesting_nested 32))⟩,
    ⟨deep, beyond, (single _ _ beyond [7, 8]).2 tooDeep⟩, bytes, both,
    (several _ _ both [7, 8]).2 ⟨_, List.mem_cons_of_mem _ List.mem_cons_self, tooDeep⟩⟩

end Inspector.Wire
