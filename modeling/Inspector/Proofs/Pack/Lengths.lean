import Inspector.Pack.Item
import Inspector.Pack.Reader

/-!
# What a read takes

Whatever the input, a read that succeeds has taken exactly the packed form of its result: there is
one way only to write what it reads. So the members of a container are together no longer than its
body, and a body is never longer than four bytes can say.
-/

namespace Inspector.Pack

/-! ## Tags and lengths -/

theorem Read.run_bind_eq_ok {α β : Type} {read : Read α} {next : α → Read β} {input rest : Bytes}
    {b : β} : (read >>= next).run input = (.ok b, rest) ↔
      ∃ a middle, read.run input = (.ok a, middle) ∧ (next a).run middle = (.ok b, rest) := by
  rw [run_bind]
  cases done : read.run input with
  | mk outcome middle =>
    cases outcome with
    | error e => simp
    | ok a =>
      constructor
      · exact fun last => ⟨a, middle, rfl, last⟩
      · rintro ⟨_, _, same, last⟩
        cases same
        exact last

theorem eq_of_take {n : Nat} {input bytes rest : Bytes}
    (done : (take n).run input = (.ok bytes, rest)) :
    bytes.length = n ∧ input = bytes ++ rest := by
  simp only [take] at done
  split at done
  · next enough =>
    cases done
    exact ⟨List.length_take_of_le enough, (List.take_append_drop n input).symm⟩
  · cases done

theorem eq_of_peekTag {input rest : Bytes} {tag : Tag}
    (done : peekTag.run input = (.ok tag, rest)) :
    rest = input ∧ ∃ tail, input = tag.byte :: tail := by
  cases input with
  | nil => cases done
  | cons b tail =>
    simp only [peekTag] at done
    split at done
    · next tagged =>
      cases done
      exact ⟨rfl, tail, by rw [Tag.ofByte?_eq_some_iff.1 tagged]⟩
    · cases done

/-- Taking one byte after a look at the tag takes the tag. -/
theorem eq_of_take_tag {tag : Tag} {tail bytes rest : Bytes}
    (one : (take 1).run (tag.byte :: tail) = (.ok bytes, rest)) : tail = rest := by
  obtain ⟨width, same⟩ := eq_of_take one
  obtain ⟨b, rfl⟩ := List.length_eq_one_iff.1 width
  exact (List.cons.inj same).2

theorem eq_of_expectTag {expected : Tag} {input rest : Bytes}
    (done : (expectTag expected).run input = (.ok (), rest)) : input = expected.byte :: rest := by
  obtain ⟨tag, middle, peeked, taken⟩ := Read.run_bind_eq_ok.1 done
  obtain ⟨rfl, tail, rfl⟩ := eq_of_peekTag peeked
  split at taken
  · next same =>
    obtain ⟨bytes, left, one, last⟩ := Read.run_bind_eq_ok.1 taken
    cases last
    rw [eq_of_take_tag one, same]
  · cases taken

/-- Any four bytes are the length that they are read as. -/
theorem eq_of_takeLength {input rest : Bytes} {length : Nat}
    (done : takeLength.run input = (.ok length, rest)) :
    length ≤ maxLength ∧ input = Bytes.ofNatLE 4 length ++ rest := by
  obtain ⟨bytes, middle, four, last⟩ := Read.run_bind_eq_ok.1 done
  cases last
  obtain ⟨width, rfl⟩ := eq_of_take four
  have small := Bytes.toNatLE_lt bytes
  have same := Bytes.ofNatLE_toNatLE bytes
  rw [width] at small same
  refine ⟨?_, by rw [same]⟩
  simp only [Bytes.capacity] at small
  rw [maxLength]
  omega

theorem eq_of_takeWord {input rest : Bytes} {word : UInt64}
    (done : takeWord.run input = (.ok word, rest)) :
    input = Bytes.ofNatLE 8 word.toNat ++ rest := by
  obtain ⟨bytes, middle, eight, last⟩ := Read.run_bind_eq_ok.1 done
  cases last
  obtain ⟨width, rfl⟩ := eq_of_take eight
  have small := Bytes.toNatLE_lt bytes
  have same := Bytes.ofNatLE_toNatLE bytes
  rw [width] at small same
  have value : (UInt64.ofNat (Bytes.toNatLE bytes)).toNat = Bytes.toNatLE bytes := by
    simp only [Bytes.capacity] at small
    exact UInt64.toNat_ofNat_of_lt (by omega)
  rw [value, same]

/-- A block's body has the length that stands before it. -/
theorem eq_of_body {tag : Tag} {input inner rest : Bytes}
    (done : (Pack.body tag).run input = (.ok inner, rest)) :
    inner.length ≤ maxLength ∧ input = block tag inner ++ rest := by
  obtain ⟨_, tagged, expected, measured⟩ := Read.run_bind_eq_ok.1 done
  obtain ⟨length, ahead, counted, taken⟩ := Read.run_bind_eq_ok.1 measured
  obtain rfl := eq_of_expectTag expected
  obtain ⟨small, rfl⟩ := eq_of_takeLength counted
  obtain ⟨rfl, rfl⟩ := eq_of_take taken
  refine ⟨small, ?_⟩
  simp only [block, List.cons_append, List.append_assoc]

theorem length_body {tag : Tag} {input inner rest : Bytes}
    (done : (Pack.body tag).run input = (.ok inner, rest)) :
    inner.length ≤ maxLength ∧ (block tag inner).length + rest.length = input.length := by
  obtain ⟨small, rfl⟩ := eq_of_body done
  exact ⟨small, List.length_append.symm⟩

/-! ## Items of each kind -/

theorem eq_of_nil {input rest : Bytes} (done : nil.run input = (.ok (), rest)) :
    input = Item.nil.bytes ++ rest :=
  eq_of_expectTag done

theorem eq_of_bool {input rest : Bytes} {value : Bool} (done : bool.run input = (.ok value, rest)) :
    input = (Item.bool value).bytes ++ rest := by
  obtain ⟨tag, middle, peeked, taken⟩ := Read.run_bind_eq_ok.1 done
  obtain ⟨rfl, tail, rfl⟩ := eq_of_peekTag peeked
  split at taken
  · obtain ⟨bytes, left, one, last⟩ := Read.run_bind_eq_ok.1 taken
    cases last
    rw [eq_of_take_tag one]
    rfl
  · obtain ⟨bytes, left, one, last⟩ := Read.run_bind_eq_ok.1 taken
    cases last
    rw [eq_of_take_tag one]
    rfl
  · cases taken

theorem eq_of_int {input rest : Bytes} {value : Int64} (done : int.run input = (.ok value, rest)) :
    input = (Item.int value).bytes ++ rest := by
  obtain ⟨_, middle, expected, taken⟩ := Read.run_bind_eq_ok.1 done
  obtain ⟨word, left, eight, last⟩ := Read.run_bind_eq_ok.1 taken
  cases last
  obtain rfl := eq_of_expectTag expected
  obtain rfl := eq_of_takeWord eight
  rw [Item.bytes, intBytes, UInt64.toUInt64_toInt64, List.cons_append]

theorem eq_of_float {input rest : Bytes} {bits : UInt64}
    (done : float.run input = (.ok bits, rest)) : input = (Item.float bits).bytes ++ rest := by
  obtain ⟨_, middle, expected, eight⟩ := Read.run_bind_eq_ok.1 done
  obtain rfl := eq_of_expectTag expected
  obtain rfl := eq_of_takeWord eight
  rw [Item.bytes, floatBytes, List.cons_append]

theorem eq_of_text {input rest : Bytes} {value : String}
    (done : text.run input = (.ok value, rest)) :
    (Text.encode value).length ≤ maxLength ∧ input = (Item.text value).bytes ++ rest := by
  obtain ⟨inner, middle, entered, decoded⟩ := Read.run_bind_eq_ok.1 done
  split at decoded
  · next read =>
    cases decoded
    rw [Item.bytes, Text.encode_of_decode? read]
    exact eq_of_body entered
  · cases decoded

theorem eq_of_field {input payload rest : Bytes} {name : String}
    (done : field.run input = (.ok (name, payload), rest)) :
    (block .text (Text.encode name) ++ payload).length ≤ maxLength ∧
      input = fieldBytes name payload ++ rest := by
  obtain ⟨inner, middle, entered, named⟩ := Read.run_bind_eq_ok.1 done
  split at named
  · next read =>
    cases named
    obtain ⟨small, rfl⟩ := eq_of_body entered
    obtain ⟨-, rfl⟩ := eq_of_text read
    exact ⟨small, rfl⟩
  · cases named

theorem length_nil {input rest : Bytes} (done : nil.run input = (.ok (), rest)) :
    Item.nil.bytes.length + rest.length = input.length := by
  rw [eq_of_nil done, List.length_append]

theorem length_bool {input rest : Bytes} {value : Bool}
    (done : bool.run input = (.ok value, rest)) :
    (Item.bool value).bytes.length + rest.length = input.length := by
  rw [eq_of_bool done, List.length_append]

theorem length_int {input rest : Bytes} {value : Int64}
    (done : int.run input = (.ok value, rest)) :
    (Item.int value).bytes.length + rest.length = input.length := by
  rw [eq_of_int done, List.length_append]

theorem length_float {input rest : Bytes} {bits : UInt64}
    (done : float.run input = (.ok bits, rest)) :
    (Item.float bits).bytes.length + rest.length = input.length := by
  rw [eq_of_float done, List.length_append]

theorem length_text {input rest : Bytes} {value : String}
    (done : text.run input = (.ok value, rest)) :
    (Item.text value).bytes.length + rest.length = input.length := by
  rw [(eq_of_text done).2, List.length_append]

theorem length_field {input payload rest : Bytes} {name : String}
    (done : field.run input = (.ok (name, payload), rest)) :
    (fieldBytes name payload).length ≤ maxLength + 5 ∧
      (fieldBytes name payload).length + rest.length = input.length := by
  obtain ⟨small, rfl⟩ := eq_of_field done
  refine ⟨?_, List.length_append.symm⟩
  rw [fieldBytes, length_block]
  exact Nat.add_le_add_right small 5

/-! ## Bodies -/

theorem length_nextItem {input item rest : Bytes}
    (found : nextItem.run input = (.ok (some item), rest)) :
    item.length + rest.length = input.length := by
  simp only [nextItem] at found
  split at found
  · cases found
  · split at found
    · next skipped =>
      cases found
      have shorter := length_lt_of_skip skipped
      rw [List.length_take]
      omega
    · cases found

/-- The next field of a body is read like any other field. -/
theorem field_of_nextField {input rest : Bytes} {entry : String × Bytes}
    (found : nextField.run input = (.ok (some entry), rest)) :
    field.run input = (.ok entry, rest) := by
  simp only [nextField] at found
  split at found
  · cases found
  · split at found
    · cases found
    · next tag middle peeked =>
      obtain ⟨rfl, -⟩ := eq_of_peekTag peeked
      split at found
      · split at found
        · next read =>
          cases found
          exact read
        · cases found
      · cases found

theorem length_nextField {input payload rest : Bytes} {name : String}
    (found : nextField.run input = (.ok (some (name, payload)), rest)) :
    (fieldBytes name payload).length + rest.length = input.length :=
  (length_field (field_of_nextField found)).2

/-- The items of a body are together no longer than the body. -/
theorem length_itemsOf (input : Bytes) :
    (itemsOf input).parts.flatten.length ≤ input.length := by
  fun_induction itemsOf input with
  | case1 => simp
  | case2 => simp
  | case3 input item rest found others ih =>
    have taken := length_nextItem found
    rw [List.flatten_cons, List.length_append]
    change _ + (itemsOf rest).parts.flatten.length ≤ _
    omega

/-- The fields of a body are together no longer than the body. -/
theorem length_fieldsOf (input : Bytes) :
    ((fieldsOf input).parts.flatMap fun entry => fieldBytes entry.1 entry.2).length ≤
      input.length := by
  fun_induction fieldsOf input with
  | case1 => simp
  | case2 => simp
  | case3 input entry rest found others ih =>
    have taken := length_nextField found
    rw [List.flatMap_cons, List.length_append]
    change _ + ((fieldsOf rest).parts.flatMap fun entry => fieldBytes entry.1 entry.2).length ≤ _
    omega

/-! ## Texts that are too long -/

/-- A name or text of so many letters. -/
def letters (n : Nat) : String :=
  String.ofList (List.replicate n 'a')

theorem length_encode_letters (n : Nat) : (Text.encode (letters n)).length = n := by
  rw [letters, Text.encode_ofList]
  induction n with
  | zero => rfl
  | succ n ih =>
    rw [List.replicate_succ, List.flatMap_cons, List.length_append, ih, Nat.add_comm]
    rfl

end Inspector.Pack
