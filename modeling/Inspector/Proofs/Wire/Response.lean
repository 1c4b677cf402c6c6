import Inspector.Proofs.Wire.Envelope
import Inspector.Proofs.Wire.Value
import Inspector.Wire.Response

/-!
# Responses survive the wire

A response that was written reads back as itself if its values nest within the depth that is read
and, for a log line, if it has the id of log lines; each other response is refused for what is
wrong with it. Whatever response is read, from any bytes, is one of those that read back.
-/

namespace Inspector.Wire

open Pack Outcome

theorem readKind_word (kind : ClassKind) : readKind kind.word = .ok kind := by
  rw [readKind, ClassKind.ofWord?_word]

theorem word_of_readKind {word : String} {kind : ClassKind} (read : readKind word = .ok kind) :
    kind.word = word := by
  unfold readKind ClassKind.ofWord? at read
  split at read
  · next found =>
    cases read
    split at found <;> cases found <;> rfl
  · cases read

/-! ## Entries that were written -/

theorem ClassEntry.decode_bytes {entry : ClassEntry} (fits : entry.toItem.Fits) :
    ClassEntry.decode entry.toItem.bytes = .ok entry := by
  rw [toItem] at fits
  have name : (Item.text entry.name).Fits := fits.of_entry "name" (by simp)
  have word : (Item.text entry.kind.word).Fits := fits.of_entry "category" (by simp)
  rw [decode, toItem, readRecord_bytes fits]
  simp [Slots.take, read_text name, read_text word, readKind_word, read_bool]

theorem ThreadEntry.decode_bytes {entry : ThreadEntry} (fits : entry.toItem.Fits) :
    ThreadEntry.decode entry.toItem.bytes = .ok entry := by
  rw [toItem] at fits
  have name : (Item.text entry.name).Fits := fits.of_entry "name" (by simp)
  have trace : (Item.text entry.stackTrace).Fits := fits.of_entry "stack_trace" (by simp)
  rw [decode, toItem, readRecord_bytes fits]
  simp [Slots.take, read_text name, read_text trace, read_bool]

theorem FieldEntry.decode_bytes {entry : FieldEntry} (fits : entry.toItem.Fits) :
    FieldEntry.decode entry.toItem.bytes =
      if entry.value.nesting ≤ maxValueDepth then .ok entry
      else .error .recursionLimitExceeded := by
  rw [toItem] at fits
  have name : (Item.text entry.name).Fits := fits.of_entry "name" (by simp)
  have typeName : (Item.text entry.typeName).Fits := fits.of_entry "type_name" (by simp)
  have descriptor : (Item.text entry.descriptor).Fits := fits.of_entry "descriptor" (by simp)
  have value : entry.value.toItem.Fits := fits.of_entry "value" (by simp)
  rw [decode, toItem, readRecord_bytes fits]
  simp only [List.foldlM_cons, List.foldlM_nil, Slots.take, read_text name, read_text typeName,
    read_text descriptor, Value.decode_bytes value, read_int, ok_bind, pure_eq_ok]
  by_cases within : entry.value.nesting ≤ maxValueDepth
  · simp only [if_pos within, ok_bind, required_some]
  · simp only [if_neg within, error_bind]

/-! ## Bodies that were written -/

namespace ResponseBody

/-- The values in an answer. -/
def values : ResponseBody → List Value
  | .fields entries => entries.map (·.value)
  | .sequence _ items => items
  | _ => []

/-- Every value in an answer nests within the depth that is read. -/
def Shallow (body : ResponseBody) : Prop :=
  ∀ value ∈ body.values, value.nesting ≤ maxValueDepth

instance (body : ResponseBody) : Decidable body.Shallow :=
  inferInstanceAs (Decidable (∀ value ∈ body.values, _))

theorem shallow_of_values_eq_nil {body : ResponseBody} (none : body.values = []) :
    body.Shallow := by
  intro value present
  rw [none] at present
  cases present

theorem shallow_fields_iff {entries : List FieldEntry} :
    (ResponseBody.fields entries).Shallow ↔
      ∀ entry ∈ entries, entry.value.nesting ≤ maxValueDepth := by
  rw [Shallow, values]
  simp

/-- An answer is read back if its values do not nest too deep, and is refused for that
otherwise. -/
theorem decode_bytes {body : ResponseBody} (fits : body.toItem.Fits) :
    decode body.toItem.bytes =
      if body.Shallow then .ok body else .error .recursionLimitExceeded := by
  cases body with
  | notFound | ack =>
    rw [toItem, Item.unit] at fits
    rw [if_pos (shallow_of_values_eq_nil rfl), decode, toItem, Item.unit, read_field_alone fits,
      ok_bind]
    simp only [read_nil, ok_bind, pure_eq_ok]
  | signature text | logStream text | error text =>
    rw [toItem] at fits
    rw [if_pos (shallow_of_values_eq_nil rfl), decode, toItem, read_field_alone fits, ok_bind]
    simp only [read_text fits.payload, ok_bind, pure_eq_ok]
  | loadedClasses classes =>
    rw [toItem] at fits
    have list : readList (Item.list (classes.map ClassEntry.toItem)).bytes ClassEntry.decode =
        .ok classes := by
      refine readList_toItem fits.payload fun entry present => ?_
      exact ClassEntry.decode_bytes (fits.payload.of_mem_list (List.mem_map_of_mem present))
    rw [if_pos (shallow_of_values_eq_nil rfl), decode, toItem, read_field_alone fits, ok_bind]
    simp only [list, ok_bind, pure_eq_ok]
  | processStatus threads =>
    rw [toItem] at fits
    have list : readList (Item.list (threads.map ThreadEntry.toItem)).bytes ThreadEntry.decode =
        .ok threads := by
      refine readList_toItem fits.payload fun entry present => ?_
      exact ThreadEntry.decode_bytes (fits.payload.of_mem_list (List.mem_map_of_mem present))
    rw [if_pos (shallow_of_values_eq_nil rfl), decode, toItem, read_field_alone fits, ok_bind]
    simp only [list, ok_bind, pure_eq_ok]
  | fields entries =>
    rw [toItem] at fits
    have list : readList (Item.list (entries.map FieldEntry.toItem)).bytes FieldEntry.decode =
        if ∀ entry ∈ entries, entry.value.nesting ≤ maxValueDepth then .ok entries
        else .error .recursionLimitExceeded := by
      refine readList_limited fits.payload fun entry present => ?_
      exact FieldEntry.decode_bytes (fits.payload.of_mem_list (List.mem_map_of_mem present))
    rw [decode, toItem, read_field_alone fits, ok_bind]
    simp only [list, shallow_fields_iff]
    split <;> rfl
  | sequence listType items =>
    rw [toItem] at fits
    have name : (Item.text listType).Fits := fits.payload.of_entry "list_type" (by simp)
    have inner : (Item.list (Value.toItems items)).Fits := fits.payload.of_entry "items" (by simp)
    have list : readList (Item.list (Value.toItems items)).bytes Value.decode =
        if ∀ value ∈ items, value.nesting ≤ maxValueDepth then .ok items
        else .error .recursionLimitExceeded := by
      rw [Value.toItems_eq_map] at inner ⊢
      refine readList_limited inner fun value present => ?_
      exact Value.decode_bytes (inner.of_mem_list (List.mem_map_of_mem present))
    rw [decode, toItem, read_field_alone fits, ok_bind]
    simp only [readRecord_bytes fits.payload, List.foldlM_cons, List.foldlM_nil,
      Value.ListSlots.take, read_text name, list, ok_bind, pure_eq_ok]
    by_cases within : ∀ value ∈ items, value.nesting ≤ maxValueDepth
    · have shallow : (sequence listType items).Shallow := within
      simp only [if_pos within, if_pos shallow, ok_bind, required_some]
    · have deep : ¬ (sequence listType items).Shallow := within
      simp only [if_neg within, if_neg deep, error_bind]

end ResponseBody

/-! ## Entries that are read from any bytes -/

namespace ClassEntry

/-- The fields that the slots of a class stand for. -/
def Slots.size (slots : Slots) : Nat :=
  slotSize "name" .text slots.name + slotSize "category" (fun kind => .text kind.word) slots.kind +
    slotSize "loaded" .bool slots.loaded

theorem yields_kind : Yields (fun payload => read Pack.text payload >>= readKind) Whatever
    fun kind => .text kind.word := by
  intro payload kind done
  obtain ⟨word, read, found⟩ := bind_eq_ok.1 done
  have shorter := yields_text payload word read
  rw [← word_of_readKind found] at shorter
  exact ⟨trivial, shorter.2⟩

theorem gathers : Gathers Slots.take Whatever Slots.size := by
  intro slots name payload next _ done
  unfold Slots.take at done
  split at done
  · obtain ⟨_, _, rfl, longer⟩ := fills_slot yields_text "name" done
    refine ⟨trivial, ?_⟩
    simp only [Slots.size]
    omega
  · rw [← bind_assoc] at done
    obtain ⟨_, _, rfl, longer⟩ := fills_slot yields_kind "category" done
    refine ⟨trivial, ?_⟩
    simp only [Slots.size]
    omega
  · obtain ⟨_, _, rfl, longer⟩ := fills_slot yields_bool "loaded" done
    refine ⟨trivial, ?_⟩
    simp only [Slots.size]
    omega
  · exact gathers_skip trivial done

theorem yields : Yields decode Whatever toItem := by
  intro input entry done
  obtain ⟨slots, read, built⟩ := bind_eq_ok.1 done
  obtain ⟨name, named, built⟩ := bind_eq_ok.1 built
  obtain ⟨kind, known, built⟩ := bind_eq_ok.1 built
  obtain ⟨loaded, told, same⟩ := bind_eq_ok.1 built
  cases same
  have shorter := (length_readRecord gathers trivial rfl read).2
  refine ⟨trivial, ?_⟩
  simp only [Slots.size, required_eq_ok.1 named, required_eq_ok.1 known, required_eq_ok.1 told,
    slotSize] at shorter
  simp only [toItem, Item.bytes, Item.bytesOfFields, length_block, List.length_append,
    List.length_nil] at shorter ⊢
  omega

end ClassEntry

namespace ThreadEntry

/-- The fields that the slots of a thread stand for. -/
def Slots.size (slots : Slots) : Nat :=
  slotSize "name" .text slots.name + slotSize "daemon" .bool slots.daemon +
    slotSize "stack_trace" .text slots.stackTrace

theorem gathers : Gathers Slots.take Whatever Slots.size := by
  intro slots name payload next _ done
  unfold Slots.take at done
  split at done
  · obtain ⟨_, _, rfl, longer⟩ := fills_slot yields_text "name" done
    refine ⟨trivial, ?_⟩
    simp only [Slots.size]
    omega
  · obtain ⟨_, _, rfl, longer⟩ := fills_slot yields_bool "daemon" done
    refine ⟨trivial, ?_⟩
    simp only [Slots.size]
    omega
  · obtain ⟨_, _, rfl, longer⟩ := fills_slot yields_text "stack_trace" done
    refine ⟨trivial, ?_⟩
    simp only [Slots.size]
    omega
  · exact gathers_skip trivial done

theorem yields : Yields decode Whatever toItem := by
  intro input entry done
  obtain ⟨slots, read, built⟩ := bind_eq_ok.1 done
  obtain ⟨name, named, built⟩ := bind_eq_ok.1 built
  obtain ⟨daemon, told, built⟩ := bind_eq_ok.1 built
  obtain ⟨trace, traced, same⟩ := bind_eq_ok.1 built
  cases same
  have shorter := (length_readRecord gathers trivial rfl read).2
  refine ⟨trivial, ?_⟩
  simp only [Slots.size, required_eq_ok.1 named, required_eq_ok.1 told, required_eq_ok.1 traced,
    slotSize] at shorter
  simp only [toItem, Item.bytes, Item.bytesOfFields, length_block, List.length_append,
    List.length_nil] at shorter ⊢
  omega

end ThreadEntry

namespace FieldEntry

/-- The fields that the slots of a field's record stand for. -/
def Slots.size (slots : Slots) : Nat :=
  slotSize "name" .text slots.name + slotSize "type_name" .text slots.typeName +
    slotSize "descriptor" .text slots.descriptor + slotSize "value" Value.toItem slots.value +
    slotSize "object_id" .int slots.objectId

/-- The value that was read, if any, nests within the depth that is read. -/
def Slots.Shallow (slots : Slots) : Prop :=
  ∀ value, slots.value = some value → value.nesting < maxValueDepth + 1

theorem gathers : Gathers Slots.take Slots.Shallow Slots.size := by
  intro slots name payload next good done
  unfold Slots.take at done
  split at done
  · obtain ⟨_, _, rfl, longer⟩ := fills_slot yields_text "name" done
    refine ⟨good, ?_⟩
    simp only [Slots.size]
    omega
  · obtain ⟨_, _, rfl, longer⟩ := fills_slot yields_text "type_name" done
    refine ⟨good, ?_⟩
    simp only [Slots.size]
    omega
  · obtain ⟨_, _, rfl, longer⟩ := fills_slot yields_text "descriptor" done
    refine ⟨good, ?_⟩
    simp only [Slots.size]
    omega
  · obtain ⟨value, within, rfl, longer⟩ := fills_slot Value.yields_decode "value" done
    refine ⟨?_, ?_⟩
    · rintro _ ⟨⟩
      exact within
    · simp only [Slots.size]
      omega
  · obtain ⟨_, _, rfl, longer⟩ := fills_slot yields_int "object_id" done
    refine ⟨good, ?_⟩
    simp only [Slots.size]
    omega
  · exact gathers_skip good done

theorem yields : Yields decode (fun entry => entry.value.nesting ≤ maxValueDepth) toItem := by
  intro input entry done
  obtain ⟨slots, read, built⟩ := bind_eq_ok.1 done
  obtain ⟨name, named, built⟩ := bind_eq_ok.1 built
  obtain ⟨typeName, typed, built⟩ := bind_eq_ok.1 built
  obtain ⟨descriptor, described, built⟩ := bind_eq_ok.1 built
  obtain ⟨value, valued, built⟩ := bind_eq_ok.1 built
  obtain ⟨objectId, known, same⟩ := bind_eq_ok.1 built
  cases same
  obtain ⟨shallow, shorter⟩ := length_readRecord gathers (by rintro _ ⟨⟩) rfl read
  refine ⟨Nat.lt_succ_iff.1 (shallow value (required_eq_ok.1 valued)), ?_⟩
  simp only [Slots.size, required_eq_ok.1 named, required_eq_ok.1 typed,
    required_eq_ok.1 described, required_eq_ok.1 valued, required_eq_ok.1 known,
    slotSize] at shorter
  simp only [toItem, Item.bytes, Item.bytesOfFields, length_block, List.length_append,
    List.length_nil] at shorter ⊢
  omega

end FieldEntry

/-! ## Bodies that are read from any bytes -/

theorem ResponseBody.yields : Yields ResponseBody.decode Shallow toItem := by
  intro input body done
  obtain ⟨⟨kind, payload⟩, entered, inner⟩ := bind_eq_ok.1 done
  -- each kind of answer is one field of that name
  suffices content : body.Shallow ∧ ∃ item, body.toItem = .field kind item ∧
      item.bytes.length ≤ payload.length by
    obtain ⟨shallow, item, same, shorter⟩ := content
    rw [same]
    exact ⟨shallow, length_field_le entered shorter⟩
  dsimp only at inner
  split at inner
  · obtain ⟨_, read, same⟩ := bind_eq_ok.1 inner
    cases same
    exact ⟨shallow_of_values_eq_nil rfl, _, rfl, (yields_nil _ _ read).2⟩
  · obtain ⟨_, read, same⟩ := bind_eq_ok.1 inner
    cases same
    exact ⟨shallow_of_values_eq_nil rfl, _, rfl, (yields_nil _ _ read).2⟩
  · obtain ⟨_, read, same⟩ := bind_eq_ok.1 inner
    cases same
    exact ⟨shallow_of_values_eq_nil rfl, _, rfl, (yields_text _ _ read).2⟩
  · obtain ⟨_, read, same⟩ := bind_eq_ok.1 inner
    cases same
    exact ⟨shallow_of_values_eq_nil rfl, _, rfl, (yields_text _ _ read).2⟩
  · obtain ⟨_, read, same⟩ := bind_eq_ok.1 inner
    cases same
    exact ⟨shallow_of_values_eq_nil rfl, _, rfl, (yields_text _ _ read).2⟩
  · obtain ⟨_, read, same⟩ := bind_eq_ok.1 inner
    cases same
    exact ⟨shallow_of_values_eq_nil rfl, _, rfl, (yields_list ClassEntry.yields _ _ read).2⟩
  · obtain ⟨_, read, same⟩ := bind_eq_ok.1 inner
    cases same
    obtain ⟨within, shorter⟩ := yields_list FieldEntry.yields _ _ read
    exact ⟨shallow_fields_iff.2 within, _, rfl, shorter⟩
  · obtain ⟨slots, read, built⟩ := bind_eq_ok.1 inner
    obtain ⟨listType, named, built⟩ := bind_eq_ok.1 built
    obtain ⟨items, held, same⟩ := bind_eq_ok.1 built
    cases same
    obtain ⟨within, shorter⟩ := Value.list_of_readRecord Value.yields_decode read
      (required_eq_ok.1 named) (required_eq_ok.1 held)
    exact ⟨fun value present => Nat.lt_succ_iff.1 (within value present), _, rfl, shorter⟩
  · obtain ⟨_, read, same⟩ := bind_eq_ok.1 inner
    cases same
    exact ⟨shallow_of_values_eq_nil rfl, _, rfl, (yields_list ThreadEntry.yields _ _ read).2⟩
  · cases inner

/-! ## Responses -/

namespace Response

/-- A log line has the id of log lines. -/
def WellAddressed (response : Response) : Prop :=
  ∀ text, response.body = .logStream text → response.id = logStreamId

theorem isStrayLogLine_eq_false_iff {response : Response} :
    isStrayLogLine response = false ↔ WellAddressed response := by
  rw [isStrayLogLine, WellAddressed]
  cases response.body <;> simp

/-- What reading makes of a response that was written. -/
theorem decode_bytes {response : Response}
    (fits : (response.toItem "res" ResponseBody.toItem).Fits) :
    Response.decode (response.toItem "res" ResponseBody.toItem).bytes =
      if ¬ response.body.Shallow then .error .recursionLimitExceeded
      else if isStrayLogLine response then
        .error (.protocolViolation s!"log stream frame with id {response.id.toInt}")
      else .ok response := by
  rw [Response.decode, Envelope.decode_bytes fits,
    ResponseBody.decode_bytes (Envelope.body_fits fits)]
  by_cases shallow : response.body.Shallow
  · rw [if_pos shallow, if_neg (not_not_intro shallow)]
    simp only [ok_bind]
    split <;> rfl
  · rw [if_neg shallow, if_pos shallow]
    rfl

/-- Whatever is read from any bytes can be written, and is read back as the same. -/
theorem shallow_and_fits_of_decode {input : Bytes} {response : Response}
    (done : Response.decode input = .ok response) :
    response.body.Shallow ∧ isStrayLogLine response = false ∧
      (response.toItem "res" ResponseBody.toItem).Fits := by
  obtain ⟨read, entered, checked⟩ := bind_eq_ok.1 done
  obtain ⟨shallow, fits⟩ := Envelope.of_decode ResponseBody.yields entered
  by_cases stray : isStrayLogLine read
  · simp [stray] at checked
  · simp only [stray] at checked
    cases checked
    exact ⟨shallow, by simpa using stray, fits⟩

/-- A response that was written is read back exactly if its values do not nest too deep and, for
a log line, if it has the id of log lines; what is wrong with another one is told. Writing fails
on lengths only. Whatever is read from any bytes is a response that can be written and is read
back. -/
theorem decode_encode_response :
    (∀ (response : Response) (bytes : Bytes), Response.encode response = .ok bytes →
      (response.body.Shallow → WellAddressed response → Response.decode bytes = .ok response) ∧
      (¬ response.body.Shallow → Response.decode bytes = .error .recursionLimitExceeded) ∧
      (¬ WellAddressed response →
        ∃ what, Response.decode bytes = .error (.protocolViolation what))) ∧
    (∀ (response : Response) (e : Error), Response.encode response = .error e →
      ∃ length, e = .pack (.blobTooLarge length)) ∧
    ∀ (input : Bytes) (response : Response), Response.decode input = .ok response →
      response.body.Shallow ∧ WellAddressed response ∧
        ∃ bytes, Response.encode response = .ok bytes ∧ Response.decode bytes = .ok response := by
  refine ⟨?_, fun response e failed => (pack_eq_error failed).imp fun _ cause => cause.1, ?_⟩
  · intro response bytes encoded
    obtain ⟨fits, rfl⟩ := pack_eq_ok_iff.1 encoded
    rw [decode_bytes fits]
    refine ⟨fun shallow addressed => ?_, fun deep => if_pos deep, fun stray => ?_⟩
    · rw [if_neg (not_not_intro shallow), isStrayLogLine_eq_false_iff.2 addressed]
      rfl
    · have logLine : isStrayLogLine response = true := by
        rw [← isStrayLogLine_eq_false_iff] at stray
        simpa using stray
      -- a log line holds no values
      have shallow : response.body.Shallow := by
        rw [isStrayLogLine] at logLine
        split at logLine
        · next text same =>
          rw [same]
          exact ResponseBody.shallow_of_values_eq_nil rfl
        · cases logLine
      exact ⟨_, by rw [if_neg (not_not_intro shallow), if_pos logLine]⟩
  · intro input response done
    obtain ⟨shallow, ordinary, fits⟩ := shallow_and_fits_of_decode done
    refine ⟨shallow, isStrayLogLine_eq_false_iff.1 ordinary, _, pack_eq_ok_iff.2 ⟨fits, rfl⟩, ?_⟩
    rw [decode_bytes fits, if_neg (not_not_intro shallow), ordinary]
    rfl

/-- A null inside so many lists. -/
def nested (depth : Nat) : Value :=
  Nat.repeat (fun value => .list "t" [value]) depth .null

/-- An answer with a value that is nested so deep. -/
def deepAnswer (depth : Nat) : Response :=
  { id := 7, body := .sequence "t" [nested depth] }

theorem length_nested (depth : Nat) : (nested depth).toItem.bytes.length = 64 * depth + 15 := by
  induction depth with
  | zero => decide +kernel
  | succ depth ih =>
    have kind : (Text.encode "List").length = 4 := by decide +kernel
    have listType : (Text.encode "list_type").length = 9 := by decide +kernel
    have items : (Text.encode "items").length = 5 := by decide +kernel
    have name : (Text.encode "t").length = 1 := by decide +kernel
    change (Value.list "t" [nested depth]).toItem.bytes.length = _
    simp only [Value.toItem, Value.toItems, Item.bytes, Item.bytesOfItems, Item.bytesOfFields,
      length_fieldBytes, length_block, List.length_append, List.length_nil]
    omega

theorem fits_deepAnswer {depth : Nat} (small : depth ≤ 100) :
    ((deepAnswer depth).toItem "res" ResponseBody.toItem).Fits := by
  have value := length_nested depth
  have frame : (Text.encode "res").length + (Text.encode "id").length +
      (Text.encode "body").length + (Text.encode "Sequence").length +
      (Text.encode "list_type").length + (Text.encode "items").length +
      (Text.encode "t").length ≤ 100 := by decide +kernel
  simp only [deepAnswer, Envelope.toItem, ResponseBody.toItem, Value.toItems, Item.Fits,
    Item.bytes, Item.bytesOfItems, Item.bytesOfFields, intBytes, Bytes.length_ofNatLE, maxLength,
    length_fieldBytes, length_block, List.length_append, List.length_cons, List.length_nil]
  omega

/-- Thirty-two lists inside each other are read back, one more is refused, and so is a log line
under the id of an answer. -/
theorem decode_encode_response_at_limit :
    (∃ bytes, Response.encode (deepAnswer 32) = .ok bytes ∧
      Response.decode bytes = .ok (deepAnswer 32) ∧ (deepAnswer 32).body.Shallow) ∧
    (∃ bytes, Response.encode (deepAnswer 33) = .ok bytes ∧
      Response.decode bytes = .error .recursionLimitExceeded) ∧
    ∃ bytes what, Response.encode { id := 7, body := .logStream "t" } = .ok bytes ∧
      Response.decode bytes = .error (.protocolViolation what) := by
  have atLimit := pack_eq_ok_iff.2 ⟨fits_deepAnswer (by decide : 32 ≤ 100), rfl⟩
  have beyond := pack_eq_ok_iff.2 ⟨fits_deepAnswer (by decide : 33 ≤ 100), rfl⟩
  have logLine : (Envelope.toItem "res" ResponseBody.toItem
      { id := 7, body := .logStream "t" }).Fits := by decide +kernel
  have stray := pack_eq_ok_iff.2 ⟨logLine, rfl⟩
  obtain ⟨round, _, back⟩ := decode_encode_response
  have read := (round _ _ atLimit).1 (by decide +kernel) (by rintro _ ⟨⟩)
  have deep := (round _ _ beyond).2.1 (by decide +kernel)
  obtain ⟨what, refused⟩ := (round _ _ stray).2.2 fun addressed =>
    absurd (addressed "t" rfl) (by decide)
  exact ⟨⟨_, atLimit, read, (back _ _ read).1⟩, ⟨_, beyond, deep⟩, ⟨_, what, stray, refused⟩⟩

end Response

end Inspector.Wire
