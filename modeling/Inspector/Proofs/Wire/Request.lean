import Inspector.Proofs.Wire.Envelope
import Inspector.Wire.Request

/-!
# Requests survive the wire

A request that can be written reads back as itself, although all questions are gathered in one set
of slots; and its id can be made out without its body. The only request that cannot be written is
one with a length that does not fit.
-/

namespace Inspector.Wire

open Pack Outcome

theorem Target.decode_bytes {target : Target} (fits : target.toItem.Fits) :
    Target.decode target.toItem.bytes = .ok target := by
  cases target with
  | cls name =>
    rw [toItem] at fits
    rw [decode, toItem, read_field_alone fits, ok_bind]
    simp only [read_text fits.payload, ok_bind, pure_eq_ok]
  | object id =>
    rw [toItem] at fits
    rw [decode, toItem, read_field_alone fits, ok_bind]
    simp only [read_int, ok_bind, pure_eq_ok]

namespace RequestBody

/-- Hints are read back one by one. -/
theorem readHints_bytes {hints : List String} (fits : (Item.list (hints.map .text)).Fits) :
    readList (Item.list (hints.map .text)).bytes (read Pack.text) = .ok hints := by
  refine readList_toItem fits fun hint present => ?_
  exact read_text (fits.of_mem_list (List.mem_map_of_mem present))

/-- A question with details is read by gathering them and building it. -/
theorem decode_detailed {kind : String} {fields : List (String × Item)} (question : Detailed)
    (fits : (Item.field kind (.map fields)).Fits) (named : Detailed.ofName? kind = some question) :
    decode (Item.field kind (.map fields)).bytes =
      fields.foldlM (fun slots entry => Slots.take slots entry.1 entry.2.bytes) {} >>=
        question.build := by
  rw [decode, read_field_alone fits, ok_bind, ← readRecord_bytes fits.payload]
  dsimp only
  split
  · cases named
  · cases named
  · rw [named]

theorem decode_bytes {body : RequestBody} (fits : body.toItem.Fits) :
    decode body.toItem.bytes = .ok body := by
  cases body with
  | loadedClasses | processStatus =>
    rw [toItem, Item.unit] at fits
    rw [decode, toItem, Item.unit, read_field_alone fits, ok_bind]
    simp only [read_nil, ok_bind, pure_eq_ok]
  | staticFields className =>
    rw [toItem] at fits
    have name : (Item.text className).Fits := fits.payload.of_entry "class_name" (by simp)
    rw [toItem, decode_detailed .staticFields fits rfl]
    simp [Slots.take, read_text name, Detailed.build]
  | objectFields objectId =>
    rw [toItem] at fits
    rw [toItem, decode_detailed .objectFields fits rfl]
    simp [Slots.take, read_int, Detailed.build]
  | readSequence objectId =>
    rw [toItem] at fits
    rw [toItem, decode_detailed .readSequence fits rfl]
    simp [Slots.take, read_int, Detailed.build]
  | setLogStream enabled =>
    rw [toItem] at fits
    rw [toItem, decode_detailed .setLogStream fits rfl]
    simp [Slots.take, read_bool, Detailed.build]
  | fieldSignature target field =>
    rw [toItem] at fits
    have aim : target.toItem.Fits := fits.payload.of_entry "target" (by simp)
    have name : (Item.text field).Fits := fits.payload.of_entry "field" (by simp)
    rw [toItem, decode_detailed .fieldSignature fits rfl]
    simp [Slots.take, Target.decode_bytes aim, read_text name, Detailed.build]
  | methodSignature target method hints =>
    rw [toItem] at fits
    have aim : target.toItem.Fits := fits.payload.of_entry "target" (by simp)
    have name : (Item.text method).Fits := fits.payload.of_entry "method" (by simp)
    have list : (Item.list (hints.map .text)).Fits := fits.payload.of_entry "hints" (by simp)
    rw [toItem, decode_detailed .methodSignature fits rfl]
    simp [Slots.take, Target.decode_bytes aim, read_text name, readHints_bytes list,
      Detailed.build]

end RequestBody

/-- A request is written exactly if its packed form fits, and what is written reads back as the
request and shows its id. If the form does not fit, the error is for a length that is too great. -/
theorem Request.decode_encode_request (request : Request) :
    let item := request.toItem "req" RequestBody.toItem
    (¬ item.Fits ∧ ∃ length, Request.encode request = .error (.pack (.blobTooLarge length)) ∧
      maxLength < length) ∨
    (item.Fits ∧ ∃ bytes, Request.encode request = .ok bytes ∧
      Request.decode bytes = .ok request ∧ peekId bytes = .ok request.id) := by
  intro item
  cases encoded : Request.encode request with
  | error e =>
    obtain ⟨length, rfl, large⟩ := pack_eq_error encoded
    refine .inl ⟨fun fits => ?_, length, rfl, large⟩
    rw [Request.encode, pack_eq_ok_iff.2 ⟨fits, rfl⟩] at encoded
    cases encoded
  | ok bytes =>
    obtain ⟨fits, rfl⟩ := pack_eq_ok_iff.1 encoded
    refine .inr ⟨fits, _, rfl, ?_, peekId_bytes (.inl rfl) fits⟩
    rw [Request.decode, Envelope.decode_bytes fits,
      RequestBody.decode_bytes (Envelope.body_fits fits)]
    rfl

/-- A look-up with three hints is written and read back, and one of a class whose name is a letter
too long is not written. -/
theorem Request.decode_encode_request_hinted :
    let lookUp : Request :=
      { id := 7, body := .methodSignature (.object 3) "spend" ["I", "[Ljava.lang.String;", ""] }
    let overlong : Request := { id := 8, body := .staticFields (letters (maxLength + 1)) }
    (∃ bytes, Request.encode lookUp = .ok bytes ∧ Request.decode bytes = .ok lookUp ∧
      peekId bytes = .ok 7) ∧
    ∃ length, Request.encode overlong = .error (.pack (.blobTooLarge length)) ∧
      maxLength < length := by
  intro lookUp overlong
  constructor
  · have fits : (lookUp.toItem "req" RequestBody.toItem).Fits := by decide +kernel
    exact ((decode_encode_request lookUp).resolve_left fun refused => refused.1 fits).2
  · have large : ¬ (overlong.toItem "req" RequestBody.toItem).Fits := by
      intro fits
      have name : (Item.text (letters (maxLength + 1))).Fits :=
        (Envelope.body_fits fits).payload.of_entry "class_name" (by simp)
      rw [Item.fits_text_iff, length_encode_letters] at name
      exact Nat.not_succ_le_self _ name
    exact ((decode_encode_request overlong).resolve_right fun written => large written.1).2

end Inspector.Wire
