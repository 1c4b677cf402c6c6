import Inspector.Proofs.Wire.Lengths
import Inspector.Proofs.Wire.Record
import Inspector.Wire.Envelope

/-!
# Envelopes, read from their packed forms

An envelope reads back with its id, and with its body as far as the body reads back. The id alone
is found without a look at the body.
-/

namespace Inspector.Wire

open Pack Outcome

namespace Envelope

variable {β : Type} {kind : String} {print : β → Item} {message : Envelope β}

theorem body_fits (fits : (message.toItem kind print).Fits) : (print message.body).Fits :=
  fits.payload.of_entry "body" (by simp)

/-- A message is as readable as its body is. -/
theorem decode_bytes (fits : (message.toItem kind print).Fits) (body : Bytes → Except Error β) :
    decode kind body (message.toItem kind print).bytes =
      body (print message.body).bytes >>= fun b => .ok { id := message.id, body := b } := by
  have inner := readRecord_bytes fits.payload (Slots.take body) {}
  rw [decode, toItem, read_field_alone fits, ok_bind]
  simp only [ne_eq, not_true, ↓reduceIte, inner, List.foldlM_cons, List.foldlM_nil, Slots.take,
    read_int, ok_bind, pure_eq_ok]
  cases body (print message.body).bytes with
  | error e => rfl
  | ok b => rfl

/-- The fields that the slots of an envelope stand for. -/
def Slots.size (print : β → Item) (slots : Slots β) : Nat :=
  slotSize "id" .int slots.id + slotSize "body" print slots.body

/-- The body that was read, if any, is good. -/
def Slots.Holds (Good : β → Prop) (slots : Slots β) : Prop :=
  ∀ b, slots.body = some b → Good b

theorem gathers {body : Bytes → Except Error β} {Good : β → Prop}
    (each : Yields body Good print) :
    Gathers (Slots.take body) (Slots.Holds Good) (Slots.size print) := by
  intro slots name payload next good done
  unfold Slots.take at done
  split at done
  · obtain ⟨_, _, rfl, longer⟩ := fills_slot yields_int "id" done
    refine ⟨good, ?_⟩
    simp only [Slots.size]
    omega
  · obtain ⟨b, better, rfl, longer⟩ := fills_slot each "body" done
    refine ⟨?_, ?_⟩
    · rintro _ ⟨⟩
      exact better
    · simp only [Slots.size]
      omega
  · exact gathers_skip good done

/-- A message that is read from any bytes can be written. -/
theorem of_decode {body : Bytes → Except Error β} {Good : β → Prop}
    (each : Yields body Good print) {input : Bytes} (done : decode kind body input = .ok message) :
    Good message.body ∧ (message.toItem kind print).Fits := by
  obtain ⟨⟨found, payload⟩, entered, inner⟩ := bind_eq_ok.1 done
  by_cases other : found = kind
  · subst other
    simp only [ne_eq, not_true, ↓reduceIte] at inner
    obtain ⟨slots, read, built⟩ := bind_eq_ok.1 inner
    obtain ⟨id, known, built⟩ := bind_eq_ok.1 built
    obtain ⟨b, held, same⟩ := bind_eq_ok.1 built
    cases same
    obtain ⟨good, shorter⟩ := length_readRecord (gathers each) (by rintro _ ⟨⟩) rfl read
    refine ⟨good b (required_eq_ok.1 held), ?_⟩
    -- the length that was read for the whole message is one that fits
    have small := (length_of_read_field entered).1
    simp only [Slots.size, required_eq_ok.1 known, required_eq_ok.1 held, slotSize] at shorter
    simp only [toItem, Item.Fits, Item.bytes, Item.bytesOfFields, length_block, length_fieldBytes,
      List.length_append, List.length_nil] at small shorter ⊢
    omega
  · simp [other] at inner

end Envelope

/-- The id of a request or a response is found in its packed form. -/
theorem peekId_bytes {β : Type} {kind : String} {print : β → Item} {message : Envelope β}
    (known : kind = "req" ∨ kind = "res") (fits : (message.toItem kind print).Fits) :
    peekId (message.toItem kind print).bytes = .ok message.id := by
  have listed : ¬ (kind ≠ "req" ∧ kind ≠ "res") := by
    rintro ⟨notRequest, notResponse⟩
    exact known.elim notRequest notResponse
  have body : read Pack.map (Item.map [("id", .int message.id), ("body", print message.body)]).bytes
      = .ok (Item.bytesOfFields [("id", .int message.id), ("body", print message.body)]) :=
    read_of_run (run_map fits.payload)
  have parts := fieldsOf_bytesOfFields fun _ present => fits.payload.of_mem_map present
  rw [peekId, Envelope.toItem, read_field_alone fits, ok_bind]
  simp only [listed, ↓reduceIte, body, ok_bind, parts, List.map_cons, firstId, read_int]

end Inspector.Wire
