import Inspector.Introspection.Request
import Inspector.Proofs.Wire.Request

/-!
# The id of a message, found without its body

Nothing keeps a message from having several fields `id`. Reading the whole message goes through all
of them and keeps the last; looking for the id alone stops at the first. So the two agree exactly
when the first id is the last one as well, in particular when there is only one
(`peeked_id_is_first`), and the reply to a request that fails carries the first
(`id_differs_when_repeated`).
-/

namespace Inspector.Wire

open Pack Outcome

/-! ## Passing over what was read -/

/-- A field that can be read can be passed over. -/
theorem read_skip_of_field {payload : Bytes} {entry : String × Bytes}
    (done : read Pack.field payload = .ok entry) : read Pack.skip payload = .ok () := by
  obtain ⟨rest, run⟩ := read_eq_ok.1 done
  obtain ⟨small, rfl⟩ := eq_of_field run
  exact read_eq_ok.2 ⟨rest, (Layout.block (by simp) small).run_skip rest⟩

/-- The bodies that a reader takes are fields. -/
def ReadsField {β : Type} (body : Bytes → Except Error β) : Prop :=
  ∀ payload b, body payload = .ok b → ∃ entry, read Pack.field payload = .ok entry

theorem readsField_request : ReadsField RequestBody.decode := by
  intro payload b done
  obtain ⟨entry, entered, -⟩ := bind_eq_ok.1 done
  exact ⟨entry, entered⟩

theorem readsField_response : ReadsField ResponseBody.decode := by
  intro payload b done
  obtain ⟨entry, entered, -⟩ := bind_eq_ok.1 done
  exact ⟨entry, entered⟩

/-! ## First and last ids -/

/-- The id that a field gives, if it is one. -/
def idOf? (part : String × Bytes) : Option Int64 :=
  if part.1 = "id" then (read Pack.int part.2).toOption else none

/-- The ids in the envelope of a message, in their order. -/
def envelopeIds (input : Bytes) : List Int64 :=
  match read Pack.field input >>= fun entry => read Pack.map entry.2 with
  | .ok body => (fieldsOf body).parts.filterMap idOf?
  | .error _ => []

namespace Envelope

variable {β : Type} {body : Bytes → Except Error β} {slots next final : Slots β}

/-- A field of an envelope is an id, which takes the place of the one before, or can be passed
over. -/
theorem take_cases (fields : ReadsField body) {part : String × Bytes}
    (done : Slots.take body slots part.1 part.2 = .ok next) :
    (∃ id, part.1 = "id" ∧ read Pack.int part.2 = .ok id ∧ next.id = some id) ∨
      (part.1 ≠ "id" ∧ read Pack.skip part.2 = .ok () ∧ next.id = slots.id) := by
  unfold Slots.take at done
  split at done
  · rename_i isId
    obtain ⟨id, read, same⟩ := bind_eq_ok.1 done
    cases same
    exact .inl ⟨id, isId, read, rfl⟩
  · rename_i isBody
    obtain ⟨b, read, same⟩ := bind_eq_ok.1 done
    cases same
    obtain ⟨entry, entered⟩ := fields _ b read
    exact .inr ⟨by rw [isBody]; decide, read_skip_of_field entered, rfl⟩
  · rename_i notId _
    obtain ⟨_, skipped, same⟩ := bind_eq_ok.1 done
    cases same
    exact .inr ⟨notId, skipped, rfl⟩

/-- Taking all fields keeps the last id, and the search for one stops at the first. -/
theorem ids_of_foldlM (fields : ReadsField body) {parts : List (String × Bytes)}
    (done : parts.foldlM (fun slots part => Slots.take body slots part.1 part.2) slots =
      .ok final) :
    final.id = (parts.filterMap idOf?).getLast?.or slots.id ∧
      ∀ fault first, (parts.filterMap idOf?).head? = some first →
        firstId fault parts = .ok first := by
  induction parts generalizing slots with
  | nil =>
    cases done
    exact ⟨rfl, nofun⟩
  | cons part rest ih =>
    rw [List.foldlM_cons] at done
    obtain ⟨next, stepped, later⟩ := bind_eq_ok.1 done
    obtain ⟨last, search⟩ := ih later
    rcases take_cases fields stepped with ⟨id, isId, read, held⟩ | ⟨notId, skipped, kept⟩
    · have given : idOf? part = some id := by
        rw [idOf?, if_pos isId, read]
        rfl
      rw [List.filterMap_cons_some given]
      refine ⟨?_, fun fault first isFirst => ?_⟩
      · rw [last, held, List.getLast?_cons]
        cases (rest.filterMap idOf?).getLast? <;> rfl
      · cases isFirst
        rw [firstId, if_pos isId, read]
    · have none : idOf? part = none := by rw [idOf?, if_neg notId]
      rw [List.filterMap_cons_none none]
      refine ⟨by rw [last, kept], fun fault first isFirst => ?_⟩
      rw [firstId, if_neg notId, skipped]
      exact search fault first isFirst

/-- What is found of the ids of a message that can be read as a whole. -/
theorem ids_of_decode {kind : String} (known : kind = "req" ∨ kind = "res")
    (fields : ReadsField body) {input : Bytes} {message : Envelope β}
    (done : decode kind body input = .ok message) :
    (envelopeIds input).getLast? = some message.id ∧
      ∀ first, (envelopeIds input).head? = some first → peekId input = .ok first := by
  obtain ⟨⟨found, payload⟩, entered, inner⟩ := bind_eq_ok.1 done
  by_cases other : found = kind
  · subst other
    simp only [ne_eq, not_true, ↓reduceIte] at inner
    obtain ⟨slots, gathered, built⟩ := bind_eq_ok.1 inner
    obtain ⟨id, held, built⟩ := bind_eq_ok.1 built
    obtain ⟨b, _, same⟩ := bind_eq_ok.1 built
    cases same
    obtain ⟨body, opened, folded⟩ := bind_eq_ok.1 gathered
    obtain ⟨final, taken, last⟩ := bind_eq_ok.1 folded
    have kept : final = slots := by
      split at last
      · exact Except.ok.inj last
      · cases last
    subst kept
    have ids : envelopeIds input = (fieldsOf body).parts.filterMap idOf? := by
      rw [envelopeIds, entered, ok_bind, opened]
    have listed : ¬ (found ≠ "req" ∧ found ≠ "res") := by
      rintro ⟨notRequest, notResponse⟩
      exact known.elim notRequest notResponse
    obtain ⟨lastId, search⟩ := ids_of_foldlM fields taken
    rw [ids]
    refine ⟨?_, fun first isFirst => ?_⟩
    · rw [required_eq_ok.1 held, Option.or_none] at lastId
      exact lastId.symm
    · rw [peekId, entered, ok_bind]
      simp only [listed, ↓reduceIte, opened, ok_bind]
      exact search _ first isFirst
  · simp [other] at inner

end Envelope

/-! ## The id of a reply -/

/-- The reply to a request that failed carries the id that was found without its body. -/
theorem failureReply_eq {input : Bytes} {id : Int64} (peeked : peekId input = .ok id)
    {message : String} {reply : Bytes}
    (encoded : Response.encode (Response.failure id message) = .ok reply) :
    failureReply input message = reply := by
  -- unfolding by its equation would first have to prove that equation, which is slow
  delta failureReply
  rw [peeked]
  dsimp only
  rw [encoded]

/-- What holds of the ids of a message that reads as one with the given id: that id is the last in
the envelope, while the one found without the body, which the reply to a failed request carries, is
the first. -/
structure Peeks (input : Bytes) (id : Int64) : Prop where
  last : (envelopeIds input).getLast? = some id
  first : ∃ first, (envelopeIds input).head? = some first ∧ peekId input = .ok first ∧
    ∀ message reply, Response.encode (Response.failure first message) = .ok reply →
      failureReply input message = reply

theorem Peeks.of_decode {β : Type} {body : Bytes → Except Error β} {kind : String}
    (known : kind = "req" ∨ kind = "res") (fields : ReadsField body) {input : Bytes}
    {message : Envelope β} (done : Envelope.decode kind body input = .ok message) :
    Peeks input message.id := by
  obtain ⟨last, search⟩ := Envelope.ids_of_decode known fields done
  cases ids : envelopeIds input with
  | nil =>
    rw [ids] at last
    cases last
  | cons first rest =>
    have peeked := search first (by rw [ids]; rfl)
    exact ⟨last, first, by rw [ids]; rfl, peeked, fun _ _ => failureReply_eq peeked⟩

theorem Peeks.peekId_eq_iff {input : Bytes} {id : Int64} (peeks : Peeks input id) :
    peekId input = .ok id ↔ (envelopeIds input).head? = some id := by
  obtain ⟨first, isFirst, peeked, -⟩ := peeks.first
  rw [peeked, isFirst, Except.ok.injEq, Option.some.injEq]

theorem Peeks.of_single {input : Bytes} {id : Int64} (peeks : Peeks input id)
    (single : (envelopeIds input).length = 1) : peekId input = .ok id := by
  obtain ⟨only, ids⟩ := List.length_eq_one_iff.1 single
  have last := peeks.last
  rw [peeks.peekId_eq_iff, ids]
  rwa [ids] at last

theorem Response.peeks {input : Bytes} {response : Response}
    (done : Response.decode input = .ok response) : Peeks input response.id := by
  obtain ⟨read, envelope, last⟩ := bind_eq_ok.1 done
  split at last
  · cases last
  · cases last
    exact .of_decode (.inr rfl) readsField_response envelope

/-- Whatever bytes read as a request or as a response: its id is the last in the envelope, and the
id that is found without the body is the first. The two are the same exactly when the first id is
also the last, as it is when there is one only. -/
theorem peeked_id_is_first (input : Bytes) (id : Int64)
    (done : (∃ body, Request.decode input = .ok { id, body }) ∨
      ∃ body, Response.decode input = .ok { id, body }) :
    Peeks input id ∧ (peekId input = .ok id ↔ (envelopeIds input).head? = some id) ∧
      ((envelopeIds input).length = 1 → peekId input = .ok id) := by
  have peeks : Peeks input id := by
    rcases done with ⟨body, request⟩ | ⟨body, response⟩
    · exact .of_decode (.inl rfl) readsField_request request
    · exact Response.peeks response
  exact ⟨peeks, peeks.peekId_eq_iff, peeks.of_single⟩

/-- A request with two ids, its body between them. -/
def twiceNumbered : Item :=
  .field "req" (.map [("id", .int 1), ("body", RequestBody.processStatus.toItem), ("id", .int 2)])

theorem envelopeIds_twiceNumbered : envelopeIds twiceNumbered.bytes = [1, 2] := by
  decide +kernel

theorem decode_twiceNumbered :
    Request.decode twiceNumbered.bytes = .ok { id := 2, body := .processStatus } := by
  have fits : twiceNumbered.Fits := by decide +kernel
  have body : RequestBody.decode RequestBody.processStatus.toItem.bytes = .ok .processStatus :=
    RequestBody.decode_bytes (by decide +kernel)
  have inner := readRecord_bytes fits.payload (Envelope.Slots.take RequestBody.decode) {}
  rw [Request.decode, Envelope.decode, twiceNumbered, read_field_alone fits, ok_bind]
  simp only [ne_eq, not_true, ↓reduceIte, inner, List.foldlM_cons, List.foldlM_nil,
    Envelope.Slots.take, read_int, body, ok_bind, pure_eq_ok]
  rfl

/-- The request is read under its second id, and is replied to under its first if it fails. -/
theorem id_differs_when_repeated :
    Request.decode twiceNumbered.bytes = .ok { id := 2, body := .processStatus } ∧
      peekId twiceNumbered.bytes = .ok 1 ∧ peekId twiceNumbered.bytes ≠ .ok 2 := by
  have peeks := Peeks.of_decode (.inl rfl) readsField_request decode_twiceNumbered
  obtain ⟨first, isFirst, peeked, -⟩ := peeks.first
  rw [envelopeIds_twiceNumbered] at isFirst
  cases isFirst
  rw [peeked]
  exact ⟨decode_twiceNumbered, rfl, fun same => absurd (Except.ok.inj same) (by decide)⟩

/-- Of the two ids of the request, the second is its own and the first is the one found without its
body. -/
theorem peeked_id_is_first_repeated :
    Request.decode twiceNumbered.bytes = .ok { id := 2, body := .processStatus } ∧
      Peeks twiceNumbered.bytes 2 ∧ peekId twiceNumbered.bytes ≠ .ok 2 := by
  obtain ⟨peeks, agree, -⟩ :=
    peeked_id_is_first twiceNumbered.bytes 2 (.inl ⟨_, decode_twiceNumbered⟩)
  rw [envelopeIds_twiceNumbered] at agree
  exact ⟨decode_twiceNumbered, peeks, fun same => absurd (agree.1 same) (by decide)⟩

end Inspector.Wire
