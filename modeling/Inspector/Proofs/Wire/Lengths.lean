import Inspector.Proofs.Outcome
import Inspector.Proofs.Pack.Lengths
import Inspector.Wire.Record

/-!
# Reading never makes a message longer

Bytes that are no packed form may still be read: fields in another order, fields that come twice
or are not known, bytes after a payload. Whatever is read from them has a packed form that is no
longer than the bytes.
-/

namespace Inspector.Wire

open Pack Outcome

variable {α σ : Type}

/-- Whatever the input, the value read from it is good, and its packed form is no longer. -/
def Yields (decode : Bytes → Except Error α) (Good : α → Prop) (toItem : α → Item) : Prop :=
  ∀ input value, decode input = .ok value →
    Good value ∧ (toItem value).bytes.length ≤ input.length

/-- Any value will do. -/
def Whatever (_ : α) : Prop := True

/-! ## Single items -/

theorem read_eq_ok {reader : Read α} {payload : Bytes} {value : α} :
    read reader payload = .ok value ↔ ∃ rest, reader.run payload = (.ok value, rest) := by
  rw [read, mapError_eq_ok]
  constructor
  · intro done
    exact ⟨(reader.run payload).2, Prod.ext done rfl⟩
  · rintro ⟨rest, done⟩
    rw [done]

/-- A reader that takes the packed form of its result yields that result. -/
theorem yields_read {reader : Read α} {toItem : α → Item}
    (taken : ∀ {input rest : Bytes} {value : α}, reader.run input = (.ok value, rest) →
      (toItem value).bytes.length + rest.length = input.length) :
    Yields (read reader) Whatever toItem := by
  intro input value done
  obtain ⟨rest, run⟩ := read_eq_ok.1 done
  have total := taken run
  exact ⟨trivial, by omega⟩

theorem yields_nil : Yields (read Pack.nil) Whatever fun _ => .nil := yields_read length_nil

theorem yields_bool : Yields (read Pack.bool) Whatever .bool := yields_read length_bool

theorem yields_int : Yields (read Pack.int) Whatever .int := yields_read length_int

theorem yields_float : Yields (read Pack.float) Whatever .float := yields_read length_float

theorem yields_text : Yields (read Pack.text) Whatever .text := yields_read length_text

theorem length_of_read_field {input payload : Bytes} {name : String}
    (done : read Pack.field input = .ok (name, payload)) :
    (fieldBytes name payload).length ≤ maxLength + 5 ∧
      (fieldBytes name payload).length ≤ input.length := by
  obtain ⟨rest, run⟩ := read_eq_ok.1 done
  obtain ⟨small, total⟩ := length_field run
  omega

/-- A field whose payload's packed form is no longer than the payload that was read. -/
theorem length_field_le {input payload : Bytes} {name : String} {item : Item}
    (done : read Pack.field input = .ok (name, payload))
    (shorter : item.bytes.length ≤ payload.length) :
    (Item.field name item).bytes.length ≤ input.length := by
  have total := (length_of_read_field done).2
  rw [length_fieldBytes] at total
  rw [Item.bytes, length_fieldBytes]
  omega

/-! ## Lists -/

theorem length_mapM {item : Bytes → Except Error α} {Good : α → Prop} {toItem : α → Item}
    (each : Yields item Good toItem) {parts : List Bytes} {values : List α}
    (done : parts.mapM item = .ok values) :
    (∀ value ∈ values, Good value) ∧
      (Item.bytesOfItems (values.map toItem)).length ≤ parts.flatten.length := by
  induction parts generalizing values with
  | nil =>
    cases done
    simp [Item.bytesOfItems]
  | cons first rest ih =>
    obtain ⟨value, others, head, later, rfl⟩ := mapM_cons_eq_ok.1 done
    obtain ⟨good, shorter⟩ := each first value head
    obtain ⟨allGood, others_shorter⟩ := ih later
    refine ⟨by simpa using ⟨good, allGood⟩, ?_⟩
    rw [List.map_cons, Item.bytesOfItems, List.flatten_cons, List.length_append, List.length_append]
    omega

/-- A list yields what its items yield. -/
theorem yields_list {item : Bytes → Except Error α} {Good : α → Prop} {toItem : α → Item}
    (each : Yields item Good toItem) :
    Yields (fun payload => readList payload item) (fun values => ∀ value ∈ values, Good value)
      fun values => .list (values.map toItem) := by
  intro payload values done
  obtain ⟨body, entered, items⟩ := bind_eq_ok.1 done
  obtain ⟨read, worked, last⟩ := bind_eq_ok.1 items
  have same : read = values := by
    split at last
    · exact Except.ok.inj last
    · cases last
  subst same
  obtain ⟨rest, run⟩ := read_eq_ok.1 entered
  have total := (length_body run).2
  have parts := length_itemsOf body
  obtain ⟨good, shorter⟩ := length_mapM each worked
  rw [length_block] at total
  refine ⟨good, ?_⟩
  rw [Item.bytes, length_block]
  omega

/-! ## Records -/

/-- How long the field is that a slot stands for; an empty slot stands for none. -/
def slotSize (name : String) (toItem : α → Item) : Option α → Nat
  | none => 0
  | some value => (fieldBytes name (toItem value).bytes).length

/-- One field makes the slots longer by no more than itself, and keeps them good. -/
def Gathers (step : σ → String → Bytes → Except Error σ) (Good : σ → Prop) (size : σ → Nat) :
    Prop :=
  ∀ slots name payload next, Good slots → step slots name payload = .ok next →
    Good next ∧ size next ≤ size slots + (fieldBytes name payload).length

theorem length_foldlM {step : σ → String → Bytes → Except Error σ} {Good : σ → Prop}
    {size : σ → Nat} (each : Gathers step Good size) {parts : List (String × Bytes)}
    {slots final : σ} (good : Good slots)
    (done : parts.foldlM (fun slots (name, value) => step slots name value) slots = .ok final) :
    Good final ∧
      size final ≤ size slots + (parts.flatMap fun entry => fieldBytes entry.1 entry.2).length := by
  induction parts generalizing slots with
  | nil =>
    cases done
    exact ⟨good, Nat.le_add_right _ _⟩
  | cons first rest ih =>
    rw [List.foldlM_cons] at done
    obtain ⟨next, stepped, later⟩ := bind_eq_ok.1 done
    obtain ⟨kept, longer⟩ := each slots first.1 first.2 next good stepped
    obtain ⟨last, total⟩ := ih kept later
    refine ⟨last, ?_⟩
    rw [List.flatMap_cons, List.length_append]
    omega

/-- The fields that a record's slots stand for are no longer than the record. -/
theorem length_readRecord {step : σ → String → Bytes → Except Error σ} {Good : σ → Prop}
    {size : σ → Nat} (each : Gathers step Good size) {payload : Bytes} {slots final : σ}
    (good : Good slots) (empty : size slots = 0)
    (done : readRecord payload step slots = .ok final) :
    Good final ∧ size final + 5 ≤ payload.length := by
  obtain ⟨body, entered, gathered⟩ := bind_eq_ok.1 done
  obtain ⟨read, folded, last⟩ := bind_eq_ok.1 gathered
  have same : read = final := by
    split at last
    · exact Except.ok.inj last
    · cases last
  subst same
  obtain ⟨rest, run⟩ := read_eq_ok.1 entered
  have total := (length_body run).2
  have parts := length_fieldsOf body
  obtain ⟨kept, longer⟩ := length_foldlM each good folded
  rw [length_block] at total
  exact ⟨kept, by omega⟩

/-- A field that fills a slot makes it no longer than the field. -/
theorem fills_slot {decode : Bytes → Except Error α} {Good : α → Prop} {toItem : α → Item}
    (yields : Yields decode Good toItem) (name : String) {payload : Bytes} {fill : α → σ} {next : σ}
    (done : (decode payload >>= fun value => .ok (fill value)) = .ok next) :
    ∃ value, Good value ∧ next = fill value ∧
      slotSize name toItem (some value) ≤ (fieldBytes name payload).length := by
  obtain ⟨value, read, same⟩ := bind_eq_ok.1 done
  obtain ⟨good, shorter⟩ := yields payload value read
  refine ⟨value, good, (Except.ok.inj same).symm, ?_⟩
  rw [slotSize, length_fieldBytes, length_fieldBytes]
  omega

/-- A field that is not known is skipped. -/
theorem gathers_skip {Good : σ → Prop} {size : σ → Nat} {slots next : σ} {payload : Bytes}
    {name : String} (good : Good slots)
    (done : (read Pack.skip payload >>= fun _ => .ok slots) = .ok next) :
    Good next ∧ size next ≤ size slots + (fieldBytes name payload).length := by
  obtain ⟨_, _, same⟩ := bind_eq_ok.1 done
  cases same
  exact ⟨good, Nat.le_add_right _ _⟩

end Inspector.Wire
