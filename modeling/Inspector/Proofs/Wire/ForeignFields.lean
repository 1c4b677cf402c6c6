import Mathlib.Data.List.Basic
import Inspector.Proofs.Wire.Request

/-!
# Fields of other questions

All questions are gathered in one set of slots, so a question is read together with fields that
only other questions have. A field that no question has is passed over. A field of another question
has to hold what its name stands for there, or the whole request cannot be read; and the names of a
field and of a method stand in for each other, the last one counts.

`Detail.of?` says what a field of a question holds, and `Slots.note` where it goes.
`decode_among_foreign_fields` says for every question and any further fields what is read.
-/

namespace Inspector.Pack.Item

/-! ## What an item is -/

def text? : Item → Option String
  | text value => some value
  | _ => none

def int? : Item → Option Int64
  | int value => some value
  | _ => none

def bool? : Item → Option Bool
  | bool value => some value
  | _ => none

/-- The texts of a list of texts. -/
def texts? : Item → Option (List String)
  | list items => items.mapM text?
  | _ => none

theorem texts?_map (values : List String) : texts? (list (values.map text)) = some values := by
  rw [texts?, List.mapM_map]
  exact (List.mapM_pure).trans (congrArg some (List.map_id values))

end Inspector.Pack.Item

namespace Inspector.Wire

open Pack Outcome

/-- The target that an item stands for. -/
def Target.ofItem? : Item → Option Target
  | .field kind payload =>
    match kind with
    | "class" => payload.text?.map cls
    | "object" => payload.int?.map object
    | _ => none
  | _ => none

/-- Of packed items, a reader takes exactly those that stand for something, as that. -/
def Recognises {α : Type} (decode : Bytes → Except Error α) (of? : Item → Option α) : Prop :=
  ∀ item, item.Fits → (decode item.bytes).toOption = of? item

variable {α β : Type}

theorem run_expectTag_of_ne {tag : Tag} {item : Item} (other : item.tag ≠ tag) :
    (expectTag tag).run item.bytes = (.error (.invalidTag item.tag.byte), item.bytes) := by
  obtain ⟨rest, same⟩ := item.bytes_eq_cons
  simp [same, expectTag, run_peekTag, other]

/-- A reader that wants another tag takes nothing. -/
theorem read_of_other_tag {tag : Tag} {item : Item} (other : item.tag ≠ tag)
    (next : Unit → Read α) :
    (read (expectTag tag >>= next) item.bytes).toOption = none := by
  rw [read, Read.run_bind, run_expectTag_of_ne other]
  rfl

theorem read_body_of_other_tag {tag : Tag} {item : Item} (other : item.tag ≠ tag)
    (next : Bytes → Read α) :
    (read (body tag >>= next) item.bytes).toOption = none := by
  rw [read, Read.run_bind, body, Read.run_bind, run_expectTag_of_ne other]
  rfl

theorem recognises_text : Recognises (read Pack.text) Item.text? := by
  intro item fits
  cases item with
  | text value => rw [read_text fits]; rfl
  | bool value => exact read_body_of_other_tag (by cases value <;> decide) _
  | _ => exact read_body_of_other_tag (by simp [Item.tag]) _

theorem recognises_int : Recognises (read Pack.int) Item.int? := by
  intro item fits
  cases item with
  | int value => rw [read_int]; rfl
  | bool value => exact read_of_other_tag (by cases value <;> decide) _
  | _ => exact read_of_other_tag (by simp [Item.tag]) _

theorem recognises_bool : Recognises (read Pack.bool) Item.bool? := by
  intro item fits
  obtain ⟨rest, same⟩ := item.bytes_eq_cons
  cases item with
  | bool value => rw [read_bool]; rfl
  | _ => simp [read, Pack.bool, same, run_peekTag, Item.tag]; rfl

/-- The texts of a list are read one by one, and all have to be texts. -/
theorem recognises_texts :
    Recognises (fun payload => readList payload (read Pack.text)) Item.texts? := by
  have other {item : Item} (differ : item.tag ≠ .list) :
      (readList item.bytes (read Pack.text)).toOption = none := by
    rw [readList, toOption_bind, Pack.list, body, read_of_other_tag differ]
    rfl
  intro item fits
  cases item with
  | list items =>
    refine (congrArg _ (readList_bytes fits _)).trans ?_
    exact toOption_mapM fun item present => recognises_text item (fits.of_mem_list present)
  | bool value => exact other (by cases value <;> decide)
  | _ => exact other (by simp [Item.tag])

theorem recognises_target : Recognises Target.decode Target.ofItem? := by
  have other {item : Item} (differ : item.tag ≠ .field) :
      (Target.decode item.bytes).toOption = none := by
    rw [Target.decode, toOption_bind, Pack.field, read_body_of_other_tag differ]
    rfl
  intro item fits
  cases item with
  | field name payload =>
    rw [Target.decode, read_field_alone fits, ok_bind]
    by_cases isClass : name = "class"
    · subst isClass
      simp only [Target.ofItem?, toOption_bind, recognises_text payload fits.payload]
      cases payload.text? <;> rfl
    · by_cases isObject : name = "object"
      · subst isObject
        simp only [Target.ofItem?, toOption_bind, recognises_int payload fits.payload]
        cases payload.int? <;> rfl
      · simp only [Target.ofItem?]
        rfl
  | bool value => exact other (by cases value <;> decide)
  | _ => exact other (by simp [Item.tag])

namespace RequestBody

/-! ## What the fields of a question hold -/

/-- What a field says about a question. -/
inductive Detail where
  | className (name : String)
  | objectId (id : Int64)
  | target (target : Target)
  | member (name : String)
  | hints (hints : List String)
  | enabled (on : Bool)
  /-- The field is none that a question has. -/
  | unknown

namespace Detail

/-- What a field says; `none` if it does not hold what its name stands for. -/
def of? (name : String) (payload : Item) : Option Detail :=
  match name with
  | "class_name" => payload.text?.map className
  | "object_id" => payload.int?.map objectId
  | "target" => (Target.ofItem? payload).map target
  | "field" | "method" => payload.text?.map member
  | "hints" => payload.texts?.map hints
  | "enabled" => payload.bool?.map enabled
  | _ => some unknown

/-- The names of all fields that questions have. -/
def names : List String :=
  ["class_name", "object_id", "target", "field", "method", "hints", "enabled"]

/-- The names of the fields that may say so. -/
def sources : Detail → List String
  | className _ => ["class_name"]
  | objectId _ => ["object_id"]
  | target _ => ["target"]
  | member _ => ["field", "method"]
  | hints _ => ["hints"]
  | enabled _ => ["enabled"]
  | unknown => []

theorem mem_sources {name : String} {payload : Item} {detail : Detail}
    (said : of? name payload = some detail) : detail = unknown ∨ name ∈ detail.sources := by
  unfold of? at said
  split at said
  case h_8 => exact .inl (Option.some.inj said).symm
  all_goals
    obtain ⟨value, -, rfl⟩ := Option.map_eq_some_iff.1 said
    simp [sources]

theorem of?_of_not_mem {name : String} (new : name ∉ names) (payload : Item) :
    of? name payload = some unknown := by
  unfold of?
  split <;> simp_all [names]

end Detail

/-- Puts what a field says into its slot. -/
def Slots.note (slots : Slots) : Detail → Slots
  | .className name => { slots with className := some name }
  | .objectId id => { slots with objectId := some id }
  | .target target => { slots with target := some target }
  | .member name => { slots with member := some name }
  | .hints hints => { slots with hints := some hints }
  | .enabled on => { slots with enabled := some on }
  | .unknown => slots

theorem toOption_take (slots : Slots) (name : String) {payload : Item} (fits : payload.Fits) :
    (slots.take name payload.bytes).toOption = (Detail.of? name payload).map slots.note := by
  have filled {α : Type} {decode : Bytes → Except Error α} {of? : Item → Option α}
      (recognises : Recognises decode of?) (detail : α → Detail) :
      (decode payload.bytes >>= fun value => Except.ok (slots.note (detail value))).toOption =
        ((of? payload).map detail).map slots.note := by
    rw [toOption_bind, recognises payload fits]
    cases of? payload <;> rfl
  unfold Slots.take
  split
  · exact filled recognises_text .className
  · exact filled recognises_int .objectId
  · exact filled recognises_target .target
  · exact filled recognises_text .member
  · exact filled recognises_text .member
  · exact filled recognises_texts .hints
  · exact filled recognises_bool .enabled
  · have new : name ∉ Detail.names := by simp_all [Detail.names]
    rw [read_of_run (run_skip fits), Detail.of?_of_not_mem new]
    rfl

/-- Fields are gathered if each of them holds what its name stands for. -/
theorem toOption_foldlM_take {fields : List (String × Item)}
    (fits : ∀ entry ∈ fields, entry.2.Fits) (slots : Slots) :
    (fields.foldlM (fun slots entry => Slots.take slots entry.1 entry.2.bytes) slots).toOption =
      (fields.mapM fun entry => Detail.of? entry.1 entry.2).map (List.foldl Slots.note slots) := by
  induction fields generalizing slots with
  | nil => rfl
  | cons first rest ih =>
    rw [List.foldlM_cons, List.mapM_cons, toOption_bind,
      toOption_take slots first.1 (fits first List.mem_cons_self)]
    cases Detail.of? first.1 first.2 with
    | none => rfl
    | some detail =>
      refine (ih (fun entry later => fits entry (List.mem_cons_of_mem _ later)) _).trans ?_
      cases rest.mapM fun entry => Detail.of? entry.1 entry.2 <;> rfl

/-! ## What the slots hold in the end -/

/-- What a field says for one of the slots, if it says anything for it. -/
def saidFor {α : Type} (slot : Slots → Option α) (entry : String × Item) : Option α :=
  (Detail.of? entry.1 entry.2).bind fun detail => slot (Slots.note {} detail)

/-- A slot is empty at first, and a field fills it or leaves it alone. -/
structure IsSlot {α : Type} (slot : Slots → Option α) : Prop where
  empty : slot {} = none
  note : ∀ slots detail,
    slot (Slots.note slots detail) = (slot (Slots.note {} detail)).or (slot slots)

theorem isSlot_className : IsSlot (·.className) := ⟨rfl, by rintro slots (_ | _) <;> rfl⟩

theorem isSlot_objectId : IsSlot (·.objectId) := ⟨rfl, by rintro slots (_ | _) <;> rfl⟩

theorem isSlot_target : IsSlot (·.target) := ⟨rfl, by rintro slots (_ | _) <;> rfl⟩

theorem isSlot_member : IsSlot (·.member) := ⟨rfl, by rintro slots (_ | _) <;> rfl⟩

theorem isSlot_hints : IsSlot (·.hints) := ⟨rfl, by rintro slots (_ | _) <;> rfl⟩

theorem isSlot_enabled : IsSlot (·.enabled) := ⟨rfl, by rintro slots (_ | _) <;> rfl⟩

section Slots

variable {α : Type} {slot : Slots → Option α} {fields wider : List (String × Item)}
  {details : List Detail}

/-- A slot keeps what the last field for it has said. -/
theorem slot_of_noted (isSlot : IsSlot slot)
    (read : (fields.mapM fun entry => Detail.of? entry.1 entry.2) = some details) (slots : Slots) :
    slot (details.foldl Slots.note slots) =
      (fields.filterMap (saidFor slot)).getLast?.or (slot slots) := by
  induction fields generalizing details slots with
  | nil =>
    cases read
    rfl
  | cons first rest ih =>
    rw [List.mapM_cons] at read
    obtain ⟨detail, here, read⟩ := Option.bind_eq_some_iff.1 read
    obtain ⟨others, later, read⟩ := Option.bind_eq_some_iff.1 read
    cases read
    have told : saidFor slot first = slot (Slots.note {} detail) := by rw [saidFor, here]; rfl
    rw [List.foldl_cons, ih later, isSlot.note, List.filterMap_cons, told]
    cases slot (Slots.note {} detail) with
    | none => rfl
    | some value =>
      rw [List.getLast?_cons]
      cases (rest.filterMap (saidFor slot)).getLast? <;> rfl

/-- Nothing is added by fields that say nothing. -/
theorem filterMap_inserted {tells : String × Item → Option α}
    (inserted : wider.filter (·.1 ∈ fields.map (·.1)) = fields)
    (silent : ∀ entry ∈ wider, entry.1 ∉ fields.map (·.1) → tells entry = none) :
    wider.filterMap tells = fields.filterMap tells := by
  conv => rhs; rw [← inserted]
  rw [List.filterMap_filter]
  refine List.filterMap_congr fun entry present => ?_
  split
  · rfl
  · rename_i foreign
    exact silent entry present (by simpa using foreign)

/-- A slot for which only the fields of one question say something holds what they say, whatever
other fields stand between them. -/
theorem slot_of_inserted (isSlot : IsSlot slot)
    (own : ∀ detail, detail.sources ⊆ fields.map (·.1) ∨ slot (Slots.note {} detail) = none)
    (inserted : wider.filter (·.1 ∈ fields.map (·.1)) = fields)
    (read : (wider.mapM fun entry => Detail.of? entry.1 entry.2) = some details) :
    slot (details.foldl Slots.note {}) = (fields.filterMap (saidFor slot)).getLast? := by
  have silent (entry : String × Item) (foreign : entry.1 ∉ fields.map (·.1)) :
      saidFor slot entry = none := by
    cases said : Detail.of? entry.1 entry.2 with
    | none => rw [saidFor, said]; rfl
    | some detail =>
      rw [saidFor, said]
      rcases own detail with known | none
      · rcases Detail.mem_sources said with rfl | named
        · exact isSlot.empty
        · exact (foreign (known named)).elim
      · exact none
  rw [slot_of_noted isSlot read, isSlot.empty, Option.or_none,
    filterMap_inserted inserted fun entry _ => silent entry]

end Slots

/-! ## What is read of a question -/

/-- The name of a member that a field gives, be it that of a field or that of a method. -/
def memberName? (entry : String × Item) : Option String :=
  if entry.1 = "field" ∨ entry.1 = "method" then entry.2.text? else none

theorem saidFor_member : saidFor (·.member) = memberName? := by
  funext ⟨name, payload⟩
  have known : (saidFor (·.member) ("field", payload) = payload.text?) ∧
      saidFor (·.member) ("method", payload) = payload.text? := by
    unfold saidFor Detail.of?
    cases payload.text? <;> exact ⟨rfl, rfl⟩
  rw [memberName?]
  split
  · rename_i member
    rcases member with rfl | rfl
    · exact known.1
    · exact known.2
  · rename_i other
    rw [saidFor]
    cases said : Detail.of? name payload with
    | none => rfl
    | some detail =>
      rcases Detail.mem_sources said with rfl | named
      · rfl
      · cases detail with
        | member _ => exact (other (by simpa [Detail.sources] using named)).elim
        | _ => rfl

/-- The question with another name for the member that it asks for, if it asks for one. -/
def naming (body : RequestBody) (name : Option String) : RequestBody :=
  match body, name with
  | fieldSignature target _, some name => fieldSignature target name
  | methodSignature target _ hints, some name => methodSignature target name hints
  | other, _ => other

section Question

variable {kind : String} {fields wider : List (String × Item)}

/-- A question is read if its fields are, and can be built from what they say. -/
theorem decode_of_build {body : RequestBody} (question : Detailed)
    (fits : (Item.field kind (.map wider)).Fits) (named : Detailed.ofName? kind = some question)
    (built : ∀ details, (wider.mapM fun entry => Detail.of? entry.1 entry.2) = some details →
      question.build (details.foldl Slots.note {}) = .ok body) :
    (decode (Item.field kind (.map wider)).bytes).toOption =
      (wider.mapM fun entry => Detail.of? entry.1 entry.2).map fun _ => body := by
  have each : ∀ entry ∈ wider, entry.2.Fits := fun entry present =>
    (fits.payload.of_mem_map present).payload
  have gathered := toOption_foldlM_take each {}
  rw [decode_detailed question fits named, toOption_bind, gathered]
  cases read : wider.mapM fun entry => Detail.of? entry.1 entry.2 with
  | none => rfl
  | some details =>
    rw [Option.map_some, Option.bind_some, built details read]
    rfl

/-- The slot for members holds the last name of one that was given. -/
theorem member_of_inserted {details : List Detail}
    (inserted : wider.filter (·.1 ∈ fields.map (·.1)) = fields)
    (given : ∃ entry ∈ fields, ∃ name, memberName? entry = some name)
    (read : (wider.mapM fun entry => Detail.of? entry.1 entry.2) = some details) :
    ∃ last, (wider.filterMap memberName?).getLast? = some last ∧
      (details.foldl Slots.note {}).member = some last := by
  obtain ⟨entry, written, name, gives⟩ := given
  have among : entry ∈ wider := (List.mem_filter.1 (inserted ▸ written)).1
  have some : name ∈ wider.filterMap memberName? := List.mem_filterMap.2 ⟨entry, among, gives⟩
  obtain ⟨last, isLast⟩ := Option.isSome_iff_exists.1
    (List.getLast?_isSome.2 (List.ne_nil_of_mem some))
  refine ⟨last, isLast, ?_⟩
  rw [slot_of_noted isSlot_member read, saidFor_member, isLast]
  rfl

/-- A question with any further fields is read if each field holds what its name stands for, and
then as itself, but for the name of its member. -/
theorem decode_inserted {body : RequestBody} (detailed : body.toItem = .field kind (.map fields))
    (inserted : wider.filter (·.1 ∈ fields.map (·.1)) = fields)
    (fits : (Item.field kind (.map wider)).Fits) :
    (decode (Item.field kind (.map wider)).bytes).toOption =
      (wider.mapM fun entry => Detail.of? entry.1 entry.2).map fun _ =>
        body.naming (wider.filterMap memberName?).getLast? := by
  cases body with
  | loadedClasses => cases detailed
  | processStatus => cases detailed
  | staticFields className =>
    cases detailed
    refine decode_of_build .staticFields fits rfl fun details read => ?_
    have name := slot_of_inserted isSlot_className
      (by rintro (_ | _) <;> simp [Slots.note, Detail.sources]) inserted read
    rw [Detailed.build, name]
    rfl
  | objectFields objectId =>
    cases detailed
    refine decode_of_build .objectFields fits rfl fun details read => ?_
    have id := slot_of_inserted isSlot_objectId
      (by rintro (_ | _) <;> simp [Slots.note, Detail.sources]) inserted read
    rw [Detailed.build, id]
    rfl
  | readSequence objectId =>
    cases detailed
    refine decode_of_build .readSequence fits rfl fun details read => ?_
    have id := slot_of_inserted isSlot_objectId
      (by rintro (_ | _) <;> simp [Slots.note, Detail.sources]) inserted read
    rw [Detailed.build, id]
    rfl
  | setLogStream enabled =>
    cases detailed
    refine decode_of_build .setLogStream fits rfl fun details read => ?_
    have on := slot_of_inserted isSlot_enabled
      (by rintro (_ | _) <;> simp [Slots.note, Detail.sources]) inserted read
    rw [Detailed.build, on]
    rfl
  | fieldSignature target field =>
    cases detailed
    refine decode_of_build .fieldSignature fits rfl fun details read => ?_
    have aim := slot_of_inserted isSlot_target
      (by rintro (_ | _) <;> simp [Slots.note, Detail.sources]) inserted read
    obtain ⟨last, isLast, member⟩ := member_of_inserted inserted
      ⟨("field", .text field), by simp, field, rfl⟩ read
    rw [Detailed.build, aim, isLast, member]
    cases target <;> rfl
  | methodSignature target method hints =>
    cases detailed
    refine decode_of_build .methodSignature fits rfl fun details read => ?_
    have aim := slot_of_inserted isSlot_target
      (by rintro (_ | _) <;> simp [Slots.note, Detail.sources]) inserted read
    have list := slot_of_inserted isSlot_hints
      (by rintro (_ | _) <;> simp [Slots.note, Detail.sources]) inserted read
    obtain ⟨last, isLast, member⟩ := member_of_inserted inserted
      ⟨("method", .text method), by simp, method, rfl⟩ read
    have hinted : Detail.of? "hints" (.list (hints.map .text)) = some (.hints hints) := by
      rw [Detail.of?, Item.texts?_map]
      rfl
    have aimed : Detail.of? "target" target.toItem = some (.target target) := by
      cases target <;> rfl
    have named : Detail.of? "method" (.text method) = some (.member method) := rfl
    simp only [List.filterMap_cons, List.filterMap_nil, saidFor, aimed, named, hinted,
      Option.bind_some, Slots.note, List.getLast?_singleton] at aim list
    rw [Detailed.build, aim, isLast, member, list]
    rfl

end Question

end RequestBody

/-! ## Requests -/

namespace RequestBody

/-- A field holds what its name stands for in questions, if it stands for anything. -/
def Suits (entry : String × Item) : Prop :=
  (Detail.of? entry.1 entry.2).isSome

instance (entry : String × Item) : Decidable (Suits entry) :=
  inferInstanceAs (Decidable (_ = true))

/-- What a question is written with suits. -/
theorem suits_of_written {body : RequestBody} {kind : String} {fields : List (String × Item)}
    (detailed : body.toItem = .field kind (.map fields)) : ∀ entry ∈ fields, Suits entry := by
  have aim (target : Target) : Suits ("target", target.toItem) := by cases target <;> rfl
  have list (hints : List String) : Suits ("hints", .list (hints.map .text)) := by
    rw [Suits, Detail.of?, Item.texts?_map]
    rfl
  cases body with
  | loadedClasses => cases detailed
  | processStatus => cases detailed
  | fieldSignature target field =>
    cases detailed
    exact List.forall_mem_cons.2 ⟨aim target, List.forall_mem_singleton.2 rfl⟩
  | methodSignature target method hints =>
    cases detailed
    exact List.forall_mem_cons.2 ⟨aim target, List.forall_mem_cons.2
      ⟨rfl, List.forall_mem_singleton.2 (list hints)⟩⟩
  | _ =>
    cases detailed
    exact List.forall_mem_singleton.2 rfl

section Question

variable {body : RequestBody} {kind : String} {fields wider : List (String × Item)}

theorem decode_of_suits (detailed : body.toItem = .field kind (.map fields))
    (inserted : wider.filter (·.1 ∈ fields.map (·.1)) = fields)
    (fits : (Item.field kind (.map wider)).Fits)
    (suits : ∀ entry ∈ wider, entry.1 ∉ fields.map (·.1) → Suits entry) :
    decode (Item.field kind (.map wider)).bytes =
      .ok (body.naming (wider.filterMap memberName?).getLast?) := by
  have each : ∀ entry ∈ wider, Suits entry := by
    intro entry present
    by_cases own : entry.1 ∈ fields.map (·.1)
    · have written : entry ∈ fields := inserted ▸ List.mem_filter.2 ⟨present, decide_eq_true own⟩
      exact suits_of_written detailed entry written
    · exact suits entry present own
  obtain ⟨details, read⟩ := Option.isSome_iff_exists.1 (isSome_mapM_iff.2 each)
  have same := decode_inserted detailed inserted fits
  rw [read, Option.map_some] at same
  exact eq_ok_of_toOption same

theorem decode_of_unsuited (detailed : body.toItem = .field kind (.map fields))
    (inserted : wider.filter (·.1 ∈ fields.map (·.1)) = fields)
    (fits : (Item.field kind (.map wider)).Fits) (unsuited : ∃ entry ∈ wider, ¬ Suits entry) :
    ∃ e, decode (Item.field kind (.map wider)).bytes = .error e := by
  have same := decode_inserted detailed inserted fits
  cases read : wider.mapM fun entry => Detail.of? entry.1 entry.2 with
  | some details =>
    obtain ⟨entry, present, not⟩ := unsuited
    have each := isSome_mapM_iff.1 (Option.isSome_of_mem read)
    exact (not (each entry present)).elim
  | none =>
    rw [read] at same
    cases failed : decode (Item.field kind (.map wider)).bytes with
    | error e => exact ⟨e, rfl⟩
    | ok body =>
      rw [failed] at same
      cases same

/-- Fields that no question has give no name to a member. -/
theorem naming_of_new (detailed : body.toItem = .field kind (.map fields))
    (inserted : wider.filter (·.1 ∈ fields.map (·.1)) = fields)
    (new : ∀ entry ∈ wider, entry.1 ∉ fields.map (·.1) → entry.1 ∉ Detail.names) :
    body.naming (wider.filterMap memberName?).getLast? = body := by
  have silent : ∀ entry ∈ wider, entry.1 ∉ fields.map (·.1) → memberName? entry = none := by
    intro entry present foreign
    refine if_neg fun member => new entry present foreign ?_
    rcases member with same | same <;> rw [same] <;> decide
  rw [filterMap_inserted inserted silent]
  cases body <;> cases detailed <;> rfl

end Question

end RequestBody

open RequestBody in
/-- A request has a question with details, and further fields under other names stand at any places
among them.

* If every further field suits, the request is read as itself, but for the name of a member: of the
  names given for a field or a method, the last one is taken.
* If one does not suit, the request cannot be read.
* So fields that no question has change nothing. -/
theorem Request.decode_among_foreign_fields (request : Request) {kind : String}
    {fields wider : List (String × Item)}
    (detailed : request.body.toItem = .field kind (.map fields))
    (inserted : wider.filter (·.1 ∈ fields.map (·.1)) = fields) {written : Bytes}
    (packed : pack (request.toItem "req" fun _ => .field kind (.map wider)) = .ok written) :
    ((∀ entry ∈ wider, entry.1 ∉ fields.map (·.1) → Suits entry) →
      Request.decode written = .ok { request with
        body := request.body.naming (wider.filterMap memberName?).getLast? }) ∧
    ((∃ entry ∈ wider, ¬ Suits entry) → ∃ e, Request.decode written = .error e) ∧
    ((∀ entry ∈ wider, entry.1 ∉ fields.map (·.1) → entry.1 ∉ Detail.names) →
      Request.decode written = .ok request) := by
  obtain ⟨fits, rfl⟩ := pack_eq_ok_iff.1 packed
  have inside : (Item.field kind (.map wider)).Fits := Envelope.body_fits fits
  have envelope := Envelope.decode_bytes fits RequestBody.decode
  have suited (suits : ∀ entry ∈ wider, entry.1 ∉ fields.map (·.1) → Suits entry) :
      Request.decode _ = _ :=
    envelope.trans (congrArg (· >>= _) (decode_of_suits detailed inserted inside suits))
  refine ⟨suited, fun unsuited => ?_, fun new => (suited fun entry present foreign => ?_).trans ?_⟩
  · obtain ⟨e, failed⟩ := decode_of_unsuited detailed inserted inside unsuited
    exact ⟨e, envelope.trans (congrArg (· >>= _) failed)⟩
  · rw [Suits, Detail.of?_of_not_mem (new entry present foreign)]
    rfl
  · rw [naming_of_new detailed inserted new]
    rfl

/-- A question for a field. -/
def coinsField : RequestBody := .fieldSignature (.cls "shop.Till") "coins"

/-- The fields that it is written with. -/
def coinsDetails : List (String × Item) :=
  [("target", .field "class" (.text "shop.Till")), ("field", .text "coins")]

/-- The request for it, with the given fields. -/
def coinsRequest (details : List (String × Item)) : Item :=
  Envelope.toItem "req" (fun _ => .field "FieldSignature" (.map details))
    { id := 7, body := coinsField }

theorem toItem_coinsField : coinsField.toItem = .field "FieldSignature" (.map coinsDetails) := rfl

/-- With a field `method` behind it the question is read as one for another field, and with a number
in place of a class name it cannot be read. -/
theorem Request.foreign_fields_not_skipped :
    (∃ written, pack (coinsRequest (coinsDetails ++ [("method", .text "spend")])) = .ok written ∧
      Request.decode written =
        .ok { id := 7, body := .fieldSignature (.cls "shop.Till") "spend" } ∧
      Request.decode written ≠ .ok { id := 7, body := coinsField }) ∧
    ∃ written e, pack (coinsRequest (coinsDetails ++ [("class_name", .int 3)])) = .ok written ∧
      Request.decode written = .error e := by
  refine ⟨?_, ?_⟩
  · have fits : (coinsRequest (coinsDetails ++ [("method", .text "spend")])).Fits := by
      decide +kernel
    have suited := RequestBody.decode_of_suits toItem_coinsField (by simp [coinsDetails])
      (Envelope.body_fits fits) (by decide +kernel)
    have read : Request.decode (coinsRequest (coinsDetails ++ [("method", .text "spend")])).bytes =
        .ok { id := 7, body := .fieldSignature (.cls "shop.Till") "spend" } :=
      (Envelope.decode_bytes fits RequestBody.decode).trans (congrArg (· >>= _) suited)
    refine ⟨_, pack_eq_ok_iff.2 ⟨fits, rfl⟩, read, fun same => ?_⟩
    rw [read] at same
    exact absurd (Except.ok.inj same) (by decide)
  · have fits : (coinsRequest (coinsDetails ++ [("class_name", .int 3)])).Fits := by
      decide +kernel
    obtain ⟨e, failed⟩ := RequestBody.decode_of_unsuited toItem_coinsField
      (by simp [coinsDetails]) (Envelope.body_fits fits) (by decide +kernel)
    exact ⟨_, e, pack_eq_ok_iff.2 ⟨fits, rfl⟩,
      (Envelope.decode_bytes fits RequestBody.decode).trans (congrArg (· >>= _) failed)⟩

/-- New fields around the question change nothing, nor does a name for a method in front of it. -/
theorem Request.decode_among_foreign_fields_coins :
    (∃ written, pack (coinsRequest (("since", .map [("at", .nil)]) :: coinsDetails ++
        [("until", .float 0)])) = .ok written ∧
      Request.decode written = .ok { id := 7, body := coinsField }) ∧
    ∃ written, pack (coinsRequest (("method", .text "spend") :: coinsDetails)) = .ok written ∧
      Request.decode written = .ok { id := 7, body := coinsField } := by
  refine ⟨?_, ?_⟩
  · have packed := pack_eq_ok_iff.2 ⟨(by decide +kernel :
      (coinsRequest
        (("since", .map [("at", .nil)]) :: coinsDetails ++ [("until", .float 0)])).Fits), rfl⟩
    obtain ⟨-, -, new⟩ := Request.decode_among_foreign_fields { id := 7, body := coinsField }
      toItem_coinsField (by simp [coinsDetails]) packed
    exact ⟨_, packed, new (by decide +kernel)⟩
  · have packed := pack_eq_ok_iff.2 ⟨(by decide +kernel :
      (coinsRequest (("method", .text "spend") :: coinsDetails)).Fits), rfl⟩
    obtain ⟨suited, -, -⟩ := Request.decode_among_foreign_fields { id := 7, body := coinsField }
      toItem_coinsField (by simp [coinsDetails]) packed
    exact ⟨_, packed, suited (by decide +kernel)⟩

end Inspector.Wire
