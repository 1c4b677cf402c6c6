import Mathlib.Data.List.Nodup
import Inspector.Introspection.PinTable

/-!
# Ids of pinned objects

A table that comes about by pinning holds no object twice, and the ids noted in it are the places
of the objects (`PinTable.Kept`). It only grows at its end, so that an id stays with its object.
Pinning objects one after the other gives out the next ids, in the order in which the objects are
first met (`PinTable.Kept.eraseDups_fresh`).

An id is a signed number of 64 bits. It says the place of an object as long as there are no more
than `PinTable.idLimit` of them.
-/

namespace Inspector.PinTable

/-! ## Tables that come about by pinning -/

structure Kept (pins : PinTable) : Prop where
  nodup : pins.pinned.Nodup
  noted : ∀ object, pins.id? object =
    if object ∈ pins.pinned then some (Int64.ofNat (pins.pinned.idxOf object)) else none

/-- The id that goes with the place of an object. -/
def idOf (pins : PinTable) (object : ObjectRef) : Int64 :=
  Int64.ofNat (pins.pinned.idxOf object)

theorem kept_empty : Kept {} where
  nodup := List.nodup_nil
  noted := fun _ => rfl

variable {pins later : PinTable} {object : ObjectRef}

/-- An object that is in the table keeps its id. -/
theorem Kept.pin_of_mem (kept : pins.Kept) (present : object ∈ pins.pinned) :
    pins.pin object = (pins.idOf object, pins) := by
  rw [pin, kept.noted, if_pos present]
  rfl

/-- A new object is put at the end. -/
theorem Kept.pin_of_not_mem (kept : pins.Kept) (absent : object ∉ pins.pinned) :
    pins.pin object = (Int64.ofNat pins.size,
      { pinned := pins.pinned ++ [object]
        ids := pins.ids.set object (Int64.ofNat pins.size) }) := by
  rw [pin, kept.noted, if_neg absent]

theorem Kept.pinned_pin (kept : pins.Kept) (object : ObjectRef) :
    (pins.pin object).2.pinned =
      if object ∈ pins.pinned then pins.pinned else pins.pinned ++ [object] := by
  by_cases present : object ∈ pins.pinned
  · rw [kept.pin_of_mem present, if_pos present]
  · rw [kept.pin_of_not_mem present, if_neg present]

theorem Kept.pin (kept : pins.Kept) (object : ObjectRef) : (pins.pin object).2.Kept := by
  by_cases present : object ∈ pins.pinned
  · rwa [kept.pin_of_mem present]
  · rw [kept.pin_of_not_mem present]
    constructor
    · exact List.nodup_append_comm.2 (List.nodup_cons.2 ⟨present, kept.nodup⟩)
    · intro other
      by_cases same : other = object
      · subst same
        have last : (pins.pinned ++ [other]).idxOf other = pins.size := by
          rw [List.idxOf_append_of_notMem present, List.idxOf_cons_self, Nat.add_zero, size]
        rw [id?, Table.get?_set_self, if_pos List.mem_concat_self, last]
      · have before := kept.noted other
        rw [id?] at before ⊢
        rw [Table.get?_set_of_ne _ _ same, before]
        by_cases old : other ∈ pins.pinned
        · rw [if_pos old, if_pos (List.mem_append_left _ old), List.idxOf_append_of_mem old]
        · rw [if_neg old, if_neg]
          simp [old, same]

theorem Kept.mem_pin (kept : pins.Kept) (object : ObjectRef) :
    object ∈ (pins.pin object).2.pinned := by
  rw [kept.pinned_pin]
  split
  · assumption
  · exact List.mem_concat_self

theorem Kept.pin_fst (kept : pins.Kept) (object : ObjectRef) :
    (pins.pin object).1 = (pins.pin object).2.idOf object := by
  by_cases present : object ∈ pins.pinned
  · rw [kept.pin_of_mem present]
  · rw [kept.pin_of_not_mem present, idOf, List.idxOf_append_of_notMem present,
      List.idxOf_cons_self, Nat.add_zero]
    rfl

/-! ## Growing tables -/

/-- A table that has come about from another one by pinning. -/
structure Grown (pins later : PinTable) : Prop where
  kept : later.Kept
  onward : pins.pinned <+: later.pinned

theorem Kept.grown (kept : pins.Kept) : pins.Grown pins :=
  ⟨kept, List.prefix_rfl⟩

theorem Grown.trans {last : PinTable} (first : pins.Grown later) (second : later.Grown last) :
    pins.Grown last :=
  ⟨second.kept, first.onward.trans second.onward⟩

theorem Grown.subset (grown : pins.Grown later) : pins.pinned ⊆ later.pinned :=
  grown.onward.subset

theorem Grown.size_le (grown : pins.Grown later) : pins.size ≤ later.size :=
  grown.onward.length_le

theorem Kept.grown_pin (kept : pins.Kept) (object : ObjectRef) :
    pins.Grown (pins.pin object).2 := by
  refine ⟨kept.pin object, ?_⟩
  rw [kept.pinned_pin]
  split
  · exact List.prefix_rfl
  · exact List.prefix_append _ _

/-- Objects keep their ids. -/
theorem Grown.idOf (grown : pins.Grown later) (present : object ∈ pins.pinned) :
    later.idOf object = pins.idOf object := by
  rw [PinTable.idOf, PinTable.idOf, grown.onward.idxOf_eq_of_mem present]

/-! ## Pinning one after the other -/

def pinEach (pins : PinTable) (objects : List ObjectRef) : PinTable :=
  objects.foldl (fun pins object => (pins.pin object).2) pins

theorem pinEach_append (pins : PinTable) (first second : List ObjectRef) :
    pins.pinEach (first ++ second) = (pins.pinEach first).pinEach second :=
  List.foldl_append

theorem Kept.grown_pinEach (kept : pins.Kept) (objects : List ObjectRef) :
    pins.Grown (pins.pinEach objects) := by
  induction objects generalizing pins with
  | nil => exact kept.grown
  | cons object rest ih => exact (kept.grown_pin object).trans (ih (kept.pin object))

theorem Kept.subset_pinEach (kept : pins.Kept) (objects : List ObjectRef) :
    objects ⊆ (pins.pinEach objects).pinned := by
  induction objects generalizing pins with
  | nil => exact List.nil_subset _
  | cons object rest ih =>
    intro other present
    rcases List.mem_cons.1 present with rfl | later
    · exact ((kept.pin other).grown_pinEach rest).subset (kept.mem_pin other)
    · exact ih (kept.pin object) later

/-! ## Ids and places -/

/-- How many objects can be told apart by their ids. -/
def idLimit : Nat := 0x8000000000000000

theorem object?_ofNat {place : Nat} (small : place < idLimit) :
    pins.object? (Int64.ofNat place) = pins.pinned[place]? := by
  rw [object?, Int64.toInt_ofNat_of_lt small]

/-- An id leads to an object if it is the place of the object. -/
theorem object?_eq_some {id : Int64} :
    pins.object? id = some object ↔
      ∃ place, id = Int64.ofNat place ∧ place < idLimit ∧ pins.pinned[place]? = some object := by
  constructor
  · intro found
    rw [object?] at found
    split at found
    · rename_i place same
      refine ⟨place, ?_, ?_, found⟩
      · rw [← Int64.ofInt_toInt id, same]
        exact Int64.ofInt_eq_ofNat
      · have most := Int64.toInt_lt id
        rw [same] at most
        exact Int.ofNat_lt.1 most
    · cases found
  · rintro ⟨place, rfl, small, found⟩
    rw [object?_ofNat small, found]

theorem object?_eq_none {id : Int64} :
    pins.object? id = none ↔ id.toInt < 0 ∨ (pins.size : Int) ≤ id.toInt := by
  rw [object?, size]
  split
  · rename_i place same
    rw [same, List.getElem?_eq_none_iff, Int.ofNat_eq_natCast]
    omega
  · rename_i place same
    rw [same]
    exact ⟨fun _ => .inl (Int.negSucc_lt_zero place), fun _ => rfl⟩

theorem Kept.id?_eq_some (kept : pins.Kept) {id : Int64} :
    pins.id? object = some id ↔ object ∈ pins.pinned ∧ pins.idOf object = id := by
  rw [kept.noted, idOf]
  by_cases present : object ∈ pins.pinned <;> simp [present]

theorem object?_idOf (small : pins.size ≤ idLimit) (present : object ∈ pins.pinned) :
    pins.object? (pins.idOf object) = some object := by
  have inside : pins.pinned.idxOf object < pins.size := List.idxOf_lt_length_of_mem present
  rw [idOf, object?_ofNat (Nat.lt_of_lt_of_le inside small)]
  exact List.getElem?_idxOf present

/-- The ids that are noted lead to the objects, and no others do. -/
theorem Kept.id?_eq_some_iff (kept : pins.Kept) (small : pins.size ≤ idLimit) {id : Int64} :
    pins.id? object = some id ↔ pins.object? id = some object := by
  rw [kept.id?_eq_some]
  constructor
  · rintro ⟨present, rfl⟩
    exact object?_idOf small present
  · intro found
    obtain ⟨place, rfl, -, there⟩ := object?_eq_some.1 found
    obtain ⟨inside, rfl⟩ := List.getElem?_eq_some_iff.1 there
    exact ⟨List.getElem_mem inside, congrArg Int64.ofNat (kept.nodup.idxOf_getElem place inside)⟩

/-- Ids keep their objects. -/
theorem Grown.object? (grown : pins.Grown later) {id : Int64}
    (found : pins.object? id = some object) : later.object? id = some object := by
  obtain ⟨place, rfl, small, there⟩ := object?_eq_some.1 found
  obtain ⟨inside, -⟩ := List.getElem?_eq_some_iff.1 there
  obtain ⟨more, longer⟩ := grown.onward
  refine object?_eq_some.2 ⟨place, rfl, small, ?_⟩
  rw [← longer, List.getElem?_append_left inside, there]

/-! ## New ids -/

/-- The ids that a table does not know. -/
def fresh (pins : PinTable) (ids : List Int64) : List Int64 :=
  ids.filter fun id => pins.object? id = none

/-- After one object more, one id less is unknown. -/
theorem fresh_of_append {ids : List Int64} (small : pins.size < idLimit)
    (longer : later.pinned = pins.pinned ++ [object]) :
    later.fresh ids = (pins.fresh ids).filter fun id => !id == Int64.ofNat pins.size := by
  have places : later.size = pins.size + 1 := by rw [size, longer, List.length_append]; rfl
  rw [fresh, fresh, List.filter_filter]
  refine List.filter_congr fun id _ => ?_
  have next : id = Int64.ofNat pins.size ↔ id.toInt = pins.size := by
    rw [← Int64.toInt_inj, Int64.toInt_ofNat_of_lt small]
  rw [Bool.eq_iff_iff]
  simp only [object?_eq_none, places, decide_eq_true_eq, Bool.and_eq_true, Bool.not_eq_true',
    beq_eq_false_iff_ne, ne_eq, next]
  omega

/-- Pinning one after the other gives out the next ids in the order in which objects are met. -/
theorem Kept.eraseDups_fresh (kept : pins.Kept) (objects : List ObjectRef)
    (small : (pins.pinEach objects).size ≤ idLimit) :
    (pins.fresh (objects.map (pins.pinEach objects).idOf)).eraseDups =
      (List.range' pins.size ((pins.pinEach objects).size - pins.size)).map Int64.ofNat := by
  induction objects generalizing pins with
  | nil => simp [fresh, PinTable.pinEach]
  | cons object rest ih =>
    have first : pins.pinEach (object :: rest) = (pins.pin object).2.pinEach rest := rfl
    have keeps := kept.pin object
    have onwards := ih keeps small
    have same : ((pins.pin object).2.pinEach rest).idOf object = (pins.pin object).2.idOf object :=
      (keeps.grown_pinEach rest).idOf (kept.mem_pin object)
    rw [first, List.map_cons, same, ← kept.pin_fst]
    by_cases present : object ∈ pins.pinned
    · -- its id is known, so it is not among the new ones
      rw [kept.pin_of_mem present] at onwards ⊢
      have known : pins.object? (pins.idOf object) ≠ none := by
        have whole := (kept.grown_pinEach rest).size_le
        rw [first, kept.pin_of_mem present] at small
        rw [object?_idOf (Nat.le_trans whole small) present]
        exact nofun
      rw [fresh, List.filter_cons_of_neg (by simpa using known)]
      exact onwards
    · have longer : (pins.pin object).2.pinned = pins.pinned ++ [object] := by
        rw [kept.pinned_pin, if_neg present]
      have places : (pins.pin object).2.size = pins.size + 1 := by
        rw [size, longer, List.length_append]
        rfl
      have whole : (pins.pin object).2.size ≤ ((pins.pin object).2.pinEach rest).size :=
        (keeps.grown_pinEach rest).size_le
      rw [first] at small
      have inside : pins.size < idLimit := by omega
      have unknown : pins.object? (Int64.ofNat pins.size) = none := by
        rw [object?_ofNat inside]
        exact List.getElem?_eq_none (Nat.le_refl _)
      have id : (pins.pin object).1 = Int64.ofNat pins.size := by rw [kept.pin_of_not_mem present]
      have counted : ((pins.pin object).2.pinEach rest).size - pins.size =
          ((pins.pin object).2.pinEach rest).size - (pins.size + 1) + 1 := by omega
      rw [fresh_of_append inside longer, places] at onwards
      rw [id, fresh, List.filter_cons_of_pos (by simpa using unknown), List.eraseDups_cons,
        counted, List.range'_succ, List.map_cons, ← onwards]
      rfl

end Inspector.PinTable
