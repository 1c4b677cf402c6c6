import Mathlib.Algebra.Order.BigOperators.Group.Finset
import Mathlib.Algebra.BigOperators.Group.Finset.Basic
import Inspector.Host.InMemory

/-!
# Counting pins

The host keeps a count for each object that is pinned. The counts are those of a multiset of
objects (`InMemoryHost.Counts`): pinning puts an object into it, and releasing takes out one that is
in it.
-/

namespace Inspector.InMemoryHost

/-- The host's counts say how often each object is in a multiset; others have no count. -/
structure Counts (host : InMemoryHost) (objects : Multiset ObjectRef) : Prop where
  distinct : (host.pins.map (·.1)).Nodup
  positive : ∀ entry ∈ host.pins, 1 ≤ entry.2
  counted : ∀ object, host.pinCount object = objects.count object

variable {host : InMemoryHost} {objects : Multiset ObjectRef}

theorem counts_zero (none : host.pins = []) : host.Counts 0 where
  distinct := by rw [none]; exact List.nodup_nil
  positive := by rw [none]; exact nofun
  counted object := by rw [pinCount, none]; rfl

theorem Counts.of_pins_eq {other : InMemoryHost} (counts : host.Counts objects)
    (same : other.pins = host.pins) : other.Counts objects where
  distinct := same ▸ counts.distinct
  positive := same ▸ counts.positive
  counted object := by rw [pinCount, same, ← pinCount, counts.counted]

theorem Counts.pin (counts : host.Counts objects) (object : ObjectRef) :
    (host.pin object).Counts (object ::ₘ objects) where
  distinct := Table.nodup_keys_set counts.distinct _ _
  positive := by
    intro entry present
    rcases Table.mem_set present with rfl | old
    · exact Nat.le_add_left 1 _
    · exact counts.positive entry old
  counted := by
    intro other
    rw [pinCount, InMemoryHost.pin]
    by_cases same : other = object
    · subst same
      rw [Table.get?_set_self, Option.getD_some, counts.counted, Multiset.count_cons_self]
    · rw [Table.get?_set_of_ne _ _ same, ← pinCount, counts.counted,
        Multiset.count_cons_of_ne same]

/-- An object that is in the multiset has its count there. -/
theorem Counts.get? (counts : host.Counts objects) {object : ObjectRef}
    (present : object ∈ objects) : host.pins.get? object = some (objects.count object) := by
  have counted := counts.counted object
  have positive := Multiset.count_pos.2 present
  rw [pinCount] at counted
  cases found : host.pins.get? object with
  | none =>
    rw [found] at counted
    exact absurd counted.symm (Nat.ne_of_gt positive)
  | some count =>
    rw [found, Option.getD_some] at counted
    rw [counted]

theorem Counts.release {object : ObjectRef} (counts : host.Counts (object ::ₘ objects)) :
    (host.release object).Counts objects := by
  have found := counts.get? (Multiset.mem_cons_self object objects)
  rw [Multiset.count_cons_self] at found
  have others {other : ObjectRef} (differ : other ≠ object) :
      (host.pins.get? other).getD 0 = objects.count other := by
    rw [← pinCount, counts.counted, Multiset.count_cons_of_ne differ]
  simp only [InMemoryHost.release, found]
  split
  · -- the last pin: the count goes
    rename_i last
    have none : objects.count object = 0 := by omega
    refine ⟨Table.nodup_keys_erase counts.distinct _, ?_, ?_⟩
    · intro entry present
      exact counts.positive entry (List.mem_of_mem_filter present)
    · intro other
      rw [pinCount, Table.get?_erase]
      split
      · rename_i same
        rw [← same, none]
        rfl
      · rename_i differ
        exact others (Ne.symm differ)
  · rename_i more
    refine ⟨Table.nodup_keys_set counts.distinct _ _, ?_, ?_⟩
    · intro entry present
      rcases Table.mem_set present with rfl | old
      · change 1 ≤ objects.count object + 1 - 1
        omega
      · exact counts.positive entry old
    · intro other
      rw [pinCount]
      by_cases same : other = object
      · rw [same, Table.get?_set_self]
        rfl
      · rw [Table.get?_set_of_ne _ _ same]
        exact others same

theorem Counts.pinAll (counts : host.Counts objects) (refs : List ObjectRef) :
    (host.pinAll refs).Counts (↑refs + objects) := by
  induction refs generalizing host objects with
  | nil => rwa [Multiset.coe_nil, zero_add]
  | cons ref rest ih =>
    have rest := ih (counts.pin ref)
    rwa [Multiset.add_cons, ← Multiset.cons_add, Multiset.cons_coe] at rest

theorem Counts.releaseAll {refs : List ObjectRef} (counts : host.Counts (↑refs + objects)) :
    (host.releaseAll refs).Counts objects := by
  induction refs generalizing host with
  | nil => rwa [Multiset.coe_nil, zero_add] at counts
  | cons ref rest ih =>
    rw [← Multiset.cons_coe, Multiset.cons_add] at counts
    exact ih counts.release

/-- The total is the number of objects in the multiset. -/
theorem Counts.totalPins (counts : host.Counts objects) :
    host.totalPins = Multiset.card objects := by
  have sum : host.totalPins = (host.pins.map (·.2)).sum := by
    rw [InMemoryHost.totalPins, List.sum_eq_foldl, List.foldl_map]
  have each : host.pins.map (·.2) = (host.pins.map (·.1)).map objects.count := by
    rw [List.map_map]
    refine List.map_congr_left fun entry present => ?_
    have found := Table.get?_of_mem counts.distinct present
    rw [Function.comp_apply, ← counts.counted, pinCount, found, Option.getD_some]
  have all : ∀ object ∈ objects, object ∈ (host.pins.map (·.1)).toFinset := by
    intro object present
    exact List.mem_toFinset.2 (Table.mem_keys_of_get? (counts.get? present))
  rw [sum, each, ← List.sum_toFinset _ counts.distinct, Multiset.sum_count_eq_card all]

end Inspector.InMemoryHost
