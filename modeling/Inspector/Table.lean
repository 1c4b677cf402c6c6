/-!
# Tables

A table is a list of keys with their values. `set` replaces the value of a key where it stands and
puts a new key at the end.
-/

namespace Inspector

/-- Keys with their values. -/
abbrev Table (κ α : Type) := List (κ × α)

namespace Table

variable {κ α : Type} [DecidableEq κ]

def get? (table : Table κ α) (key : κ) : Option α :=
  match table with
  | [] => none
  | (k, value) :: rest => if k = key then some value else get? rest key

def set (table : Table κ α) (key : κ) (value : α) : Table κ α :=
  match table with
  | [] => [(key, value)]
  | (k, old) :: rest => if k = key then (key, value) :: rest else (k, old) :: set rest key value

def erase (table : Table κ α) (key : κ) : Table κ α :=
  table.filter fun entry => entry.1 ≠ key

/-- The table with the value of a key changed, if it has one. -/
def modify (table : Table κ α) (key : κ) (f : α → α) : Table κ α :=
  table.map fun (k, value) => if k = key then (k, f value) else (k, value)

/-- The table that holds the given pairs, the later ones in place of earlier ones. -/
def ofPairs (pairs : List (κ × α)) : Table κ α :=
  pairs.foldl (fun table (key, value) => set table key value) []

@[simp] theorem get?_set_self (table : Table κ α) (key : κ) (value : α) :
    (table.set key value).get? key = some value := by
  induction table with
  | nil => simp [set, get?]
  | cons entry rest ih =>
    by_cases same : entry.1 = key <;> simp [set, get?, same, ih]

theorem get?_set_of_ne (table : Table κ α) {key other : κ} (value : α) (differ : other ≠ key) :
    (table.set key value).get? other = table.get? other := by
  induction table with
  | nil => simp [set, get?, differ.symm]
  | cons entry rest ih =>
    by_cases same : entry.1 = key
    · simp [set, get?, same, differ.symm]
    · by_cases found : entry.1 = other
      · simp [set, get?, found, differ]
      · simp [set, get?, same, found, ih]

theorem get?_set (table : Table κ α) (key other : κ) (value : α) :
    (table.set key value).get? other = if other = key then some value else table.get? other := by
  split
  · rename_i same
    rw [same, get?_set_self]
  · rename_i differ
    exact get?_set_of_ne table value differ

theorem get?_modify (table : Table κ α) (key other : κ) (f : α → α) :
    (table.modify key f).get? other =
      if key = other then (table.get? other).map f else table.get? other := by
  induction table with
  | nil => simp [modify, get?]
  | cons entry rest ih =>
    obtain ⟨k, value⟩ := entry
    have step : Table.modify ((k, value) :: rest) key f =
        (k, if k = key then f value else value) :: Table.modify rest key f := by
      by_cases same : k = key <;> simp [modify, same]
    rw [step, get?, get?, ih]
    by_cases found : k = other
    · subst found
      simp [eq_comm, apply_ite some]
    · simp [found]

theorem mem_of_get? {table : Table κ α} {key : κ} {value : α}
    (found : table.get? key = some value) : (key, value) ∈ table := by
  induction table with
  | nil => simp [get?] at found
  | cons entry rest ih =>
    obtain ⟨k, held⟩ := entry
    by_cases same : k = key
    · simp only [get?, same, ↓reduceIte, Option.some.injEq] at found
      simp [same, found]
    · simp only [get?, same, ↓reduceIte] at found
      simp [ih found]

theorem mem_keys_of_get? {table : Table κ α} {key : κ} {value : α}
    (found : table.get? key = some value) : key ∈ table.map (·.1) :=
  List.mem_map.2 ⟨_, mem_of_get? found, rfl⟩

theorem mem_keys_set {table : Table κ α} {key other : κ} {value : α}
    (present : other ∈ (table.set key value).map (·.1)) :
    other = key ∨ other ∈ table.map (·.1) := by
  induction table with
  | nil => simpa [set] using present
  | cons entry rest ih =>
    by_cases same : entry.1 = key
    · simp only [set, same, ↓reduceIte, List.map_cons, List.mem_cons] at present ⊢
      rcases present with rfl | later
      · exact .inl rfl
      · exact .inr (.inr later)
    · simp only [set, same, ↓reduceIte, List.map_cons, List.mem_cons] at present ⊢
      rcases present with rfl | later
      · exact .inr (.inl rfl)
      · exact (ih later).imp_right .inr

theorem keys_modify (table : Table κ α) (key : κ) (f : α → α) :
    (table.modify key f).map (·.1) = table.map (·.1) := by
  rw [modify, List.map_map]
  refine List.map_congr_left fun entry _ => ?_
  dsimp only [Function.comp_apply]
  split <;> rfl

theorem modify_of_not_mem {table : Table κ α} {key : κ} (absent : key ∉ table.map (·.1))
    (f : α → α) : table.modify key f = table := by
  refine (List.map_congr_left fun entry present => ?_).trans (List.map_id _)
  have differ : entry.1 ≠ key := fun same => absent (List.mem_map.2 ⟨entry, present, same⟩)
  exact if_neg differ

theorem mem_set {table : Table κ α} {key : κ} {value : α} {entry : κ × α}
    (present : entry ∈ table.set key value) : entry = (key, value) ∨ entry ∈ table := by
  induction table with
  | nil => exact .inl (List.mem_singleton.1 present)
  | cons first rest ih =>
    by_cases same : first.1 = key
    · rw [set, if_pos same] at present
      exact (List.mem_cons.1 present).imp_right (List.mem_cons_of_mem _)
    · rw [set, if_neg same] at present
      rcases List.mem_cons.1 present with rfl | later
      · exact .inr List.mem_cons_self
      · exact (ih later).imp_right (List.mem_cons_of_mem _)

theorem nodup_keys_set {table : Table κ α} (distinct : (table.map (·.1)).Nodup) (key : κ)
    (value : α) : ((table.set key value).map (·.1)).Nodup := by
  induction table with
  | nil => simp [set]
  | cons entry rest ih =>
    obtain ⟨absent, distinct⟩ := List.nodup_cons.1 distinct
    by_cases same : entry.1 = key
    · rw [set, if_pos same]
      exact List.nodup_cons.2 ⟨same ▸ absent, distinct⟩
    · rw [set, if_neg same]
      refine List.nodup_cons.2 ⟨fun present => ?_, ih distinct⟩
      exact (mem_keys_set present).elim same absent

theorem nodup_keys_erase {table : Table κ α} (distinct : (table.map (·.1)).Nodup) (key : κ) :
    ((table.erase key).map (·.1)).Nodup :=
  (List.filter_sublist.map _).nodup distinct

/-- Where no key comes twice, an entry is found by its key. -/
theorem get?_of_mem {table : Table κ α} (distinct : (table.map (·.1)).Nodup) {key : κ} {value : α}
    (present : (key, value) ∈ table) : table.get? key = some value := by
  induction table with
  | nil => cases present
  | cons entry rest ih =>
    obtain ⟨absent, distinct⟩ := List.nodup_cons.1 distinct
    rcases List.mem_cons.1 present with rfl | later
    · exact if_pos rfl
    · have differ : entry.1 ≠ key := by
        rintro rfl
        exact absent (List.mem_map.2 ⟨_, later, rfl⟩)
      rw [get?, if_neg differ]
      exact ih distinct later

theorem get?_erase (table : Table κ α) (key other : κ) :
    (table.erase key).get? other = if key = other then none else table.get? other := by
  induction table with
  | nil => simp [erase, get?]
  | cons entry rest ih =>
    rw [erase] at ih ⊢
    by_cases same : entry.1 = key
    · rw [List.filter_cons_of_neg (by simpa using same), ih, get?, same]
      split <;> rfl
    · rw [List.filter_cons_of_pos (by simpa using same), get?, ih, get?]
      split
      · rename_i found
        rw [if_neg fun equal => same (found.trans equal.symm)]
      · rfl

theorem get?_append (first second : Table κ α) (key : κ) :
    get? (first ++ second) key = (first.get? key).or (second.get? key) := by
  induction first with
  | nil => rfl
  | cons entry rest ih =>
    rw [List.cons_append, get?, get?]
    split
    · rfl
    · exact ih

theorem get?_eq_none {table : Table κ α} {key : κ} :
    table.get? key = none ↔ key ∉ table.map (·.1) := by
  induction table with
  | nil => simp [get?]
  | cons entry rest ih =>
    rw [get?, List.map_cons, List.mem_cons, not_or]
    split
    · rename_i same
      simp [same]
    · rename_i differ
      rw [ih]
      exact ⟨fun absent => ⟨Ne.symm differ, absent⟩, And.right⟩

/-- A new key is put at the end. -/
theorem set_of_get?_eq_none {table : Table κ α} {key : κ} (new : table.get? key = none)
    (value : α) : table.set key value = table ++ [(key, value)] := by
  induction table with
  | nil => rfl
  | cons entry rest ih =>
    rw [get?] at new
    split at new
    · cases new
    · rename_i differ
      rw [set, if_neg differ, ih new]
      rfl

end Table

end Inspector
