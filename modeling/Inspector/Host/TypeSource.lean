import Inspector.Host.Class

/-!
# A source of types

What has to be known of the host's classes: which exist, what each declares, and what it extends.
Superclasses and interfaces may form cycles and may name classes that do not exist, and there may be
any number of classes; but from each name only finitely many others can be reached, so that a walk
that visits no name twice comes to an end.
-/

namespace Inspector

structure TypeSource where
  classExists : String → Bool
  /-- The fields that a class declares itself, in order. -/
  declaredFields : String → List FieldDecl
  /-- The methods that a class declares itself, in order. -/
  declaredMethods : String → List MethodDecl
  superclass : String → Option String
  /-- The interfaces that a class names itself. -/
  interfaces : String → List String
  /-- Whether a value of the second type may be stored where the first is declared, if the host has
  a rule of its own for that. -/
  ownRule : Option (HostType → HostType → Bool) := none
  /-- The names that a name leads to by superclasses and interfaces, itself among them. -/
  reach : String → List String
  mem_reach : ∀ name, name ∈ reach name
  reach_superclass : ∀ {name parent}, superclass name = some parent → reach parent ⊆ reach name
  reach_interfaces : ∀ {name parent}, parent ∈ interfaces name → reach parent ⊆ reach name

namespace TypeSource

/-- The names that a walk can still come to, from where it stands, without those it has seen. -/
def ahead (types : TypeSource) (seen standing : List String) : List String :=
  ((standing.flatMap types.reach).filter (· ∉ seen)).eraseDups

/-- How many names a walk can still come to. -/
def unseen (types : TypeSource) (seen standing : List String) : Nat :=
  (types.ahead seen standing).length

theorem nodup_eraseDups (names : List String) : names.eraseDups.Nodup := by
  cases names with
  | nil => exact List.nodup_nil
  | cons name rest =>
    rw [List.eraseDups_cons, List.nodup_cons]
    constructor
    · simp [List.mem_eraseDups]
    · exact nodup_eraseDups (rest.filter fun other => !other == name)
termination_by names.length
decreasing_by exact Nat.lt_succ_of_le (List.length_filter_le _ _)

theorem mem_ahead {types : TypeSource} {seen standing : List String} {name : String} :
    name ∈ types.ahead seen standing ↔
      (∃ start ∈ standing, name ∈ types.reach start) ∧ name ∉ seen := by
  simp [ahead, List.mem_eraseDups]

section Steps

variable {types : TypeSource} {seen later standing next : List String} {name : String}

/-- A walk that goes on to names that it could come to has no more names ahead than before. -/
theorem ahead_subset (kept : seen ⊆ later)
    (led : ∀ n ∈ next, ∃ start ∈ standing, types.reach n ⊆ types.reach start) :
    types.ahead later next ⊆ types.ahead seen standing := by
  intro other
  rw [mem_ahead, mem_ahead]
  rintro ⟨⟨n, present, reached⟩, fresh⟩
  obtain ⟨start, stands, within⟩ := led n present
  exact ⟨⟨start, stands, within reached⟩, fun old => fresh (kept old)⟩

theorem unseen_le (kept : seen ⊆ later)
    (led : ∀ n ∈ next, ∃ start ∈ standing, types.reach n ⊆ types.reach start) :
    types.unseen later next ≤ types.unseen seen standing :=
  (nodup_eraseDups _).length_le_of_subset (ahead_subset kept led)

/-- A walk that has seen one more of the names where it stood has fewer names ahead. -/
theorem unseen_lt (stands : name ∈ standing) (fresh : name ∉ seen) (noted : name ∈ later)
    (kept : seen ⊆ later)
    (led : ∀ n ∈ next, ∃ start ∈ standing, types.reach n ⊆ types.reach start) :
    types.unseen later next < types.unseen seen standing := by
  have gone : name ∉ types.ahead later next := fun left => (mem_ahead.1 left).2 noted
  have distinct : (name :: types.ahead later next).Nodup :=
    List.nodup_cons.2 ⟨gone, nodup_eraseDups _⟩
  refine distinct.length_le_of_subset (List.cons_subset.2 ⟨?_, ahead_subset kept led⟩)
  exact mem_ahead.2 ⟨⟨name, stands, types.mem_reach name⟩, fresh⟩

/-- Going from a class to its superclass leaves fewer names ahead. -/
theorem unseen_superclass_lt {parent : String} (extended : types.superclass name = some parent)
    (fresh : name ∉ seen) (kept : name :: seen ⊆ later) :
    types.unseen later [parent] < types.unseen seen [name] := by
  have noted := List.cons_subset.1 kept
  refine unseen_lt List.mem_cons_self fresh noted.1 noted.2 fun n only => ?_
  rw [List.mem_singleton.1 only]
  exact ⟨name, List.mem_cons_self, types.reach_superclass extended⟩

end Steps

end TypeSource

end Inspector
