import Inspector.Host.TypeSource
import Inspector.HostType.Descriptor

/-!
# Superclasses and ancestors

The superclass chain of a class, which ends at the first repeated name, and the ancestors of a
class through superclasses and interfaces.
-/

namespace Inspector.TypeSource

/-- The class and its superclasses, most derived first, up to the first name that was seen. -/
def chainFrom (types : TypeSource) (seen : List String) (name : String) : List String :=
  if name ∈ seen then []
  else
    name :: match _extended : types.superclass name with
      | none => []
      | some parent => types.chainFrom (name :: seen) parent
termination_by types.unseen seen [name]
decreasing_by
  exact unseen_superclass_lt _extended ‹_› (List.Subset.refl _)

/-- The levels of a class, which has to exist; its name may be given with slashes. -/
def hierarchy (types : TypeSource) (name : String) : Except ReflectionError (List String) :=
  if types.classExists (dottedName name) then .ok (types.chainFrom [] (dottedName name))
  else .error (.unknownType (dottedName name))

/-- The names that a class names itself: its superclass, then its interfaces. -/
def parents (types : TypeSource) (name : String) : List String :=
  (types.superclass name).toList ++ types.interfaces name

theorem reach_parents (types : TypeSource) {name parent : String}
    (named : parent ∈ types.parents name) : types.reach parent ⊆ types.reach name := by
  cases List.mem_append.1 named with
  | inl extended => exact types.reach_superclass (by simpa using extended)
  | inr implemented => exact types.reach_interfaces implemented

/-- Searches the queue and its ancestors, breadth first, for a name. -/
def reaches (types : TypeSource) (ancestor : String) (seen : List String) :
    (queue : List String) → Bool
  | [] => false
  | current :: rest =>
    if current = ancestor then true
    else if current ∈ seen then types.reaches ancestor seen rest
    else types.reaches ancestor (current :: seen) (rest ++ types.parents current)
termination_by queue => (types.unseen seen queue, queue.length)
decreasing_by
  · have fewer : types.unseen seen rest ≤ types.unseen seen (current :: rest) :=
      unseen_le (List.Subset.refl _) fun name waits =>
        ⟨name, List.mem_cons_of_mem _ waits, List.Subset.refl _⟩
    rcases Nat.lt_or_eq_of_le fewer with fewer | same
    · exact Prod.Lex.left _ _ fewer
    · rw [same]
      exact Prod.Lex.right _ (Nat.lt_succ_self _)
  · refine Prod.Lex.left _ _ (unseen_lt List.mem_cons_self ‹_› List.mem_cons_self
      (List.subset_cons_self _ _) fun name waits => ?_)
    cases List.mem_append.1 waits with
    | inl old => exact ⟨name, List.mem_cons_of_mem _ old, List.Subset.refl _⟩
    | inr named => exact ⟨current, List.mem_cons_self, types.reach_parents named⟩

/-- Whether a class is another or has it among its ancestors. -/
def descends (types : TypeSource) (name ancestor : String) : Bool :=
  types.reaches ancestor [] [name]

/-! ## Reading types that have to exist -/

/-- The type, if its element is a class that exists or no class at all. -/
def resolve (types : TypeSource) (type : HostType) : Except ReflectionError HostType :=
  match type.element with
  | .cls name => if types.classExists name then .ok type else .error (.unknownType name)
  | _ => .ok type

/-- Reads a descriptor of a type that exists. -/
def decodeDescriptor (types : TypeSource) (text : String) : Except ReflectionError HostType := do
  types.resolve (← HostType.ofDescriptor text)

/-- Reads a display name of a type that exists. -/
def decodeDisplayName (types : TypeSource) (text : String) : Except ReflectionError HostType := do
  types.resolve (← HostType.ofDisplayName text)

end Inspector.TypeSource
