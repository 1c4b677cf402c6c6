import Inspector.Host.TypeSource
import Inspector.Host.Value

/-!
# A view of the host

All that is ever asked of the host. The types are always there; a host that gives no access to its
values answers every other question with nothing.
-/

namespace Inspector

/-- The outcome of looking for a field's value up the superclasses. Nothing guards the search
against a cycle, so it may run for ever. -/
inductive Lookup where
  | found (value : HostValue)
  | absent
  | endless
deriving DecidableEq, Repr

def Lookup.ends : Lookup → Bool
  | endless => false
  | _ => true

def Lookup.value? : Lookup → Option HostValue
  | found value => some value
  | _ => none

structure HostView where
  types : TypeSource
  typeOf : ObjectRef → Option HostType := fun _ => none
  arrayLength : ObjectRef → Option Nat := fun _ => none
  arrayElement : ObjectRef → Nat → Option HostValue := fun _ _ => none
  /-- The elements of an ordered collection at this moment. -/
  collectionSnapshot : ObjectRef → Option (List HostValue) := fun _ => none
  staticField : String → String → Lookup := fun _ _ => .absent
  instanceField : ObjectRef → String → Lookup := fun _ _ => .absent
  stringValue : ObjectRef → Option String := fun _ => none
  /-- The primitive inside an object that wraps one. -/
  unbox : ObjectRef → Option Scalar := fun _ => none
  loadedClasses : List LoadedClass := []
  threads : List ThreadInfo := []

end Inspector
