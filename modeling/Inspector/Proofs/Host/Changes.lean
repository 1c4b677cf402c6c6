import Inspector.Host.InMemory

/-!
# Changes of the host

Classes are defined, objects are put on the heap and written to while clients look at the host.
None of this has to do with pins (`HostChange.apply_withPins`), and what is seen of the host does
not depend on them either (`InMemoryHost.view_withPins`).
-/

namespace Inspector

/-- A change of the host's classes, objects or threads. -/
inductive HostChange where
  | define (name : String) (build : ClassDef → ClassDef)
  | addThread (thread : ThreadInfo)
  | newArray (component : HostType) (elements : List HostValue)
  | newList (className : String) (items : List HostValue)
  | newString (value : String)
  | newBoxed (value : HostValue)
  | newInstance (className : String) (fields : List (String × HostValue))
  | setArrayElement (ref : ObjectRef) (index : Nat) (value : HostValue)
  | pushList (ref : ObjectRef) (value : HostValue)
  | setField (ref : ObjectRef) (field : String) (value : HostValue)
  | setStatic (className field : String) (value : HostValue)

def HostChange.apply (host : InMemoryHost) : HostChange → InMemoryHost
  | define name build => host.define name build
  | addThread thread => host.addThread thread
  | newArray component elements => (host.newArray component elements).2
  | newList className items => (host.newList className items).2
  | newString value => (host.newString value).2
  | newBoxed value => (host.newBoxed value).2
  | newInstance className fields => (host.newInstance className fields).2
  | setArrayElement ref index value => (host.setArrayElement ref index value).2
  | pushList ref value => (host.pushList ref value).2
  | setField ref field value => (host.setField ref field value).2
  | setStatic className field value => (host.setStatic className field value).2

namespace InMemoryHost

/-- The host with other pins. -/
def withPins (host : InMemoryHost) (pins : Table ObjectRef Nat) : InMemoryHost :=
  { host with pins }

variable (host : InMemoryHost) (pins : Table ObjectRef Nat)

@[simp] theorem object?_withPins (ref : ObjectRef) :
    (host.withPins pins).object? ref = host.object? ref := rfl

end InMemoryHost

/-- A change does the same whatever is pinned, and leaves the pins as they are. -/
theorem HostChange.apply_withPins (change : HostChange) (host : InMemoryHost)
    (pins : Table ObjectRef Nat) :
    change.apply (host.withPins pins) = (change.apply host).withPins pins := by
  cases change with
  | newBoxed value => cases value <;> rfl
  | setArrayElement ref index value =>
    simp only [apply, InMemoryHost.setArrayElement, InMemoryHost.object?_withPins]
    split
    · split <;> rfl
    · rfl
  | pushList ref value =>
    simp only [apply, InMemoryHost.pushList, InMemoryHost.object?_withPins]
    split <;> rfl
  | setField ref field value =>
    simp only [apply, InMemoryHost.setField, InMemoryHost.object?_withPins]
    split <;> rfl
  | setStatic className field value =>
    have same : (host.withPins pins).classes = host.classes := rfl
    simp only [apply, InMemoryHost.setStatic, same]
    split <;> rfl
  | _ => rfl

theorem HostChange.pins_apply (change : HostChange) (host : InMemoryHost) :
    (change.apply host).pins = host.pins := by
  have same : (change.apply host).pins = ((change.apply host).withPins host.pins).pins := by
    rw [← change.apply_withPins host host.pins]
    rfl
  exact same

namespace InMemoryHost

variable (host : InMemoryHost) (pins : Table ObjectRef Nat)

/-- One step of a search. -/
theorem climb_eq (read : ClassDef → Option HostValue) (seen : List String) (name : String) :
    host.climb read seen name =
      if name ∈ seen then .endless
      else
        match host.classes.get? name with
        | none => .absent
        | some definition =>
          match read definition, definition.superclass with
          | some value, _ => .found value
          | none, none => .absent
          | none, some parent => host.climb read (name :: seen) parent := by
  rw [climb]
  split
  · rfl
  · split <;> rename_i found <;> rw [found]
    split <;> rename_i given <;> simp only [given]
    split <;> rename_i extended <;> rw [extended]

theorem climb_withPins (read : ClassDef → Option HostValue) (seen : List String) (name : String) :
    (host.withPins pins).climb read seen name = host.climb read seen name := by
  have classes : (host.withPins pins).classes = host.classes := rfl
  fun_induction host.climb read seen name with
  | case1 seen name old => rw [climb_eq, if_pos old]
  | case2 seen name fresh absent => rw [climb_eq, if_neg fresh, classes, absent]
  | case3 seen name fresh definition found value given =>
    simp only [climb_eq _ _ seen, if_neg fresh, classes, found, given]
  | case4 seen name fresh definition found silent extended =>
    simp only [climb_eq _ _ seen, if_neg fresh, classes, found, silent, extended]
  | case5 seen name fresh definition found silent parent extended ih =>
    simp only [climb_eq _ _ seen, if_neg fresh, classes, found, silent, extended, ih]

/-- What is seen of the host does not depend on its pins. -/
theorem view_withPins : (host.withPins pins).view = host.view := by
  have static : (host.withPins pins).staticField = host.staticField := by
    funext className field
    exact host.climb_withPins pins _ _ _
  have onInstance : (host.withPins pins).instanceField = host.instanceField := by
    funext ref field
    simp only [instanceField, object?_withPins, climb_withPins]
  rw [view, static, onInstance]
  rfl

end InMemoryHost

end Inspector
