import Inspector.Host.View
import Inspector.Table

/-!
# A host in memory

A class graph and a heap that can be changed. Classes are held by their dotted names; an object is
known by its place on the heap, counted from 1. Objects are never taken off the heap. Clients that
refer to an object pin it, and pins are counted.
-/

namespace Inspector

structure ClassDef where
  kind : ClassKind := .cls
  superclass : Option String
  interfaces : List String := []
  fields : List FieldDecl := []
  methods : List MethodDecl := []
  statics : Table String HostValue := []
deriving Repr

namespace ClassDef

/-- The start of a definition: every class but the root extends the root. -/
def start (name : String) : ClassDef :=
  { superclass := if name = objectClass then none else some objectClass }

def extending (definition : ClassDef) (parent : String) : ClassDef :=
  { definition with superclass := some (dottedName parent) }

def implementing (definition : ClassDef) (parent : String) : ClassDef :=
  { definition with interfaces := definition.interfaces ++ [dottedName parent] }

/-- Makes the class an interface, which extends no class. -/
def asInterface (definition : ClassDef) : ClassDef :=
  { definition with kind := .interface, superclass := none }

def ofKind (definition : ClassDef) (kind : ClassKind) : ClassDef :=
  { definition with kind }

def withField (definition : ClassDef) (name : String) (type : HostType) : ClassDef :=
  { definition with fields := definition.fields ++ [{ name, type, isStatic := false }] }

def withStaticField (definition : ClassDef) (name : String) (type : HostType)
    (value : HostValue) : ClassDef :=
  { definition with
    fields := definition.fields ++ [{ name, type, isStatic := true }]
    statics := definition.statics.set name value }

def withMethod (definition : ClassDef) (name : String) (params : List HostType)
    (result : HostType) : ClassDef :=
  { definition with
    methods := definition.methods ++ [{ name, params, result, isStatic := false }] }

def withStaticMethod (definition : ClassDef) (name : String) (params : List HostType)
    (result : HostType) : ClassDef :=
  { definition with methods := definition.methods ++ [{ name, params, result, isStatic := true }] }

/-- The names that a definition names: the superclass, then the interfaces. -/
def parents (definition : ClassDef) : List String :=
  definition.superclass.toList ++ definition.interfaces

end ClassDef

inductive HeapObject where
  | array (component : HostType) (elements : List HostValue)
  | list (className : String) (items : List HostValue)
  | plain (className : String) (fields : Table String HostValue)
  | text (value : String)
  | boxed (value : Scalar)
deriving Repr

def Scalar.wrapper : Scalar → String
  | byte _ => "java.lang.Byte"
  | short _ => "java.lang.Short"
  | int _ => "java.lang.Integer"
  | long _ => "java.lang.Long"
  | float _ => "java.lang.Float"
  | double _ => "java.lang.Double"
  | char _ => "java.lang.Character"
  | boolean _ => "java.lang.Boolean"

def HeapObject.type : HeapObject → HostType
  | array component _ => .array component
  | list className _ | plain className _ => .cls className
  | text _ => .cls stringClass
  | boxed value => .cls value.wrapper

/-- The value of a field of the type that was never assigned. -/
def HostType.zero : HostType → HostValue
  | primitive .byte => .scalar (.byte 0)
  | primitive .short => .scalar (.short 0)
  | primitive .int => .scalar (.int 0)
  | primitive .long => .scalar (.long 0)
  | primitive .float => .scalar (.float 0)
  | primitive .double => .scalar (.double 0)
  | primitive .char => .scalar (.char 0)
  | primitive .boolean => .scalar (.boolean false)
  | void | cls _ | array _ => .null

structure InMemoryHost where
  classes : Table String ClassDef := []
  heap : List HeapObject := []
  /-- How often each object is pinned. -/
  pins : Table ObjectRef Nat := []
  threads : List ThreadInfo := []
  /-- No class is held by a name with slashes. -/
  dotted : ∀ name ∈ classes.map (·.1), dottedName name = name := by simp
deriving Repr

namespace InMemoryHost

/-- A host without classes. -/
def empty : InMemoryHost := {}

/-! ## Changing the host -/

/-- Puts a definition in the place of a class's old one, if it has one. -/
def setClass (host : InMemoryHost) (name : String) (definition : ClassDef) : InMemoryHost :=
  { host with
    classes := host.classes.set (dottedName name) definition
    dotted := by
      intro other present
      rcases Table.mem_keys_set present with rfl | old
      · exact dottedName_dottedName name
      · exact host.dotted other old }

def define (host : InMemoryHost) (name : String) (build : ClassDef → ClassDef) : InMemoryHost :=
  host.setClass name (build (.start (dottedName name)))

def addThread (host : InMemoryHost) (thread : ThreadInfo) : InMemoryHost :=
  { host with threads := host.threads ++ [thread] }

def allocate (host : InMemoryHost) (object : HeapObject) : ObjectRef × InMemoryHost :=
  ({ id := host.heap.length + 1 }, { host with heap := host.heap ++ [object] })

def newArray (host : InMemoryHost) (component : HostType) (elements : List HostValue) :
    ObjectRef × InMemoryHost :=
  host.allocate (.array component elements)

def newList (host : InMemoryHost) (className : String) (items : List HostValue) :
    ObjectRef × InMemoryHost :=
  host.allocate (.list (dottedName className) items)

def newString (host : InMemoryHost) (value : String) : ObjectRef × InMemoryHost :=
  host.allocate (.text value)

def newInstance (host : InMemoryHost) (className : String) (fields : List (String × HostValue)) :
    ObjectRef × InMemoryHost :=
  host.allocate (.plain (dottedName className) (.ofPairs fields))

/-- Wraps a primitive value; anything else gives a bare object. -/
def newBoxed (host : InMemoryHost) : HostValue → ObjectRef × InMemoryHost
  | .scalar value => host.allocate (.boxed value)
  | .null | .object _ => host.newInstance objectClass []

def object? (host : InMemoryHost) (ref : ObjectRef) : Option HeapObject :=
  match ref.id with
  | 0 => none
  | place + 1 => host.heap[place]?

def replace (host : InMemoryHost) (ref : ObjectRef) (object : HeapObject) : InMemoryHost :=
  { host with heap := host.heap.set (ref.id - 1) object }

/-- Writes an element of an array, if there is one at that index. -/
def setArrayElement (host : InMemoryHost) (ref : ObjectRef) (index : Nat) (value : HostValue) :
    Bool × InMemoryHost :=
  match host.object? ref with
  | some (.array component elements) =>
    if index < elements.length then
      (true, host.replace ref (.array component (elements.set index value)))
    else (false, host)
  | _ => (false, host)

/-- Puts an item at the end of a list. -/
def pushList (host : InMemoryHost) (ref : ObjectRef) (value : HostValue) : Bool × InMemoryHost :=
  match host.object? ref with
  | some (.list className items) => (true, host.replace ref (.list className (items ++ [value])))
  | _ => (false, host)

/-- Writes a field of a plain object, declared or not. -/
def setField (host : InMemoryHost) (ref : ObjectRef) (field : String) (value : HostValue) :
    Bool × InMemoryHost :=
  match host.object? ref with
  | some (.plain className fields) =>
    (true, host.replace ref (.plain className (fields.set field value)))
  | _ => (false, host)

/-- Writes a static field of a class, declared or not. -/
def setStatic (host : InMemoryHost) (className field : String) (value : HostValue) :
    Bool × InMemoryHost :=
  match host.classes.get? (dottedName className) with
  | some definition =>
    (true, host.setClass className
      { definition with statics := definition.statics.set field value })
  | none => (false, host)

/-! ## Pins -/

def pinCount (host : InMemoryHost) (ref : ObjectRef) : Nat :=
  (host.pins.get? ref).getD 0

def totalPins (host : InMemoryHost) : Nat :=
  host.pins.foldl (fun total entry => total + entry.2) 0

def pin (host : InMemoryHost) (ref : ObjectRef) : InMemoryHost :=
  { host with pins := host.pins.set ref (host.pinCount ref + 1) }

/-- Takes one pin off an object; an object without pins stays without. -/
def release (host : InMemoryHost) (ref : ObjectRef) : InMemoryHost :=
  match host.pins.get? ref with
  | none => host
  | some count =>
    if count ≤ 1 then { host with pins := host.pins.erase ref }
    else { host with pins := host.pins.set ref (count - 1) }

def pinAll (host : InMemoryHost) (refs : List ObjectRef) : InMemoryHost :=
  refs.foldl pin host

/-- Takes a pin off each of the objects. -/
def releaseAll (host : InMemoryHost) (refs : List ObjectRef) : InMemoryHost :=
  refs.foldl release host

/-! ## Asking the host -/

/-- All names that some class names. -/
def named (host : InMemoryHost) : List String :=
  host.classes.flatMap fun entry => entry.2.parents

theorem cons_named_subset {host : InMemoryHost} {name parent : String} {definition : ClassDef}
    (found : host.classes.get? name = some definition) (named : parent ∈ definition.parents) :
    parent :: host.named ⊆ name :: host.named := by
  refine List.cons_subset.2 ⟨List.mem_cons_of_mem _ ?_, List.subset_cons_self _ _⟩
  exact List.mem_flatMap.2 ⟨(name, definition), Table.mem_of_get? found, named⟩

/-- The host's classes as a source of types. Names are compared as they are. -/
def types (host : InMemoryHost) : TypeSource where
  classExists name := (host.classes.get? name).isSome
  declaredFields name := ((host.classes.get? name).map (·.fields)).getD []
  declaredMethods name := ((host.classes.get? name).map (·.methods)).getD []
  superclass name := (host.classes.get? name).bind (·.superclass)
  interfaces name := ((host.classes.get? name).map (·.interfaces)).getD []
  reach name := name :: host.named
  mem_reach _ := List.mem_cons_self
  reach_superclass := by
    intro name parent extended
    obtain ⟨definition, found, extended⟩ := Option.bind_eq_some_iff.1 extended
    exact cons_named_subset found (List.mem_append_left _ (by simp [extended]))
  reach_interfaces := by
    intro name parent implemented
    cases found : host.classes.get? name with
    | none => simp [found] at implemented
    | some definition =>
      exact cons_named_subset found (List.mem_append_right _ (by simpa [found] using implemented))

/-- Looks for a field's value from a class upwards. `read` says what a class gives for the field.
A class that does not exist ends the search, and so does the root; coming back to a class means
that the search never ends. -/
def climb (host : InMemoryHost) (read : ClassDef → Option HostValue) (seen : List String)
    (name : String) : Lookup :=
  if name ∈ seen then .endless
  else
    match _found : host.classes.get? name with
    | none => .absent
    | some definition =>
      match read definition with
      | some value => .found value
      | none =>
        match _extended : definition.superclass with
        | none => .absent
        | some parent => host.climb read (name :: seen) parent
termination_by host.types.unseen seen [name]
decreasing_by
  have extended := Option.bind_eq_some_iff.2 ⟨definition, _found, _extended⟩
  exact TypeSource.unseen_superclass_lt extended ‹_› (List.Subset.refl _)

/-- The value of a static field in the class that declares it. -/
def staticOf (field : String) (definition : ClassDef) : Option HostValue :=
  (definition.fields.find? fun f => f.isStatic && f.name == field).map fun declared =>
    (definition.statics.get? field).getD declared.type.zero

/-- The value of an instance field that was never assigned, in the class that declares it. -/
def unassignedOf (field : String) (definition : ClassDef) : Option HostValue :=
  (definition.fields.find? fun f => !f.isStatic && f.name == field).map fun declared =>
    declared.type.zero

/-- The value of a static field, looked for from a class upwards. -/
def staticField (host : InMemoryHost) (className field : String) : Lookup :=
  host.climb (staticOf field) [] className

/-- The value of an instance field of a plain object: the assigned one, or else the zero of the
declared type. -/
def instanceField (host : InMemoryHost) (ref : ObjectRef) (field : String) : Lookup :=
  match host.object? ref with
  | some (.plain className fields) =>
    match fields.get? field with
    | some value => .found value
    | none => host.climb (unassignedOf field) [] className
  | _ => .absent

/-- Every class, in the order of names. -/
def loadedClasses (host : InMemoryHost) : List LoadedClass :=
  (host.classes.map fun (name, definition) =>
    ({ name, kind := definition.kind, loaded := true } : LoadedClass)).mergeSort
      fun a b => !(b.name < a.name)

def elements? (host : InMemoryHost) (ref : ObjectRef) : Option (List HostValue) :=
  match host.object? ref with
  | some (.array _ elements) => some elements
  | _ => none

def view (host : InMemoryHost) : HostView where
  types := host.types
  typeOf ref := (host.object? ref).map HeapObject.type
  arrayLength ref := (host.elements? ref).map List.length
  arrayElement ref index := (host.elements? ref).bind fun elements => elements[index]?
  collectionSnapshot ref :=
    match host.object? ref with
    | some (.list _ items) => some items
    | _ => none
  staticField := host.staticField
  instanceField := host.instanceField
  stringValue ref :=
    match host.object? ref with
    | some (.text value) => some value
    | _ => none
  unbox ref :=
    match host.object? ref with
    | some (.boxed value) => some value
    | _ => none
  loadedClasses := host.loadedClasses
  threads := host.threads

end InMemoryHost

end Inspector
