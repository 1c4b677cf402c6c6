import Inspector.Proofs.Introspection.Termination

/-!
# Values where fields are declared

A look-up of a field goes up the superclasses and leaves a class alone that it has seen; a read of
its value goes up by itself and leaves none alone. Both stop at the same declaration
(`TypeSource.declaration?`), and only make different things of it: the look-up a member, the read
the value that the class holds for the field, or else the zero of the declared type
(`values_found_where_declared`). This is so on every graph of classes, also where superclasses run
in a circle or do not exist.
-/

namespace Inspector

open Outcome

/-! ## Declarations -/

namespace TypeSource

variable {types : TypeSource} {field : String} {kind : MemberKind}

/-- The declaration of a field that a class makes itself. -/
def declaredAt (types : TypeSource) (field : String) (kind : MemberKind) (level : String) :
    Option FieldDecl :=
  (types.declaredFields level).find? fun declared =>
    kind.admits declared.isStatic && declared.name == field

/-- The first declaration of a field on some levels, with the level that makes it. -/
def declaration? (types : TypeSource) (levels : List String) (field : String)
    (kind : MemberKind) : Option (String × FieldDecl) :=
  levels.findSome? fun level => (types.declaredAt field kind level).map fun declared =>
    (level, declared)

/-- What a look-up makes of a declaration. -/
def memberOf (kind : MemberKind) (found : String × FieldDecl) : Member :=
  { name := found.2.name, declaringClass := found.1, shape := .field found.2.type, kind }

/-- The field that a look-up finds is that of the first declaration. -/
theorem findSome?_fieldAt (levels : List String) :
    levels.findSome? (types.fieldAt field kind) =
      (types.declaration? levels field kind).map (memberOf kind) := by
  rw [declaration?, List.map_findSome?]
  congr 1
  funext level
  rw [Function.comp_apply, Option.map_map]
  rfl

theorem resolveField_eq {className : String} {levels : List String}
    (chain : types.hierarchy className = .ok levels) :
    types.resolveField className field kind =
      .ok ((types.declaration? levels field kind).map (memberOf kind)) := by
  rw [resolveField, chain, ok_bind, findSome?_fieldAt]
  rfl

end TypeSource

/-! ## Values -/

namespace InMemoryHost

variable {host : InMemoryHost} {field : String} {kind : MemberKind}

/-- The value that a class holds for a static field, declared or not. -/
def stored? (host : InMemoryHost) (level field : String) : Option HostValue :=
  (host.classes.get? level).bind fun definition => definition.statics.get? field

theorem dottedName_of_classExists {name : String} (known : host.types.classExists name = true) :
    dottedName name = name := by
  obtain ⟨definition, found⟩ := Option.isSome_iff_exists.1 known
  exact host.dotted name (Table.mem_keys_of_get? found)

theorem hierarchy_of_classExists {name : String} (known : host.types.classExists name = true) :
    host.types.hierarchy name = .ok (host.types.chainFrom [] name) := by
  rw [TypeSource.hierarchy, dottedName_of_classExists known, if_pos known]

/-- What a class gives for a field comes from its own declaration, which is given its value by
`value`. -/
def ReadsDeclared (host : InMemoryHost) (field : String) (kind : MemberKind)
    (read : ClassDef → Option HostValue) (value : String × FieldDecl → HostValue) : Prop :=
  ∀ level, (host.classes.get? level).bind read =
    (host.types.declaredAt field kind level).map fun declared => value (level, declared)

theorem readsDeclared_static (host : InMemoryHost) (field : String) :
    host.ReadsDeclared field .static (staticOf field) fun found =>
      (host.stored? found.1 field).getD found.2.type.zero := by
  intro level
  unfold TypeSource.declaredAt stored?
  cases found : host.classes.get? level with
  | none => simp [types, found]
  | some definition => simp [types, found, staticOf, MemberKind.admits]

theorem readsDeclared_unassigned (host : InMemoryHost) (field : String) :
    host.ReadsDeclared field .onInstance (unassignedOf field) fun found => found.2.type.zero := by
  intro level
  unfold TypeSource.declaredAt
  cases found : host.classes.get? level with
  | none => simp [types, found]
  | some definition => simp [types, found, unassignedOf, MemberKind.admits]

/-- A read stops at the declaration that a look-up finds, and gives its value. -/
theorem value?_climb_declared {read : ClassDef → Option HostValue}
    {value : String × FieldDecl → HostValue} (reads : host.ReadsDeclared field kind read value)
    (name : String) :
    (host.climb read [] name).value? =
      (host.types.declaration? (host.types.chainFrom [] name) field kind).map value := by
  rw [value?_climb, TypeSource.declaration?, List.map_findSome?]
  congr 1
  funext level
  rw [reads level, Function.comp_apply, Option.map_map]
  rfl

/-- What a look-up finds is read, and nothing else is. -/
theorem climb_of_resolveField {read : ClassDef → Option HostValue}
    {value : String × FieldDecl → HostValue} (reads : host.ReadsDeclared field kind read value)
    {className : String} (known : host.types.classExists className = true) :
    (∀ member, host.types.resolveField className field kind = .ok (some member) →
      ∃ declared, member.shape = .field declared.type ∧
        host.climb read [] className = .found (value (member.declaringClass, declared))) ∧
    (host.types.resolveField className field kind = .ok none →
      (host.climb read [] className).value? = none) := by
  rw [TypeSource.resolveField_eq (hierarchy_of_classExists known)]
  have same := value?_climb_declared reads className
  generalize host.types.declaration? (host.types.chainFrom [] className) field kind = found at same
  constructor
  · intro member resolved
    obtain ⟨⟨level, declared⟩, rfl, rfl⟩ := Option.map_eq_some_iff.1 (Except.ok.inj resolved)
    exact ⟨declared, rfl, Lookup.value?_eq_some.1 same⟩
  · intro resolved
    rw [same, Option.map_eq_none_iff.1 (Except.ok.inj resolved), Option.map_none]

end InMemoryHost

/-! ## Plain objects -/

namespace InMemoryHost

variable {host : InMemoryHost} {object : ObjectRef} {className field : String}
  {fields : Table String HostValue}

theorem instanceField_of_assigned (held : host.object? object = some (.plain className fields))
    {value : HostValue} (assigned : fields.get? field = some value) :
    host.instanceField object field = .found value := by
  simp only [instanceField, held, assigned]

theorem instanceField_of_unassigned (held : host.object? object = some (.plain className fields))
    (unassigned : fields.get? field = none) :
    host.instanceField object field = host.climb (unassignedOf field) [] className := by
  simp only [instanceField, held, unassigned]

end InMemoryHost

namespace Loops

variable {host : InMemoryHost} {object : ObjectRef} {className field : String} {value : HostValue}

theorem staticField_of_found (found : host.staticField className field = .found value) :
    Ends (staticField host · className field) (some value) := by
  have ends := staticField_ends (by rw [found]; rfl)
  rwa [found] at ends

theorem instanceField_of_found (found : host.instanceField object field = .found value) :
    Ends (instanceField host · object field) (some value) := by
  have ends := instanceField_ends (by rw [found]; rfl)
  rwa [found] at ends

end Loops

/-- On every host, for each class that exists and each field. Where a look-up finds a static field,
the read comes to an end with the value that the declaring class holds for it, or with the zero of
its type if none is held; where the look-up finds none, no value is read. For a plain object of the
class the read gives the assigned value; if none is assigned, it comes to an end with the zero of
the type of the field that a look-up finds, and gives no value if that finds none. -/
theorem values_found_where_declared (host : InMemoryHost) {className : String}
    (known : host.types.classExists className = true) (field : String) :
    (∀ member, host.types.resolveField className field .static = .ok (some member) →
      ∃ type value, member.shape = .field type ∧
        value = (host.stored? member.declaringClass field).getD type.zero ∧
        host.staticField className field = .found value ∧
        Loops.Ends (Loops.staticField host · className field) (some value)) ∧
    (host.types.resolveField className field .static = .ok none →
      (host.staticField className field).value? = none) ∧
    ∀ object fields, host.object? object = some (.plain className fields) →
      (∀ value, fields.get? field = some value →
        host.instanceField object field = .found value ∧
        Loops.Ends (Loops.instanceField host · object field) (some value)) ∧
      (fields.get? field = none →
        (∀ member, host.types.resolveField className field .onInstance = .ok (some member) →
          ∃ type, member.shape = .field type ∧
            host.instanceField object field = .found type.zero ∧
            Loops.Ends (Loops.instanceField host · object field) (some type.zero)) ∧
        (host.types.resolveField className field .onInstance = .ok none →
          (host.instanceField object field).value? = none)) := by
  obtain ⟨static, unlisted⟩ :=
    InMemoryHost.climb_of_resolveField (host.readsDeclared_static field) known
  obtain ⟨onInstance, unknown⟩ :=
    InMemoryHost.climb_of_resolveField (host.readsDeclared_unassigned field) known
  refine ⟨fun member resolved => ?_, unlisted, fun object fields held => ⟨?_, ?_⟩⟩
  · obtain ⟨declared, shape, found⟩ := static member resolved
    exact ⟨declared.type, _, shape, rfl, found, Loops.staticField_of_found found⟩
  · intro value assigned
    have found := InMemoryHost.instanceField_of_assigned held assigned
    exact ⟨found, Loops.instanceField_of_found found⟩
  · intro unassigned
    have climbs := InMemoryHost.instanceField_of_unassigned held unassigned
    refine ⟨fun member resolved => ?_, fun resolved => ?_⟩
    · obtain ⟨declared, shape, found⟩ := onInstance member resolved
      have found := climbs.trans found
      exact ⟨declared.type, shape, found, Loops.instanceField_of_found found⟩
    · rw [climbs]
      exact unknown resolved

/-- Two classes that extend each other, of which the second declares the fields, and an object of
the first with a value for a field that neither declares. -/
def interlocked : InMemoryHost :=
  let host := InMemoryHost.empty.define "t.Leaf" (·.extending "t.Base")
  let host := host.define "t.Base" fun definition =>
    ((definition.extending "t.Leaf").withStaticField "limit" (.primitive .int)
      (.scalar (.int 5))).withField "size" (.primitive .long)
  let (_, host) := host.newInstance "t.Leaf" [("note", .null)]
  host

theorem held_interlocked :
    interlocked.object? { id := 1 } = some (.plain "t.Leaf" [("note", .null)]) := by
  cbv

/-- Both kinds of fields are found one level up, before the classes come round; the field that is
not declared is found on the object. -/
theorem values_found_where_declared_interlocked :
    interlocked.types.classExists "t.Leaf" = true ∧
    interlocked.types.resolveField "t.Leaf" "limit" .static =
      .ok (some ⟨"limit", "t.Base", .field (.primitive .int), .static⟩) ∧
    Loops.Ends (Loops.staticField interlocked · "t.Leaf" "limit") (some (.scalar (.int 5))) ∧
    Loops.Ends (Loops.instanceField interlocked · { id := 1 } "size")
      (some (.scalar (.long 0))) ∧
    Loops.Ends (Loops.instanceField interlocked · { id := 1 } "note") (some .null) := by
  have known : interlocked.types.classExists "t.Leaf" = true := by decide +kernel
  have limit : interlocked.types.resolveField "t.Leaf" "limit" .static =
      .ok (some ⟨"limit", "t.Base", .field (.primitive .int), .static⟩) := by cbv
  have size : interlocked.types.resolveField "t.Leaf" "size" .onInstance =
      .ok (some ⟨"size", "t.Base", .field (.primitive .long), .onInstance⟩) := by cbv
  have stored : interlocked.stored? "t.Base" "limit" = some (.scalar (.int 5)) := by cbv
  obtain ⟨_, value, shape, same, -, static⟩ :=
    (values_found_where_declared interlocked known "limit").1 _ limit
  obtain ⟨-, -, sized⟩ := values_found_where_declared interlocked known "size"
  obtain ⟨_, other, -, zero⟩ := ((sized _ _ held_interlocked).2 rfl).1 _ size
  obtain ⟨-, -, noted⟩ := values_found_where_declared interlocked known "note"
  cases shape
  cases other
  rw [same, stored] at static
  exact ⟨known, limit, static, zero, ((noted _ _ held_interlocked).1 .null rfl).2⟩

end Inspector
