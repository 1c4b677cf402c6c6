import Inspector.Proofs.Outcome
import Inspector.Simulation.Environment

/-!
# Reading fields comes to an end

A search for a field's value goes up the superclasses and is not guarded against cycles. The fields
of an answer are those that the superclasses declare, so that each search meets its field before it
would come round (`climb_finds`). Hence no answer of a host in memory is ever given up as endless
(`Environment.readsEnd`, `HostView.settled_answer`), however its classes extend each other.
-/

namespace Inspector

open Outcome

/-! ## Searches for declared fields -/

theorem TypeSource.exists_chainFrom (types : TypeSource) {seen : List String} {name : String}
    (fresh : name ∉ seen) : ∃ above, types.chainFrom seen name = name :: above := by
  rw [chainFrom, if_neg fresh]
  exact ⟨_, rfl⟩

theorem TypeSource.chainFrom_extended {types : TypeSource} {seen : List String}
    {name parent : String} (fresh : name ∉ seen) (extended : types.superclass name = some parent) :
    types.chainFrom seen name = name :: types.chainFrom (name :: seen) parent := by
  rw [chainFrom, if_neg fresh]
  split
  · rename_i none
    rw [none] at extended
    cases extended
  · rename_i other some
    rw [some] at extended
    cases extended
    rfl

theorem TypeSource.chainFrom_top {types : TypeSource} {seen : List String} {name : String}
    (fresh : name ∉ seen) (top : types.superclass name = none) :
    types.chainFrom seen name = [name] := by
  rw [chainFrom, if_neg fresh]
  split
  · rfl
  · rename_i other some
    rw [some] at top
    cases top

theorem Lookup.value?_eq_some {found : Lookup} {value : HostValue} :
    found.value? = some value ↔ found = .found value := by
  cases found <;> simp [value?]

namespace InMemoryHost

variable {host : InMemoryHost} {read : ClassDef → Option HostValue}

/-- A search gives what the first class on its way gives that gives anything. -/
theorem value?_climb (host : InMemoryHost) (read : ClassDef → Option HostValue)
    (seen : List String) (name : String) :
    (host.climb read seen name).value? = (host.types.chainFrom seen name).findSome? fun level =>
      (host.classes.get? level).bind read := by
  fun_induction host.climb read seen name with
  | case1 seen name old =>
    rw [TypeSource.chainFrom, if_pos old]
    rfl
  | case2 seen name fresh missing =>
    have top : host.types.superclass name = none := by simp [types, missing]
    rw [TypeSource.chainFrom_top fresh top]
    simp [missing, Lookup.value?]
  | case3 seen name fresh here found value given =>
    obtain ⟨above, first⟩ := host.types.exists_chainFrom fresh
    simp [first, found, given, Lookup.value?]
  | case4 seen name fresh here found silent extended =>
    have top : host.types.superclass name = none := by simp [types, found, extended]
    rw [TypeSource.chainFrom_top fresh top]
    simp [found, silent, Lookup.value?]
  | case5 seen name fresh here found silent parent extended ih =>
    have up : host.types.superclass name = some parent := by simp [types, found, extended]
    rw [TypeSource.chainFrom_extended fresh up, ih]
    simp [found, silent]

/-- A search finds a value if some class on its way gives one. -/
theorem climb_finds {seen : List String} {name level : String} {definition : ClassDef}
    (onWay : level ∈ host.types.chainFrom seen name)
    (held : host.classes.get? level = some definition) (given : (read definition).isSome = true) :
    ∃ value, host.climb read seen name = .found value := by
  have finds : (host.climb read seen name).value?.isSome = true := by
    rw [value?_climb, List.findSome?_isSome_iff]
    exact ⟨level, onWay, by rwa [held]⟩
  obtain ⟨value, found⟩ := Option.isSome_iff_exists.1 finds
  exact ⟨value, Lookup.value?_eq_some.1 found⟩

/-- No class is held by a name that is not dotted, so a search from there ends at once. -/
theorem climb_undotted {name : String} (undotted : dottedName name ≠ name) :
    host.climb read [] name = .absent := by
  rw [climb, if_neg List.not_mem_nil]
  split
  · rfl
  · rename_i definition found
    exact absurd (host.dotted name (Table.mem_keys_of_get? found)) undotted

/-- How a class gives values for the fields of a kind that it declares. -/
def Gives (read : String → ClassDef → Option HostValue) (kind : MemberKind) : Prop :=
  ∀ {definition : ClassDef} {declared : FieldDecl}, declared ∈ definition.fields →
    kind.admits declared.isStatic = true → (read declared.name definition).isSome = true

theorem gives_staticOf : Gives staticOf .static := by
  intro definition declared present suits
  rw [staticOf, Option.isSome_map, List.find?_isSome]
  exact ⟨declared, present, by simpa [MemberKind.admits] using suits⟩

theorem gives_unassignedOf : Gives unassignedOf .onInstance := by
  intro definition declared present suits
  rw [unassignedOf, Option.isSome_map, List.find?_isSome]
  exact ⟨declared, present, by simpa [MemberKind.admits] using suits⟩

/-- The search for a field that is in the list of a class's fields finds a value, if it sets out
from the dotted name of the class. -/
theorem climb_listed_finds {read : String → ClassDef → Option HostValue} {kind : MemberKind}
    (gives : Gives read kind) {className : String} {rows : List FieldSummary}
    (listed : host.types.enumerateFields className kind = .ok rows) {row : FieldSummary}
    (present : row ∈ rows) :
    ∃ value, host.climb (read row.name) [] (dottedName className) = .found value := by
  rw [TypeSource.enumerateFields, TypeSource.hierarchy] at listed
  split at listed
  · cases listed
    obtain ⟨level, onWay, declares⟩ := List.mem_flatMap.1 present
    obtain ⟨declared, among, rfl⟩ := List.mem_map.1 declares
    obtain ⟨among, suits⟩ := List.mem_filter.1 among
    simp only [types] at among
    cases held : host.classes.get? level with
    | none => simp [held] at among
    | some definition =>
      simp only [held, Option.map_some, Option.getD_some] at among
      exact climb_finds onWay held (gives among suits)
  · cases listed

/-- The search for a field that is in the list of a class's fields ends. -/
theorem climb_listed_ends {read : String → ClassDef → Option HostValue} {kind : MemberKind}
    (gives : Gives read kind) {className : String} {rows : List FieldSummary}
    (listed : host.types.enumerateFields className kind = .ok rows) {row : FieldSummary}
    (present : row ∈ rows) : (host.climb (read row.name) [] className).ends = true := by
  by_cases dotted : dottedName className = className
  · obtain ⟨value, found⟩ := climb_listed_finds gives listed present
    rw [← dotted, found]
    rfl
  · rw [climb_undotted dotted]
    rfl

end InMemoryHost

/-! ## Answers -/

namespace HostView

/-- The search for each field that is listed comes to an end. -/
structure ReadsEnd (view : HostView) : Prop where
  static : ∀ {className : String} {rows : List FieldSummary},
    view.types.enumerateFields className .static = .ok rows →
    ∀ row ∈ rows, (view.staticField className row.name).ends = true
  onInstance : ∀ {object : ObjectRef} {className : String} {rows : List FieldSummary},
    view.memberClass object = .ok className →
    view.types.enumerateFields className .onInstance = .ok rows →
    ∀ row ∈ rows, (view.instanceField object row.name).ends = true

theorem readFields_of_ends {read : String → Lookup} {rows : List FieldSummary}
    (ends : ∀ row ∈ rows, (read row.name).ends = true) :
    readFields read rows = .ok (rows.map fun row => (row, (read row.name).value?)) := by
  refine mapM_eq_ok_map fun row present => ?_
  have here := ends row present
  cases outcome : read row.name with
  | found value => rfl
  | absent => rfl
  | endless =>
    rw [outcome] at here
    cases here

/-- Not an endless read, whatever else the outcome is. -/
def Settled {α : Type} (outcome : Except QueryError α) : Prop :=
  ∀ field, outcome ≠ .error (.endlessRead field)

section Settled

variable {α β : Type}

theorem settled_ok (value : α) : Settled (.ok value) := nofun

theorem settled_mapError (outcome : Except ReflectionError α) :
    Settled (outcome.mapError .reflection) := by
  cases outcome with
  | error e => nofun
  | ok value => nofun

theorem settled_bind {first : Except QueryError α} {next : α → Except QueryError β}
    (settled : Settled first) (later : ∀ value, first = .ok value → Settled (next value)) :
    Settled (first >>= next) := by
  cases first with
  | error e =>
    intro field same
    exact settled field (congrArg Except.error (Except.error.inj same))
  | ok value => exact later value rfl

end Settled

theorem settled_referent (pins : PinTable) (id : Int64) : Settled (referent pins id) := by
  rw [referent]
  split
  · exact settled_ok _
  · nofun

theorem settled_memberClass (view : HostView) (object : ObjectRef) :
    Settled (view.memberClass object) :=
  settled_bind (settled_mapError _) fun _ _ => settled_ok _

theorem settled_target (view : HostView) (pins : PinTable) (target : Wire.Target) :
    Settled (view.target pins target) := by
  cases target with
  | cls name => exact settled_ok _
  | object id =>
    exact settled_bind (settled_referent pins id) fun object _ =>
      settled_bind (view.settled_memberClass object) fun _ _ => settled_ok _

/-- No question is given up as endless where searches come to an end. -/
theorem settled_lookUp {view : HostView} (ends : view.ReadsEnd) (pins : PinTable)
    (body : Wire.RequestBody) : Settled (view.lookUp pins body) := by
  cases body with
  | loadedClasses => exact settled_ok _
  | processStatus => exact settled_ok _
  | setLogStream enabled => exact settled_ok _
  | staticFields className =>
    refine settled_bind (settled_mapError _) fun rows listed => ?_
    rw [readFields_of_ends (ends.static (mapError_eq_ok.1 listed))]
    exact settled_ok _
  | objectFields id =>
    refine settled_bind (settled_referent pins id) fun object _ => ?_
    refine settled_bind (view.settled_memberClass object) fun className member => ?_
    refine settled_bind (settled_mapError _) fun rows listed => ?_
    rw [readFields_of_ends (ends.onInstance member (mapError_eq_ok.1 listed))]
    exact settled_ok _
  | fieldSignature target field =>
    exact settled_bind (view.settled_target pins target) fun _ _ =>
      settled_bind (settled_mapError _) fun _ _ => settled_ok _
  | methodSignature target method hints =>
    exact settled_bind (view.settled_target pins target) fun _ _ =>
      settled_bind (settled_mapError _) fun _ _ => settled_ok _
  | readSequence id =>
    exact settled_bind (settled_referent pins id) fun _ _ =>
      settled_bind (settled_mapError _) fun _ _ => settled_ok _

theorem settled_answer {view : HostView} (ends : view.ReadsEnd) (state : QueryState)
    (body : Wire.RequestBody) : Settled (view.answer state body).1 := by
  have settled := settled_lookUp ends state.pins body
  cases found : view.lookUp state.pins body with
  | error e =>
    rw [found] at settled
    simp only [answer, found]
    intro field same
    exact settled field (congrArg Except.error (Except.error.inj same))
  | ok reply =>
    simp only [answer, found]
    exact settled_ok _

end HostView

/-! ## Hosts in memory -/

theorem InMemoryHost.readsEnd (host : InMemoryHost) : host.view.ReadsEnd where
  static listed _ present := climb_listed_ends gives_staticOf listed present
  onInstance {object className rows} member listed row present := by
    change (host.instanceField object row.name).ends = true
    rw [instanceField]
    split
    · rename_i own fields found
      have same : own = className := by
        have type : host.view.knownType object = .ok (.cls own) := by
          simp [HostView.knownType, view, found, HeapObject.type]
        rw [HostView.memberClass, type] at member
        exact Except.ok.inj member
      split
      · rfl
      · rw [same]
        exact climb_listed_ends gives_unassignedOf listed present
    · rfl

/-- Reading comes to an end at any host, seen to any extent. -/
theorem Environment.readsEnd (env : Environment) : env.view.ReadsEnd := by
  rw [view]
  split
  · exact env.host.readsEnd
  · exact ⟨fun _ _ _ => rfl, fun _ _ _ _ => rfl⟩
  · exact ⟨fun _ _ _ => rfl, fun _ _ _ _ => rfl⟩

end Inspector
