import Inspector.Proofs.Introspection.FieldReads

/-!
# Classes named with slashes

A client may write a class with dots or with slashes. Look-ups of signatures make no difference
between the two (`answer_fieldSignature_dotted`, `answer_methodSignature_dotted`), and neither does
the list of static fields as to its rows. But the values of the rows are read by the name as it
stands, and no class is held by a name with slashes: so every value is missing from the answer, and
nothing comes to be pinned (`answer_staticFields_undotted`).
-/

namespace Inspector

open Outcome

namespace TypeSource

variable (types : TypeSource) (name : String)

@[simp] theorem hierarchy_dottedName :
    types.hierarchy (dottedName name) = types.hierarchy name := by
  rw [hierarchy, hierarchy, dottedName_dottedName]

theorem enumerateFields_dottedName (kind : MemberKind) :
    types.enumerateFields (dottedName name) kind = types.enumerateFields name kind := by
  rw [enumerateFields, enumerateFields, hierarchy_dottedName]

theorem fieldSignature_dottedName (field : String) (kind : MemberKind) :
    types.fieldSignature (dottedName name) field kind = types.fieldSignature name field kind := by
  rw [fieldSignature, fieldSignature, resolveField, resolveField, hierarchy_dottedName]

theorem methodSignature_dottedName (method : String) (hints : List String) (kind : MemberKind) :
    types.methodSignature (dottedName name) method hints kind =
      types.methodSignature name method hints kind := by
  rw [methodSignature, methodSignature, resolveMethod, resolveMethod, hierarchy_dottedName]

end TypeSource

/-- The entry of a field whose value was not found. -/
def FieldSummary.withoutValue (row : FieldSummary) : Wire.FieldEntry :=
  { name := row.name, typeName := row.typeName, descriptor := row.descriptor
    value := .notPresent, objectId := Wire.noObject }

namespace HostView

/-! ## Values are never left out -/

theorem toWire_ne_notPresent (scalar : Scalar) : scalar.toWire ≠ .notPresent := by
  cases scalar <;> exact nofun

/-- Whatever is found is sent, if only as a reference or as null. -/
theorem value_serializeWith_ne (view : HostView)
    (item : Option (HostValue → PinTable → Wire.Value × PinTable)) (value : HostValue)
    (pins : PinTable) : (view.serializeWith item value pins).1.value ≠ .notPresent := by
  cases value with
  | scalar scalar => exact toWire_ne_notPresent scalar
  | null => exact nofun
  | object object =>
    rw [serializeWith]
    split
    · exact nofun
    · split
      · exact nofun
      · exact toWire_ne_notPresent _
      · exact nofun
      · exact nofun

theorem value_send_ne (view : HostView) (levels : Nat) (value : HostValue) (pins : PinTable) :
    (view.send levels value pins).1.value ≠ .notPresent := by
  cases levels with
  | zero => exact view.value_serializeWith_ne _ value pins
  | succ levels => exact view.value_serializeWith_ne _ value pins

theorem fieldEntries_withoutValue (view : HostView) (rows : List FieldSummary) (pins : PinTable) :
    view.fieldEntries (rows.map fun row => (row, none)) pins =
      (rows.map FieldSummary.withoutValue, pins) := by
  induction rows with
  | nil => rfl
  | cons row rest ih =>
    rw [List.map_cons, fieldEntries, fieldEntry]
    dsimp only
    rw [ih]
    rfl

/-! ## Answers -/

variable (view : HostView) (state : QueryState) (name : String)

theorem answer_fieldSignature_dotted (field : String) :
    view.answer state (.fieldSignature (.cls (dottedName name)) field) =
      view.answer state (.fieldSignature (.cls name) field) := by
  simp only [answer, lookUp, target, ok_bind, TypeSource.fieldSignature_dottedName]

theorem answer_methodSignature_dotted (method : String) (hints : List String) :
    view.answer state (.methodSignature (.cls (dottedName name)) method hints) =
      view.answer state (.methodSignature (.cls name) method hints) := by
  simp only [answer, lookUp, target, ok_bind, TypeSource.methodSignature_dottedName]

theorem answer_staticFields_of_error {e : ReflectionError}
    (failed : view.types.enumerateFields name .static = .error e) :
    view.answer state (.staticFields name) = (.error (.reflection e), state) := by
  simp only [answer, lookUp, failed, mapError_error, error_bind]

end HostView

namespace InMemoryHost

variable (host : InMemoryHost) (state : QueryState) {name : String} {rows : List FieldSummary}

theorem answer_staticFields
    (listed : host.types.enumerateFields name .static = .ok rows) :
    let answered := host.view.fieldEntries
      (rows.map fun row => (row, (host.staticField name row.name).value?)) state.pins
    host.view.answer state (.staticFields name) =
      (.ok (.fields answered.1), { state with pins := answered.2 }) := by
  have values : HostView.readFields (host.view.staticField name) rows =
      .ok (rows.map fun row => (row, (host.staticField name row.name).value?)) :=
    HostView.readFields_of_ends (host.readsEnd.static listed)
  have listed : host.view.types.enumerateFields name .static = .ok rows := listed
  simp only [HostView.answer, HostView.lookUp, listed, mapError_ok, ok_bind, values, pure_eq_ok]

/-- Under a name with slashes no value of a static field is found. -/
theorem answer_staticFields_undotted (undotted : dottedName name ≠ name)
    (listed : host.types.enumerateFields name .static = .ok rows) :
    host.view.answer state (.staticFields name) =
      (.ok (.fields (rows.map FieldSummary.withoutValue)), state) := by
  have absent (field : String) : host.staticField name field = .absent := climb_undotted undotted
  rw [host.answer_staticFields state listed]
  simp only [absent, Lookup.value?, HostView.fieldEntries_withoutValue]

/-- Under its dotted name, the first static field of a class has a value. -/
theorem answer_staticFields_dotted {row : FieldSummary}
    (listed : host.types.enumerateFields name .static = .ok (row :: rows)) :
    ∃ first others after, first.value ≠ .notPresent ∧
      host.view.answer state (.staticFields (dottedName name)) =
        (.ok (.fields (first :: others)), after) := by
  obtain ⟨value, found⟩ := climb_listed_finds gives_staticOf listed List.mem_cons_self
  have read : host.staticField (dottedName name) row.name = .found value := found
  rw [← TypeSource.enumerateFields_dottedName] at listed
  rw [host.answer_staticFields state listed, List.map_cons, read, Lookup.value?,
    HostView.fieldEntries, HostView.fieldEntry]
  exact ⟨_, _, _, host.view.value_send_ne _ value state.pins, rfl⟩

end InMemoryHost

/-- A class may be named with dots or with slashes where a signature is asked for. Where its static
fields are asked for, this makes no difference either if the name has dots only, or if there are no
fields to be listed; otherwise it does: under a name with slashes the fields are listed without
values, and nothing is pinned. -/
theorem class_named_either_way (host : InMemoryHost) (state : QueryState) (name : String) :
    (∀ field, host.view.answer state (.fieldSignature (.cls name) field) =
      host.view.answer state (.fieldSignature (.cls (dottedName name)) field)) ∧
    (∀ method hints, host.view.answer state (.methodSignature (.cls name) method hints) =
      host.view.answer state (.methodSignature (.cls (dottedName name)) method hints)) ∧
    (host.view.answer state (.staticFields name) =
        host.view.answer state (.staticFields (dottedName name)) ↔
      dottedName name = name ∨
        ∀ row rows, host.types.enumerateFields (dottedName name) .static ≠ .ok (row :: rows)) ∧
    (dottedName name ≠ name →
      ∀ rows, host.types.enumerateFields (dottedName name) .static = .ok rows →
        host.view.answer state (.staticFields name) =
          (.ok (.fields (rows.map FieldSummary.withoutValue)), state)) := by
  refine ⟨fun field => (host.view.answer_fieldSignature_dotted state name field).symm,
    fun method hints => (host.view.answer_methodSignature_dotted state name method hints).symm,
    ?_, fun undotted rows listed => ?_⟩
  · rw [TypeSource.enumerateFields_dottedName]
    constructor
    · intro same
      by_cases dotted : dottedName name = name
      · exact .inl dotted
      refine .inr fun row rows listed => ?_
      obtain ⟨first, others, after, present, answered⟩ :=
        host.answer_staticFields_dotted state listed
      rw [host.answer_staticFields_undotted state dotted listed, answered] at same
      cases same
      exact present rfl
    · rintro (dotted | none)
      · rw [dotted]
      · by_cases dotted : dottedName name = name
        · rw [dotted]
        · have again := host.types.enumerateFields_dottedName name .static
          cases listed : host.types.enumerateFields name .static with
          | error e =>
            rw [host.view.answer_staticFields_of_error state name listed,
              host.view.answer_staticFields_of_error state _ (again.trans listed)]
          | ok rows =>
            cases rows with
            | cons row rows => exact absurd listed (none row rows)
            | nil =>
              rw [host.answer_staticFields state listed,
                host.answer_staticFields state (again.trans listed)]
              rfl
  · rw [TypeSource.enumerateFields_dottedName] at listed
    exact host.answer_staticFields_undotted state undotted listed

/-- A host with a class that has a static field. -/
def till : InMemoryHost :=
  InMemoryHost.empty.define "shop.Till" fun definition =>
    definition.withStaticField "coins" (.primitive .int) (.scalar (.int 7))

/-- The entry of that field. -/
def coins (value : Wire.Value) : Wire.FieldEntry :=
  { name := "coins", typeName := "int", descriptor := "I", value, objectId := Wire.noObject }

theorem till_undotted : dottedName "shop/Till" ≠ "shop/Till" := by
  have dotted : dottedName "shop/Till" = "shop.Till" := by cbv
  rw [dotted]
  decide

theorem till_lists : till.types.enumerateFields (dottedName "shop/Till") .static =
    .ok [{ name := "coins", typeName := "int", descriptor := "I" }] := by
  cbv

/-- The field has its value under the dotted name of its class, and none under the same name with a
slash. -/
theorem static_value_lost_under_slashes :
    till.view.answer {} (.staticFields (dottedName "shop/Till")) =
        (.ok (.fields [coins (.int 7)]), {}) ∧
      till.view.answer {} (.staticFields "shop/Till") = (.ok (.fields [coins .notPresent]), {}) ∧
      till.view.answer {} (.staticFields "shop/Till") ≠
        till.view.answer {} (.staticFields (dottedName "shop/Till")) := by
  have dotted : till.view.answer {} (.staticFields (dottedName "shop/Till")) =
      (.ok (.fields [coins (.int 7)]), {}) := by
    have found : till.staticField (dottedName "shop/Till") "coins" = .found (.scalar (.int 7)) := by
      cbv
    rw [till.answer_staticFields {} till_lists, List.map_cons, found]
    rfl
  have slashed : till.view.answer {} (.staticFields "shop/Till") =
      (.ok (.fields [coins .notPresent]), {}) := by
    have listed := till_lists
    rw [TypeSource.enumerateFields_dottedName] at listed
    exact till.answer_staticFields_undotted {} till_undotted listed
  refine ⟨dotted, slashed, fun same => ?_⟩
  rw [dotted, slashed] at same
  cases same

/-- The signature of the field is the same under both names, while its value shows up under one of
them only. -/
theorem class_named_either_way_till :
    till.view.answer {} (.fieldSignature (.cls "shop/Till") "coins") =
        till.view.answer {} (.fieldSignature (.cls (dottedName "shop/Till")) "coins") ∧
      till.view.answer {} (.staticFields "shop/Till") = (.ok (.fields [coins .notPresent]), {}) ∧
      till.view.answer {} (.staticFields "shop/Till") ≠
        till.view.answer {} (.staticFields (dottedName "shop/Till")) := by
  obtain ⟨signature, -, same, slashed⟩ := class_named_either_way till {} "shop/Till"
  refine ⟨signature "coins", slashed till_undotted _ till_lists, fun equal => ?_⟩
  rcases same.1 equal with dotted | none
  · exact till_undotted dotted
  · exact none _ _ till_lists

end Inspector
