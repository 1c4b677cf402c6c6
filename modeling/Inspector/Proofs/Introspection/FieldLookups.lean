import Inspector.Proofs.Introspection.FieldReads

/-!
# Looking up one field and listing them all

A client may ask for the descriptor of one field, or for all fields of the same class or object with
their values. The first search stops at the first declaration of the name, the second goes through
all levels; nonetheless the descriptor is that of the first row with the name, however the classes
shadow, extend or miss each other (`TypeSource.fieldSignature_eq`). Where one of the two questions
fails, the other fails in the same way (`field_lookup_agrees_with_listing`).
-/

namespace Inspector

open Outcome

namespace TypeSource

variable (types : TypeSource) (kind : MemberKind) (field : String)

/-- The declaration that a look-up finds in a class is the first that its rows show. -/
theorem find?_fieldsAt (level : String) :
    ((types.fieldsAt kind level).find? fun row => row.name == field).map (·.descriptor) =
      (types.fieldAt field kind level).map Member.signature := by
  rw [fieldsAt, fieldAt, List.find?_map, List.find?_filter, Option.map_map, Option.map_map]
  simp only [Bool.decide_and, Bool.decide_eq_true]
  rfl

/-- The same over several levels: the rows of a level come before those of the levels above. -/
theorem find?_flatMap_fieldsAt (levels : List String) :
    ((levels.flatMap (types.fieldsAt kind)).find? fun row => row.name == field).map
        (·.descriptor) =
      (levels.findSome? (types.fieldAt field kind)).map Member.signature := by
  induction levels with
  | nil => rfl
  | cons level above ih =>
    have here := types.find?_fieldsAt kind field level
    rw [List.flatMap_cons, List.find?_append, List.findSome?_cons]
    cases found : types.fieldAt field kind level with
    | none =>
      rw [found, Option.map_none, Option.map_eq_none_iff] at here
      rw [here, Option.none_or]
      exact ih
    | some member =>
      rw [found] at here
      obtain ⟨row, first, same⟩ := Option.map_eq_some_iff.1 here
      rw [first, Option.some_or, Option.map_some, same]
      rfl

/-- Looking a field up is listing the fields and taking the first of the name. -/
theorem fieldSignature_eq (className : String) :
    types.fieldSignature className field kind =
      types.enumerateFields className kind >>= fun rows =>
        .ok ((rows.find? fun row => row.name == field).map (·.descriptor)) := by
  rw [fieldSignature, resolveField, enumerateFields]
  cases types.hierarchy className with
  | error e => rfl
  | ok levels => simp only [ok_bind, pure_eq_ok, types.find?_flatMap_fieldsAt]

end TypeSource

namespace HostView

/-- The question for all fields of a target. -/
def listing : Wire.Target → Wire.RequestBody
  | .cls name => .staticFields name
  | .object id => .objectFields id

/-- The descriptor in the first row of the name. -/
def shown (field : String) (entries : List Wire.FieldEntry) : Option String :=
  (entries.find? fun entry => entry.name == field).map (·.descriptor)

/-- Sending the values leaves the names and descriptors of the rows as they are. -/
theorem shown_fieldEntries (view : HostView) (field : String)
    (rows : List (FieldSummary × Option HostValue)) (pins : PinTable) :
    shown field (view.fieldEntries rows pins).1 =
      ((rows.map (·.1)).find? fun row => row.name == field).map (·.descriptor) := by
  induction rows generalizing pins with
  | nil => rfl
  | cons row rest ih =>
    obtain ⟨row, value⟩ := row
    rw [fieldEntries, List.map_cons, shown]
    simp only [List.find?_cons, fieldEntry]
    cases row.name == field with
    | true => rfl
    | false => exact ih _

/-- How the answer to a look-up goes with the answer to the listing: both fail alike, or the one
tells what the other shows. -/
inductive Matched (field : String) :
    (listed found : Except QueryError (Wire.ResponseBody × PinTable)) → Prop
  | failed (e : QueryError) : Matched field (.error e) (.error e)
  | told (entries : List Wire.FieldEntry) (pins after : PinTable) :
    Matched field (.ok (.fields entries, after)) (.ok (signatureAnswer (shown field entries), pins))

theorem Matched.bind {α : Type} {field : String} (first : Except QueryError α)
    {listed found : α → Except QueryError (Wire.ResponseBody × PinTable)}
    (next : ∀ value, first = .ok value → Matched field (listed value) (found value)) :
    Matched field (first >>= listed) (first >>= found) := by
  cases first with
  | error e => exact .failed e
  | ok value => exact next value rfl

/-- The fields of one class, listed with their values and looked up. -/
theorem matched_class (view : HostView) (pins : PinTable) {className field : String}
    {kind : MemberKind} {read : String → Lookup}
    (ends : ∀ rows, view.types.enumerateFields className kind = .ok rows →
      ∀ row ∈ rows, (read row.name).ends = true) :
    Matched field
      (do
        let rows ← (view.types.enumerateFields className kind).mapError .reflection
        let values ← readFields read rows
        let (entries, pins) := view.fieldEntries values pins
        return (.fields entries, pins))
      (do
        let found ← (view.types.fieldSignature className field kind).mapError .reflection
        return (signatureAnswer found, pins)) := by
  rw [TypeSource.fieldSignature_eq]
  cases listed : view.types.enumerateFields className kind with
  | error e => exact .failed _
  | ok rows =>
    have told : Matched field _ _ := .told
      (view.fieldEntries (rows.map fun row => (row, (read row.name).value?)) pins).1 pins
      (view.fieldEntries (rows.map fun row => (row, (read row.name).value?)) pins).2
    rw [shown_fieldEntries, List.map_map, Function.comp_def, List.map_id'] at told
    rw [mapError_ok, ok_bind, readFields_of_ends (ends rows listed)]
    exact told

theorem matched_lookUp {view : HostView} (ends : view.ReadsEnd) (pins : PinTable)
    (target : Wire.Target) (field : String) :
    Matched field (view.lookUp pins (listing target))
      (view.lookUp pins (.fieldSignature target field)) := by
  cases target with
  | cls name => exact view.matched_class pins fun rows => ends.static
  | object id =>
    rw [listing, lookUp, lookUp, HostView.target, bind_assoc]
    refine .bind (referent pins id) fun object _ => ?_
    rw [bind_assoc]
    refine .bind (view.memberClass object) fun className member => ?_
    exact view.matched_class pins fun rows => ends.onInstance member

theorem answer_fst (view : HostView) (state : QueryState) (body : Wire.RequestBody) :
    (view.answer state body).1 = (view.lookUp state.pins body).map (·.1) := by
  unfold answer
  cases view.lookUp state.pins body <;> rfl

/-! ## Reading off the three outcomes -/

theorem signatureAnswer_eq_signature {found : Option String} {text : String} :
    signatureAnswer found = .signature text ↔ found = some text := by
  cases found <;> simp [signatureAnswer]

theorem signatureAnswer_eq_notFound {found : Option String} :
    signatureAnswer found = .notFound ↔ found = none := by
  cases found <;> simp [signatureAnswer]

theorem shown_eq_none {field : String} {entries : List Wire.FieldEntry} :
    shown field entries = none ↔ ∀ row ∈ entries, row.name ≠ field := by
  simp [shown]

section Outcomes

variable {field : String} {listed found : Except QueryError (Wire.ResponseBody × PinTable)}

theorem Matched.signature_iff (matched : Matched field listed found) (text : String) :
    found.map (·.1) = .ok (.signature text) ↔
      ∃ entries row, listed.map (·.1) = .ok (.fields entries) ∧
        entries.find? (·.name == field) = some row ∧ row.descriptor = text := by
  cases matched with
  | failed e => exact ⟨nofun, nofun⟩
  | told entries pins after =>
    simp only [Except.map, Except.ok.injEq, signatureAnswer_eq_signature, shown,
      Option.map_eq_some_iff, Wire.ResponseBody.fields.injEq, exists_and_left, exists_eq_left']

theorem Matched.notFound_iff (matched : Matched field listed found) :
    found.map (·.1) = .ok .notFound ↔
      ∃ entries, listed.map (·.1) = .ok (.fields entries) ∧ ∀ row ∈ entries, row.name ≠ field := by
  cases matched with
  | failed e => exact ⟨nofun, nofun⟩
  | told entries pins after =>
    simp only [Except.map, Except.ok.injEq, signatureAnswer_eq_notFound, shown_eq_none,
      Wire.ResponseBody.fields.injEq, exists_eq_left']

theorem Matched.error_iff (matched : Matched field listed found) (e : QueryError) :
    found.map (·.1) = .error e ↔ listed.map (·.1) = .error e := by
  cases matched with
  | failed e => exact Iff.rfl
  | told entries pins after => exact ⟨nofun, nofun⟩

end Outcomes

end HostView

/-- On every host, for every class or object that a client may name, known or not: the descriptor of
a field is that of the first row of its name among the listed fields; it is not found exactly when
the fields are listed and no row has the name; and one question fails exactly when the other does,
in the same way. -/
theorem field_lookup_agrees_with_listing (host : InMemoryHost) (state : QueryState)
    (target : Wire.Target) (field : String) :
    let listed := (host.view.answer state (HostView.listing target)).1
    let found := (host.view.answer state (.fieldSignature target field)).1
    (∀ text, found = .ok (.signature text) ↔
      ∃ entries row, listed = .ok (.fields entries) ∧
        entries.find? (·.name == field) = some row ∧ row.descriptor = text) ∧
    (found = .ok .notFound ↔
      ∃ entries, listed = .ok (.fields entries) ∧ ∀ row ∈ entries, row.name ≠ field) ∧
    ∀ e, found = .error e ↔ listed = .error e := by
  intro listed found
  have matched := HostView.matched_lookUp host.readsEnd state.pins target field
  simp only [listed, found, HostView.answer_fst]
  exact ⟨matched.signature_iff, matched.notFound_iff, matched.error_iff⟩

/-- A till and the desk that it stands on, which both count coins. -/
def tills : InMemoryHost :=
  let host := InMemoryHost.empty.define "shop.Desk"
    (·.withStaticField "coins" (.primitive .long) (.scalar (.long 9)))
  host.define "shop.Till" fun definition =>
    (definition.extending "shop.Desk").withStaticField "coins" (.primitive .int) (.scalar (.int 7))

theorem chain_tills : tills.types.chainFrom [] "shop.Till" =
    ["shop.Till", "shop.Desk", "java.lang.Object"] := by
  have till : tills.types.superclass "shop.Till" = some "shop.Desk" := by decide +kernel
  have desk : tills.types.superclass "shop.Desk" = some "java.lang.Object" := by decide +kernel
  have root : tills.types.superclass "java.lang.Object" = none := by decide +kernel
  rw [TypeSource.chainFrom_extended (by simp) till, TypeSource.chainFrom_extended (by simp) desk,
    TypeSource.chainFrom_top (by simp) root]

theorem answer_tills : (tills.view.answer {} (.staticFields "shop.Till")).1 =
    .ok (.fields [⟨"coins", "int", "I", .int 7, Wire.noObject⟩,
      ⟨"coins", "long", "J", .int 7, Wire.noObject⟩]) := by
  have rows : tills.view.types.enumerateFields "shop.Till" .static =
      .ok [⟨"coins", "int", "I"⟩, ⟨"coins", "long", "J"⟩] := by
    have dotted : dottedName "shop.Till" = "shop.Till" := by cbv
    have known : tills.view.types.classExists "shop.Till" = true := by decide +kernel
    have chain : tills.view.types.chainFrom [] "shop.Till" = _ := chain_tills
    rw [TypeSource.enumerateFields, TypeSource.hierarchy, dotted, if_pos known, chain]
    have found : ["shop.Till", "shop.Desk", "java.lang.Object"].flatMap
        (tills.view.types.fieldsAt .static) =
        [⟨"coins", "int", "I"⟩, ⟨"coins", "long", "J"⟩] := by decide +kernel
    exact congrArg Except.ok found
  have read : tills.view.staticField "shop.Till" "coins" = .found (.scalar (.int 7)) := by
    refine Lookup.value?_eq_some.1 ((tills.value?_climb _ _ _).trans ?_)
    rw [chain_tills]
    decide +kernel
  rw [HostView.answer_fst, HostView.lookUp, rows]
  simp only [HostView.readFields, mapError_ok, ok_bind, List.mapM_cons, read, List.mapM_nil]
  rfl

/-- Of the two rows for coins the till's own comes first, there is none for notes, and nothing can
be listed for an object or a class that is not known. -/
theorem field_lookup_agrees_with_listing_tills :
    let listed (target : Wire.Target) := (tills.view.answer {} (HostView.listing target)).1
    let found (target : Wire.Target) (field : String) :=
      (tills.view.answer {} (.fieldSignature target field)).1
    listed (.cls "shop.Till") = .ok (.fields [⟨"coins", "int", "I", .int 7, Wire.noObject⟩,
        ⟨"coins", "long", "J", .int 7, Wire.noObject⟩]) ∧
      found (.cls "shop.Till") "coins" = .ok (.signature "I") ∧
      found (.cls "shop.Till") "notes" = .ok .notFound ∧
      found (.cls "shop.Safe") "coins" = .error (.reflection (.unknownType "shop.Safe")) ∧
      found (.object 5) "coins" = .error (.unknownObjectId 5) := by
  intro listed found
  have noClass : (tills.view.answer {} (.staticFields "shop.Safe")).1 =
      .error (.reflection (.unknownType "shop.Safe")) := by
    have dotted : dottedName "shop.Safe" = "shop.Safe" := by cbv
    have unknown : tills.view.types.classExists "shop.Safe" = false := by decide +kernel
    rw [HostView.answer_fst, HostView.lookUp, TypeSource.enumerateFields, TypeSource.hierarchy,
      dotted, unknown]
    rfl
  have noObject : (tills.view.answer {} (.objectFields 5)).1 = .error (.unknownObjectId 5) := rfl
  obtain ⟨shown, absent, -⟩ := field_lookup_agrees_with_listing tills {} (.cls "shop.Till") "coins"
  obtain ⟨-, missing, -⟩ := field_lookup_agrees_with_listing tills {} (.cls "shop.Till") "notes"
  obtain ⟨-, -, failsForClass⟩ :=
    field_lookup_agrees_with_listing tills {} (.cls "shop.Safe") "coins"
  obtain ⟨-, -, failsForObject⟩ := field_lookup_agrees_with_listing tills {} (.object 5) "coins"
  exact ⟨answer_tills, (shown "I").2 ⟨_, _, answer_tills, rfl, rfl⟩,
    missing.2 ⟨_, answer_tills, by simp⟩, (failsForClass _).2 noClass,
    (failsForObject _).2 noObject⟩

end Inspector
