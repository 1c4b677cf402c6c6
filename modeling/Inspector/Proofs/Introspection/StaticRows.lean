import Mathlib.Data.List.Nodup
import Inspector.Proofs.Introspection.ClassNames

/-!
# The values of static fields

The static fields of a class are listed level by level, with a row for each declaration, also where
several levels declare the same name. But the values are looked for by name, from the class that was
asked for upwards, so that a row has the value of the nearest declaration of its name
(`InMemoryHost.staticField_of_nearest`). This is its own one unless a lower level declares the name
as well (`static_rows_show_nearest_declaration`); then the row shows the value of another field, and
perhaps of another type (`shadowed_row_shows_other_value`).
-/

namespace Inspector

open Outcome

namespace TypeSource

variable {types : TypeSource}

/-! ## Declarations -/

/-- The static fields of some levels in the order of the list, each with the level that declares
it. -/
def staticsOn (types : TypeSource) (levels : List String) : List (String × FieldDecl) :=
  levels.flatMap fun level =>
    ((types.declaredFields level).filter (·.isStatic)).map fun declared => (level, declared)

/-- A level declares a static field of the name. -/
def DeclaresStatic (types : TypeSource) (field level : String) : Prop :=
  ∃ declared ∈ types.declaredFields level, declared.isStatic = true ∧ declared.name = field

/-- The first of some levels that declares a static field of the name. -/
inductive Nearest (types : TypeSource) (levels : List String) (field level : String) : Prop
  | intro {below above : List String} : levels = below ++ level :: above →
    types.DeclaresStatic field level → (∀ lower ∈ below, ¬types.DeclaresStatic field lower) →
    Nearest types levels field level

/-- A level that comes before another one declares a static field of the name. -/
def Shadowed (types : TypeSource) (levels : List String) (field level : String) : Prop :=
  ∃ below above, levels = below ++ level :: above ∧
    ∃ lower ∈ below, types.DeclaresStatic field lower

theorem mem_staticsOn {levels : List String} {level : String} {declared : FieldDecl} :
    (level, declared) ∈ types.staticsOn levels ↔
      level ∈ levels ∧ declared ∈ types.declaredFields level ∧ declared.isStatic = true := by
  simp only [staticsOn, List.mem_flatMap, List.mem_map, List.mem_filter, Prod.mk.injEq]
  constructor
  · rintro ⟨other, onWay, own, among, rfl, rfl⟩
    exact ⟨onWay, among⟩
  · rintro ⟨onWay, among⟩
    exact ⟨level, onWay, declared, among, rfl, rfl⟩

theorem enumerateFields_static {className : String} {levels : List String}
    (chain : types.hierarchy className = .ok levels) :
    types.enumerateFields className .static =
      .ok ((types.staticsOn levels).map fun row => row.2.summary) := by
  rw [enumerateFields, chain, ok_bind, pure_eq_ok, staticsOn, List.map_flatMap]
  simp only [List.map_map]
  rfl

/-- What a level declares is declared first on some level. -/
theorem exists_nearest {levels : List String} {field level : String} (onWay : level ∈ levels)
    (declares : types.DeclaresStatic field level) :
    ∃ nearest, types.Nearest levels field nearest := by
  classical
  have found : (levels.find? fun level => types.DeclaresStatic field level).isSome = true :=
    List.find?_isSome.2 ⟨level, onWay, by simpa using declares⟩
  obtain ⟨nearest, first⟩ := Option.isSome_iff_exists.1 found
  obtain ⟨suits, below, above, split, others⟩ := List.find?_eq_some_iff_append.1 first
  exact ⟨nearest, .intro split (by simpa using suits) (by simpa using others)⟩

/-- The nearest declaration is another one exactly if a lower level declares the name. -/
theorem Nearest.eq_iff {levels : List String} {field level nearest : String}
    (first : types.Nearest levels field nearest) (distinct : levels.Nodup) (onWay : level ∈ levels)
    (declares : types.DeclaresStatic field level) :
    nearest = level ↔ ¬types.Shadowed levels field level := by
  obtain @⟨below, above, split, suits, others⟩ := first
  rw [split] at distinct onWay
  constructor
  · rintro rfl ⟨below', above', again, lower, before, shadows⟩
    have once := (List.nodup_cons.1 (List.nodup_middle.1 distinct)).1
    rw [List.mem_append, not_or] at once
    obtain ⟨rfl, -⟩ := (List.append_cons_inj_of_notMem once.1 once.2).1 (split.symm.trans again)
    exact others lower before shadows
  · intro clear
    rcases List.mem_append.1 onWay with before | here
    · exact absurd declares (others level before)
    rcases List.mem_cons.1 here with same | after
    · exact same.symm
    · obtain ⟨between, beyond, rfl⟩ := List.append_of_mem after
      refine absurd ⟨below ++ nearest :: between, beyond, ?_, nearest, ?_, suits⟩ clear
      · rw [split, List.append_assoc, List.cons_append]
      · simp

/-- A chain comes through no class twice, and through none that was seen before. -/
theorem nodup_chainFrom (types : TypeSource) (seen : List String) (name : String) :
    (types.chainFrom seen name).Nodup ∧ ∀ level ∈ types.chainFrom seen name, level ∉ seen := by
  fun_induction types.chainFrom seen name with
  | case1 seen name old => simp
  | case2 seen name fresh ih =>
    split
    · simp [fresh]
    · next parent extended =>
      obtain ⟨distinct, new⟩ := ih parent extended
      refine ⟨List.nodup_cons.2 ⟨fun again => new name again List.mem_cons_self, distinct⟩, ?_⟩
      refine List.forall_mem_cons.2 ⟨fresh, fun level above old => ?_⟩
      exact new level above (List.mem_cons_of_mem _ old)

end TypeSource

/-! ## Values -/

namespace InMemoryHost

variable {host : InMemoryHost}

/-- A search passes the levels that give no value, and stops at the first that does. -/
theorem climb_first {read : ClassDef → Option HostValue} {seen : List String} {name level : String}
    {below above : List String} {value : HostValue}
    (chain : host.types.chainFrom seen name = below ++ level :: above)
    (silent : ∀ lower ∈ below, (host.classes.get? lower).bind read = none)
    (given : (host.classes.get? level).bind read = some value) :
    host.climb read seen name = .found value := by
  apply Lookup.value?_eq_some.1
  rw [value?_climb, List.findSome?_eq_some_iff]
  exact ⟨below, level, above, chain, given, silent⟩

/-- The value of a static field that a class declares, as the class holds it. -/
def slot? (host : InMemoryHost) (level field : String) : Option HostValue :=
  (host.classes.get? level).bind (staticOf field)

theorem declaresStatic_iff {field level : String} :
    host.types.DeclaresStatic field level ↔ (host.slot? level field).isSome = true := by
  simp only [TypeSource.DeclaresStatic, slot?, types]
  cases host.classes.get? level with
  | none => simp
  | some definition => simp [staticOf]

/-- A static field has the value of its nearest declaration. -/
theorem staticField_of_nearest {name field nearest : String}
    (first : host.types.Nearest (host.types.chainFrom [] name) field nearest) :
    ∃ value, host.slot? nearest field = some value ∧ host.staticField nearest field = .found value ∧
      host.staticField name field = .found value := by
  obtain ⟨split, declares, others⟩ := first
  obtain ⟨value, held⟩ := Option.isSome_iff_exists.1 (declaresStatic_iff.1 declares)
  obtain ⟨above, own⟩ : ∃ above, host.types.chainFrom [] nearest = [] ++ nearest :: above :=
    host.types.exists_chainFrom List.not_mem_nil
  refine ⟨value, held, climb_first own (by simp) held, climb_first split ?_ held⟩
  intro lower before
  have silent := mt declaresStatic_iff.2 (others lower before)
  simpa [slot?] using silent

end InMemoryHost

namespace HostView

variable (view : HostView)

theorem length_fieldEntries (rows : List (FieldSummary × Option HostValue)) (pins : PinTable) :
    (view.fieldEntries rows pins).1.length = rows.length := by
  induction rows generalizing pins with
  | nil => rfl
  | cons row rest ih => exact congrArg Nat.succ (ih _)

/-- A row is sent with the objects known that were sent before it. -/
theorem fieldEntries_getElem? (rows : List (FieldSummary × Option HostValue)) (pins : PinTable)
    (place : Nat) :
    (view.fieldEntries rows pins).1[place]? = rows[place]?.map fun row =>
      (view.fieldEntry row.1 row.2 (view.fieldEntries (rows.take place) pins).2).1 := by
  induction rows generalizing pins place with
  | nil => rfl
  | cons row rest ih =>
    cases place with
    | zero => rfl
    | succ place => exact ih _ place

end HostView

/-- The static fields of a class that exists are listed level by level, each with its own name, type
and descriptor. Each row has the value that the nearest declaration of its name holds; this is its
own declaration exactly if no level before declares a static field of the same name. -/
theorem static_rows_show_nearest_declaration (host : InMemoryHost) (state : QueryState)
    {className : String} (dotted : dottedName className = className)
    (known : host.types.classExists className = true) :
    let levels := host.types.chainFrom [] className
    let rows := host.types.staticsOn levels
    let values := rows.map fun row =>
      (row.2.summary, (host.staticField className row.2.name).value?)
    ∃ entries after,
      host.view.answer state (.staticFields className) = (.ok (.fields entries), after) ∧
      entries.length = rows.length ∧
      ∀ place level declared, rows[place]? = some (level, declared) →
        ∃ nearest value, host.types.Nearest levels declared.name nearest ∧
          (nearest = level ↔ ¬host.types.Shadowed levels declared.name level) ∧
          host.slot? nearest declared.name = some value ∧
          host.staticField nearest declared.name = .found value ∧
          entries[place]? = some (host.view.fieldEntry declared.summary (some value)
            (host.view.fieldEntries (values.take place) state.pins).2).1 := by
  intro levels rows values
  have chain : host.types.hierarchy className = .ok levels := by
    rw [TypeSource.hierarchy, dotted, if_pos known]
  have answered := host.answer_staticFields state (TypeSource.enumerateFields_static chain)
  rw [List.map_map] at answered
  refine ⟨(host.view.fieldEntries values state.pins).1, _, answered, ?_,
    fun place level declared here => ?_⟩
  · rw [HostView.length_fieldEntries, List.length_map]
  obtain ⟨onWay, among, isStatic⟩ := TypeSource.mem_staticsOn.1 (List.mem_of_getElem? here)
  have declares : host.types.DeclaresStatic declared.name level := ⟨declared, among, isStatic, rfl⟩
  obtain ⟨nearest, first⟩ := TypeSource.exists_nearest onWay declares
  have own := first.eq_iff (host.types.nodup_chainFrom [] className).1 onWay declares
  obtain ⟨value, held, read, shown⟩ := InMemoryHost.staticField_of_nearest first
  refine ⟨nearest, value, first, own, held, read, ?_⟩
  have sent : values[place]? = some (declared.summary, some value) := by
    simp [values, here, shown, Lookup.value?]
  rw [HostView.fieldEntries_getElem?, sent, Option.map_some]

/-- A class whose superclass declares a static field of the same name, of another type, and one
more. -/
def shadowing : InMemoryHost :=
  let host := InMemoryHost.empty.define "t.Base" fun definition =>
    (definition.withStaticField "limit" (.primitive .int) (.scalar (.int 5))).withStaticField "unit"
      (.primitive .int) (.scalar (.int 3))
  host.define "t.Leaf" fun definition =>
    (definition.extending "t.Base").withStaticField "limit" (.primitive .long) (.scalar (.long 9))

theorem chain_shadowing :
    shadowing.types.chainFrom [] "t.Leaf" = ["t.Leaf", "t.Base", "java.lang.Object"] := by
  have leaf : shadowing.types.superclass "t.Leaf" = some "t.Base" := by decide +kernel
  have base : shadowing.types.superclass "t.Base" = some "java.lang.Object" := by decide +kernel
  have top : shadowing.types.superclass "java.lang.Object" = none := by decide +kernel
  rw [TypeSource.chainFrom_extended (by simp) leaf, TypeSource.chainFrom_extended (by simp) base,
    TypeSource.chainFrom_top (by simp) top]

theorem dotted_leaf : dottedName "t.Leaf" = "t.Leaf" := by
  cbv

theorem exists_leaf : shadowing.types.classExists "t.Leaf" = true := by
  decide +kernel

theorem statics_shadowing :
    shadowing.types.staticsOn ["t.Leaf", "t.Base", "java.lang.Object"] =
      [("t.Leaf", ⟨"limit", .primitive .long, true⟩), ("t.Base", ⟨"limit", .primitive .int, true⟩),
        ("t.Base", ⟨"unit", .primitive .int, true⟩)] := by
  cbv

/-- The row of the superclass's field is that of an `int`, which holds 5, and shows the 9 of the
`long` below it. -/
theorem shadowed_row_shows_other_value :
    shadowing.view.answer {} (.staticFields "t.Leaf") =
        (.ok (.fields [⟨"limit", "long", "J", .int 9, Wire.noObject⟩,
          ⟨"limit", "int", "I", .int 9, Wire.noObject⟩,
          ⟨"unit", "int", "I", .int 3, Wire.noObject⟩]), {}) ∧
      shadowing.staticField "t.Base" "limit" = .found (.scalar (.int 5)) ∧
      (shadowing.view.fieldEntry ⟨"limit", "int", "I"⟩
        (shadowing.staticField "t.Base" "limit").value? {}).1.value = .int 5 := by
  have chain : shadowing.types.hierarchy "t.Leaf" =
      .ok ["t.Leaf", "t.Base", "java.lang.Object"] := by
    rw [TypeSource.hierarchy, dotted_leaf, if_pos exists_leaf, chain_shadowing]
  have listed : shadowing.types.enumerateFields "t.Leaf" .static =
      .ok [⟨"limit", "long", "J"⟩, ⟨"limit", "int", "I"⟩, ⟨"unit", "int", "I"⟩] := by
    rw [TypeSource.enumerateFields_static chain, statics_shadowing]
    rfl
  have limit : shadowing.staticField "t.Leaf" "limit" = .found (.scalar (.long 9)) := by
    cbv
  have unit : shadowing.staticField "t.Leaf" "unit" = .found (.scalar (.int 3)) := by
    cbv
  have own : shadowing.staticField "t.Base" "limit" = .found (.scalar (.int 5)) := by
    cbv
  refine ⟨?_, own, ?_⟩
  · rw [shadowing.answer_staticFields {} listed]
    simp only [List.map_cons, List.map_nil, limit, unit]
    rfl
  · rw [own]
    rfl

theorem unit_not_shadowed :
    ¬shadowing.types.Shadowed ["t.Leaf", "t.Base", "java.lang.Object"] "unit" "t.Base" := by
  rintro ⟨below, above, split, lower, before, declared, among, -, named⟩
  have split : ["t.Leaf"] ++ "t.Base" :: ["java.lang.Object"] = below ++ "t.Base" :: above := split
  obtain ⟨rfl, -⟩ := (List.append_cons_inj_of_notMem (by simp) (by simp)).1 split
  have fields : shadowing.types.declaredFields "t.Leaf" =
      [⟨"limit", .primitive .long, true⟩] := by
    cbv
  rw [List.mem_singleton.1 before, fields] at among
  cases List.mem_singleton.1 among
  simp at named

/-- The other field of the superclass is not shadowed, and its row has its own value. -/
theorem static_rows_show_nearest_declaration_unit :
    dottedName "t.Leaf" = "t.Leaf" ∧ shadowing.types.classExists "t.Leaf" = true ∧
    ∃ entries after,
      shadowing.view.answer {} (.staticFields "t.Leaf") = (.ok (.fields entries), after) ∧
      entries.length = 3 ∧ ∃ row, entries[2]? = some row ∧ row.value = .int 3 := by
  obtain ⟨entries, after, answered, length, each⟩ :=
    static_rows_show_nearest_declaration shadowing {} dotted_leaf exists_leaf
  rw [chain_shadowing, statics_shadowing] at length each
  obtain ⟨nearest, value, -, own, held, -, sent⟩ := each 2 _ _ rfl
  rw [own.2 unit_not_shadowed] at held
  have three : shadowing.slot? "t.Base" "unit" = some (.scalar (.int 3)) := by
    cbv
  cases three.symm.trans held
  exact ⟨dotted_leaf, exists_leaf, entries, after, answered, length, _, sent, rfl⟩

end Inspector
