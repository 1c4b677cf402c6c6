import Mathlib.Logic.Relation
import Inspector.Proofs.Reflection.Loops

/-!
# What conforms to what

The usual rule of assignability, said without a search. `Extends` is one step up in the graph of
classes, and `Conforms` is the least relation that holds what the rule allows. The search through
ancestors finds exactly what can be reached, on every graph (`descends_iff`), and the comparison of
types answers exactly as `Conforms` says (`conforms_iff`).

The rules for the root and for arrays pass by the graph. They go together with it if the root and
the interfaces of arrays stand at the top of the graph (`Grounded`), and then assignability is a
preorder (`assignable_preorder`).
-/

namespace Inspector.TypeSource

open Relation (ReflTransGen)

variable {types : TypeSource}

/-! ## Ancestors -/

/-- A class names another as its superclass or among its interfaces. -/
def Extends (types : TypeSource) (name parent : String) : Prop :=
  types.superclass name = some parent ∨ parent ∈ types.interfaces name

theorem mem_parents {name parent : String} :
    parent ∈ types.parents name ↔ types.Extends name parent := by
  simp [parents, Extends]

/-- A step up from a name that was not seen. -/
def Leaves (types : TypeSource) (seen : List String) (name parent : String) : Prop :=
  name ∉ seen ∧ types.Extends name parent

/-- A way up may be cut where it last comes through a name: either it never does, or what remains
sets out from a parent of that name. -/
theorem cut_at (current : String) {seen : List String} {name ancestor : String}
    (way : ReflTransGen (types.Leaves seen) name ancestor) :
    ReflTransGen (types.Leaves (current :: seen)) name ancestor ∨
      ∃ parent, types.Extends current parent ∧
        ReflTransGen (types.Leaves (current :: seen)) parent ancestor := by
  induction way using ReflTransGen.head_induction_on with
  | refl => exact .inl .refl
  | @head name parent step _ ih =>
    rcases ih with onward | later
    · by_cases same : name = current
      · exact .inr ⟨parent, same ▸ step.2, onward⟩
      · exact .inl (.head ⟨by simp [same, step.1], step.2⟩ onward)
    · exact .inr later

/-- No way leads on from a name that was seen. -/
theorem eq_of_seen {seen : List String} {name ancestor : String} (old : name ∈ seen)
    (way : ReflTransGen (types.Leaves seen) name ancestor) : name = ancestor := by
  rcases way.cases_head with same | ⟨parent, step, _⟩
  · exact same
  · exact absurd old step.1

/-- The search finds an ancestor exactly if there is a way up to it from the queue that comes
through no name that was seen. -/
theorem reaches_iff {ancestor : String} {seen queue : List String} :
    types.reaches ancestor seen queue = true ↔
      ∃ name ∈ queue, ReflTransGen (types.Leaves seen) name ancestor := by
  -- The induction is on the search itself. Whatever the queue holds, a way up that keeps away from
  -- the names seen is all that a search can still find, so no further invariant is needed.
  fun_induction types.reaches ancestor seen queue with
  | case1 seen => simp
  | case2 seen rest => exact iff_of_true rfl ⟨ancestor, List.mem_cons_self, .refl⟩
  | case3 seen current rest apart old ih =>
    rw [ih]
    constructor
    · rintro ⟨name, waits, way⟩
      exact ⟨name, List.mem_cons_of_mem _ waits, way⟩
    · rintro ⟨name, waits, way⟩
      rcases List.mem_cons.1 waits with rfl | waits
      · exact absurd (eq_of_seen old way) apart
      · exact ⟨name, waits, way⟩
  | case4 seen current rest apart fresh ih =>
    rw [ih]
    constructor
    · rintro ⟨name, waits, way⟩
      have way : ReflTransGen (types.Leaves seen) name ancestor := by
        refine ReflTransGen.mono ?_ _ _ way
        rintro lower upper ⟨fresh, extended⟩
        exact ⟨fun old => fresh (List.mem_cons_of_mem _ old), extended⟩
      rcases List.mem_append.1 waits with waits | named
      · exact ⟨name, List.mem_cons_of_mem _ waits, way⟩
      · exact ⟨current, List.mem_cons_self, .head ⟨fresh, mem_parents.1 named⟩ way⟩
    · rintro ⟨name, waits, way⟩
      -- From now on `current` counts as seen, so a way through it is taken up behind it.
      rcases cut_at current way with onward | ⟨parent, extended, onward⟩
      · rcases List.mem_cons.1 waits with rfl | waits
        · exact absurd (eq_of_seen List.mem_cons_self onward) apart
        · exact ⟨name, List.mem_append_left _ waits, onward⟩
      · exact ⟨parent, List.mem_append_right _ (mem_parents.2 extended), onward⟩

theorem descends_iff {name ancestor : String} :
    types.descends name ancestor = true ↔ ReflTransGen types.Extends name ancestor := by
  have same : types.Leaves [] = types.Extends := by
    funext name parent
    simp [Leaves]
  simp [descends, reaches_iff, same]

/-- All ancestors of a class are in a list that holds it and the parents of all that it holds. -/
theorem ancestor_mem {names : List String} {name ancestor : String}
    (closed : ∀ child ∈ names, ∀ parent ∈ types.parents child, parent ∈ names)
    (start : name ∈ names) (way : ReflTransGen types.Extends name ancestor) :
    ancestor ∈ names := by
  induction way with
  | refl => exact start
  | tail _ step ih => exact closed _ ih _ (mem_parents.2 step)

/-! ## The rules -/

/-- What may be stored where, by the usual rule: the least relation with these rules. -/
inductive Conforms (types : TypeSource) : (target source : HostType) → Prop
  | same (type : HostType) : Conforms types type type
  | classToRoot (name : String) : Conforms types (.cls "java.lang.Object") (.cls name)
  | arrayToRoot (component : HostType) :
    Conforms types (.cls "java.lang.Object") (.array component)
  | arrayToCloneable (component : HostType) :
    Conforms types (.cls "java.lang.Cloneable") (.array component)
  | arrayToSerializable (component : HostType) :
    Conforms types (.cls "java.io.Serializable") (.array component)
  | classToAncestor {name ancestor : String} :
    ReflTransGen types.Extends name ancestor → Conforms types (.cls ancestor) (.cls name)
  | arrays {target source : HostType} :
    target.isReference = true → source.isReference = true → Conforms types target source →
    Conforms types (.array target) (.array source)

theorem Conforms.of_conforms {target source : HostType}
    (answered : types.conforms target source = true) : types.Conforms target source := by
  fun_induction types.conforms target source with
  | case1 type => exact .same type
  | case2 target source _ ih =>
    rw [Bool.and_eq_true, Bool.and_eq_true] at answered
    exact .arrays answered.1.1 answered.1.2 (ih answered.2)
  | case3 target component =>
    simp only [objectClass, arrayInterfaces, Bool.or_eq_true, beq_iff_eq, List.contains_eq_mem,
      List.mem_cons, List.not_mem_nil, or_false, decide_eq_true_eq] at answered
    rcases answered with rfl | rfl | rfl
    · exact .arrayToRoot component
    · exact .arrayToCloneable component
    · exact .arrayToSerializable component
  | case4 target source =>
    rw [Bool.or_eq_true, beq_iff_eq, descends_iff] at answered
    rcases answered with rfl | way
    · exact .classToRoot source
    · exact .classToAncestor way
  | case5 => cases answered

theorem Conforms.to_conforms {target source : HostType}
    (allowed : types.Conforms target source) : types.conforms target source = true := by
  induction allowed with
  | classToAncestor way =>
    unfold conforms
    simp [descends_iff.2 way]
  | arrays target source _ ih =>
    unfold conforms
    simp [target, source, ih]
  | _ =>
    unfold conforms
    simp [objectClass, arrayInterfaces]

theorem conforms_iff {target source : HostType} :
    types.conforms target source = true ↔ types.Conforms target source :=
  ⟨Conforms.of_conforms, Conforms.to_conforms⟩

theorem isAssignable_iff (usual : types.ownRule = none) {target source : HostType} :
    types.isAssignable target source = true ↔ types.Conforms target source := by
  rw [isAssignable, usual, Option.getD_none, conforms_iff]

theorem Conforms.classes_iff {target source : String} :
    types.Conforms (.cls target) (.cls source) ↔
      target = "java.lang.Object" ∨ ReflTransGen types.Extends source target := by
  constructor
  · intro allowed
    cases allowed with
    | same => exact .inr .refl
    | classToRoot => exact .inl rfl
    | classToAncestor way => exact .inr way
  · rintro (rfl | way)
    · exact .classToRoot source
    · exact .classToAncestor way

/-- The classes that every array goes to. -/
def tops : List String :=
  ["java.lang.Object", "java.lang.Cloneable", "java.io.Serializable"]

/-- Arrays go where their components do. -/
theorem Conforms.of_arrays {target source : HostType}
    (allowed : types.Conforms (.array target) (.array source)) : types.Conforms target source := by
  cases allowed with
  | same => exact .same target
  | arrays _ _ inner => exact inner

theorem Conforms.class_array_iff {target : String} {component : HostType} :
    types.Conforms (.cls target) (.array component) ↔ target ∈ tops := by
  constructor
  · intro allowed
    cases allowed <;> decide
  · intro top
    simp only [tops, List.mem_cons, List.not_mem_nil, or_false] at top
    rcases top with rfl | rfl | rfl
    · exact .arrayToRoot component
    · exact .arrayToCloneable component
    · exact .arrayToSerializable component

section Values

variable {target source : HostType}

/-- What is not held by reference goes only to itself. -/
theorem Conforms.eq_of_value (value : target.isReference = false ∨ source.isReference = false)
    (allowed : types.Conforms target source) : target = source := by
  cases allowed with
  | same => rfl
  | _ => simp [HostType.isReference] at value

theorem Conforms.eq_of_values (value : target.isReference = false ∨ source.isReference = false)
    (allowed : types.Conforms (.array target) (.array source)) : target = source :=
  allowed.of_arrays.eq_of_value value

end Values

/-- By the usual rule a type accepts exactly what the rules of `Conforms` give it, however the
classes extend each other and whether or not they exist, and the comparison comes to an end. Types
that are not held by reference accept only themselves, and so do arrays of them. -/
theorem assignable_exactly_by_rules (usual : types.ownRule = none) (target source : HostType) :
    Loops.Ends (Loops.isAssignable types · target source) (types.isAssignable target source) ∧
    (types.isAssignable target source = true ↔ types.Conforms target source) ∧
    (target.isReference = false ∨ source.isReference = false →
      (types.isAssignable target source = true ↔ target = source) ∧
      (types.isAssignable (.array target) (.array source) = true ↔ target = source)) := by
  refine ⟨Loops.isAssignable_ends types target source, isAssignable_iff usual, fun value => ?_⟩
  rw [isAssignable_iff usual, isAssignable_iff usual]
  constructor
  · refine ⟨Conforms.eq_of_value value, ?_⟩
    rintro rfl
    exact .same target
  · refine ⟨Conforms.eq_of_values value, ?_⟩
    rintro rfl
    exact .same _

/-- Two classes that extend each other. -/
def circle : InMemoryHost :=
  (InMemoryHost.empty.define "a.Ring" (·.extending "a.Band")).define "a.Band" (·.extending "a.Ring")

/-- The search ends without having found a class that is not in the circle, and an array of arrays
of numbers goes where an array of objects is declared, though there is no root. -/
theorem assignable_exactly_by_rules_circle :
    circle.types.ownRule = none ∧
    Loops.Ends (Loops.isAssignable circle.types · (.cls "a.Elsewhere") (.cls "a.Ring")) false ∧
    circle.types.isAssignable (.array (.cls "java.lang.Object"))
      (.array (.array (.primitive .int))) = true := by
  have usual : circle.types.ownRule = none := rfl
  refine ⟨usual, ?_, ?_⟩
  · obtain ⟨ends, byRules, -⟩ :=
      assignable_exactly_by_rules usual (.cls "a.Elsewhere") (.cls "a.Ring")
    have refused : circle.types.isAssignable (.cls "a.Elsewhere") (.cls "a.Ring") = false := by
      rw [Bool.eq_false_iff, ne_eq, byRules]
      intro allowed
      rcases Conforms.classes_iff.1 allowed with root | way
      · simp at root
      · have inside : "a.Elsewhere" ∈ ["a.Ring", "a.Band"] :=
          ancestor_mem (by decide +kernel) List.mem_cons_self way
        simp at inside
    rw [refused] at ends
    exact ends
  · rw [(assignable_exactly_by_rules usual _ _).2.1]
    exact .arrays rfl rfl (.arrayToRoot _)

/-! ## Chains of types -/

/-- The root and the interfaces of arrays extend nothing but the root. -/
def Grounded (types : TypeSource) : Prop :=
  ∀ name ∈ tops,
    (types.superclass name = none ∨ types.superclass name = some "java.lang.Object") ∧
    types.interfaces name = []

instance : Decidable types.Grounded :=
  inferInstanceAs (Decidable (∀ name ∈ _, _))

namespace Grounded

variable (grounded : types.Grounded)

include grounded

theorem eq_root_of_mem_parents {name parent : String} (top : name ∈ tops)
    (named : parent ∈ types.parents name) : parent = "java.lang.Object" := by
  obtain ⟨extended, implemented⟩ := grounded name top
  rcases mem_parents.1 named with up | up
  · rcases extended with none | root
    · rw [none] at up
      cases up
    · exact Option.some.inj (up.symm.trans root)
  · rw [implemented] at up
    cases up

/-- Nothing stands above the root and the interfaces of arrays but the root. -/
theorem ancestor_of_top {name ancestor : String} (top : name ∈ tops)
    (way : ReflTransGen types.Extends name ancestor) :
    ancestor = name ∨ ancestor = "java.lang.Object" := by
  have inside : ancestor ∈ [name, "java.lang.Object"] := by
    refine ancestor_mem (fun child held parent named => ?_) List.mem_cons_self way
    have root : parent = "java.lang.Object" := by
      rcases List.mem_cons.1 held with rfl | held
      · exact grounded.eq_root_of_mem_parents top named
      · rw [List.mem_singleton.1 held] at named
        exact grounded.eq_root_of_mem_parents List.mem_cons_self named
    simp [root]
  simpa using inside

/-- Going on from a class to what stands above it. -/
theorem conforms_ancestor {middle ancestor : String} {source : HostType}
    (way : ReflTransGen types.Extends middle ancestor)
    (allowed : types.Conforms (.cls middle) source) : types.Conforms (.cls ancestor) source := by
  cases source with
  | cls name =>
    rcases Conforms.classes_iff.1 allowed with rfl | below
    · rcases grounded.ancestor_of_top List.mem_cons_self way with rfl | rfl <;>
        exact .classToRoot name
    · exact .classToAncestor (below.trans way)
  | array component =>
    have top := Conforms.class_array_iff.1 allowed
    rcases grounded.ancestor_of_top top way with rfl | rfl
    · exact allowed
    · exact .arrayToRoot component
  | primitive | void => cases allowed

theorem conforms_trans {target middle source : HostType} (first : types.Conforms target middle)
    (second : types.Conforms middle source) : types.Conforms target source := by
  induction first generalizing source with
  | same => exact second
  | classToRoot name =>
    cases source with
    | cls => exact .classToRoot _
    | array => exact .arrayToRoot _
    | primitive | void => cases second
  -- Only arrays go to an array, so an array's rule for a class applies again.
  | arrayToRoot =>
    cases second <;> exact .arrayToRoot _
  | arrayToCloneable =>
    cases second <;> exact .arrayToCloneable _
  | arrayToSerializable =>
    cases second <;> exact .arrayToSerializable _
  | classToAncestor way => exact grounded.conforms_ancestor way second
  | arrays target middle inner ih =>
    cases second with
    | same => exact .arrays target middle inner
    | arrays _ source second => exact .arrays target source (ih second)

theorem isAssignable_trans (usual : types.ownRule = none) {target middle source : HostType}
    (first : types.isAssignable target middle = true)
    (second : types.isAssignable middle source = true) :
    types.isAssignable target source = true := by
  rw [isAssignable_iff usual] at first second ⊢
  exact grounded.conforms_trans first second

end Grounded

/-- Where the root and the interfaces of arrays stand at the top, assignability by the usual rule is
a preorder on all types. -/
theorem assignable_preorder (usual : types.ownRule = none) (grounded : types.Grounded) :
    (∀ a, types.isAssignable a a = true) ∧
    ∀ a b c, types.isAssignable a b = true → types.isAssignable b c = true →
      types.isAssignable a c = true := by
  constructor
  · intro a
    rw [isAssignable_iff usual]
    exact .same a
  · intro a b c first second
    exact grounded.isAssignable_trans usual first second

/-- Two classes that extend each other, of which one can be cloned. -/
def clonableCircle : InMemoryHost :=
  let host := InMemoryHost.empty.define "java.lang.Object" id
  let host := host.define "java.lang.Cloneable" (·.asInterface)
  let host := host.define "a.Ring" (·.extending "a.Band")
  host.define "a.Band" fun definition =>
    (definition.extending "a.Ring").implementing "java.lang.Cloneable"

/-- An array of a class in the circle goes to an array of what can be cloned, and so to an array of
objects; an array of what can be cloned does not go the other way. -/
theorem assignable_preorder_circle :
    clonableCircle.types.ownRule = none ∧ clonableCircle.types.Grounded ∧
    clonableCircle.types.isAssignable (.array (.cls "java.lang.Cloneable"))
      (.array (.cls "a.Ring")) = true ∧
    clonableCircle.types.isAssignable (.array (.cls "java.lang.Object"))
      (.array (.cls "a.Ring")) = true ∧
    clonableCircle.types.isAssignable (.array (.cls "a.Ring"))
      (.array (.cls "java.lang.Cloneable")) = false := by
  have usual : clonableCircle.types.ownRule = none := rfl
  have grounded : clonableCircle.types.Grounded := by decide +kernel
  have clonable : clonableCircle.types.isAssignable (.array (.cls "java.lang.Cloneable"))
      (.array (.cls "a.Ring")) = true := by
    rw [isAssignable_iff usual]
    have up : clonableCircle.types.Extends "a.Ring" "a.Band" := .inl (by decide +kernel)
    have out : clonableCircle.types.Extends "a.Band" "java.lang.Cloneable" :=
      .inr (by decide +kernel)
    exact .arrays rfl rfl (.classToAncestor (.head up (.head out .refl)))
  have objects : clonableCircle.types.isAssignable (.array (.cls "java.lang.Object"))
      (.array (.cls "java.lang.Cloneable")) = true := by
    rw [isAssignable_iff usual]
    exact .arrays rfl rfl (.classToRoot _)
  have back : clonableCircle.types.isAssignable (.array (.cls "a.Ring"))
      (.array (.cls "java.lang.Cloneable")) = false := by
    rw [Bool.eq_false_iff, ne_eq, isAssignable_iff usual]
    intro allowed
    rcases Conforms.classes_iff.1 allowed.of_arrays with root | way
    · simp at root
    · have atTop := grounded.ancestor_of_top (by decide) way
      simp at atTop
  exact ⟨usual, grounded, clonable, (assignable_preorder usual grounded).2 _ _ _ objects clonable,
    back⟩

/-- Were an interface of arrays to extend another class, arrays would go to the interface but not to
that class. -/
example :
    let types := (InMemoryHost.empty.define "java.lang.Cloneable" (·.extending "a.Thing")).types
    types.isAssignable (.cls "a.Thing") (.cls "java.lang.Cloneable") = true ∧
    types.isAssignable (.cls "java.lang.Cloneable") (.array (.primitive .int)) = true ∧
    types.isAssignable (.cls "a.Thing") (.array (.primitive .int)) = false := by
  cbv

end Inspector.TypeSource
