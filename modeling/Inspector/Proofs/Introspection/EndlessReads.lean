import Mathlib.Logic.Relation
import Inspector.Proofs.Introspection.FieldValues

/-!
# Reads that never end

A read of a field's value goes from class to superclass and leaves no class alone, so that it may go
round for ever. It does so exactly if the superclasses run in a circle and none of them declares the
field (`TypeSource.Lost`); in all other cases it comes to an end, and this holds of instance fields
as of static ones (`reads_end_unless_lost`). Look-ups end on the same classes, since they stop at
the first class that they have seen.
-/

namespace Inspector

open Relation (ReflTransGen TransGen)

/-! ## Circles of superclasses -/

namespace TypeSource

variable {types : TypeSource} {name : String}

/-- A class names another one as its superclass. -/
def Inherits (types : TypeSource) (name parent : String) : Prop :=
  types.superclass name = some parent

/-- The way up from a class comes to one that is among its own superclasses. -/
def Circles (types : TypeSource) (name : String) : Prop :=
  ∃ level, ReflTransGen types.Inherits name level ∧ TransGen types.Inherits level level

/-- The way up from a class goes round in a circle, past no class that declares the field. -/
structure Lost (types : TypeSource) (field : String) (kind : MemberKind) (name : String) :
    Prop where
  circles : types.Circles name
  undeclared : ∀ level, ReflTransGen types.Inherits name level →
    types.declaredAt field kind level = none

theorem inherits_unique : Relator.RightUnique types.Inherits := by
  intro name parent other first second
  exact Option.some.inj (first.symm.trans second)

/-- From wherever a circle leads, it leads back. -/
theorem back_of_circle {level : String} (round : TransGen types.Inherits name name)
    (way : ReflTransGen types.Inherits name level) : ReflTransGen types.Inherits level name := by
  induction way with
  | refl => exact .refl
  | tail _ step ih =>
    rcases ih.cases_head with rfl | ⟨next, onward, rest⟩
    · obtain ⟨next, onward, rest⟩ := TransGen.head'_iff.1 round
      rwa [inherits_unique step onward]
    · rwa [inherits_unique step onward]

/-- On a way that leads into a circle every class has a superclass. -/
theorem Circles.exists_parent {level : String} (circles : types.Circles name)
    (way : ReflTransGen types.Inherits name level) : ∃ parent, types.Inherits level parent := by
  obtain ⟨start, there, round⟩ := circles
  have onward : ReflTransGen types.Inherits level start := by
    rcases ReflTransGen.total_of_right_unique inherits_unique way there with before | after
    · exact before
    · exact back_of_circle round after
  rcases onward.cases_head with rfl | ⟨parent, step, -⟩
  · obtain ⟨parent, step, -⟩ := TransGen.head'_iff.1 round
    exact ⟨parent, step⟩
  · exact ⟨parent, step⟩

/-- The superclass of a class on a chain is on the chain as well, or was seen before. -/
theorem parent_mem_chainFrom {seen : List String} {level parent : String}
    (onWay : level ∈ types.chainFrom seen name) (step : types.Inherits level parent) :
    parent ∈ types.chainFrom seen name ∨ parent ∈ seen := by
  fun_induction types.chainFrom seen name with
  | case1 => cases onWay
  | case2 seen name fresh ih =>
    rcases List.mem_cons.1 onWay with rfl | later
    · rw [step]
      by_cases old : parent ∈ level :: seen
      · exact (List.mem_cons.1 old).imp_left fun same => List.mem_cons.2 (.inl same)
      · obtain ⟨above, first⟩ := types.exists_chainFrom old
        dsimp only
        rw [first]
        exact .inl (by simp)
    · split at later
      · cases later
      · next up extended =>
        rcases ih up extended later with above | old
        · exact .inl (List.mem_cons_of_mem _ above)
        · exact (List.mem_cons.1 old).imp_left fun same => List.mem_cons.2 (.inl same)

/-- Every class on the way up is on the chain. -/
theorem mem_chainFrom {level : String} (way : ReflTransGen types.Inherits name level) :
    level ∈ types.chainFrom [] name := by
  induction way with
  | refl =>
    obtain ⟨above, first⟩ : ∃ above, types.chainFrom [] name = name :: above :=
      types.exists_chainFrom List.not_mem_nil
    rw [first]
    exact List.mem_cons_self
  | tail _ step ih => exact (parent_mem_chainFrom ih step).resolve_right List.not_mem_nil

end TypeSource

/-! ## Reads -/

namespace InMemoryHost

variable {host : InMemoryHost} {read : ClassDef → Option HostValue} {name : String}

/-- A search that comes back to a class has gone round in a circle: from each class that it has seen
a way leads to where it stands. -/
theorem circles_of_endless {seen : List String}
    (behind : ∀ lower ∈ seen, TransGen host.types.Inherits lower name)
    (endless : host.climb read seen name = .endless) : host.types.Circles name := by
  fun_induction host.climb read seen name with
  | case1 seen name old => exact ⟨name, .refl, behind name old⟩
  | case2 => cases endless
  | case3 => cases endless
  | case4 => cases endless
  | case5 seen name fresh definition found silent parent extended ih =>
    have step : host.types.Inherits name parent :=
      Option.bind_eq_some_iff.2 ⟨definition, found, extended⟩
    have passed : ∀ lower ∈ name :: seen, TransGen host.types.Inherits lower parent := by
      intro lower held
      rcases List.mem_cons.1 held with rfl | before
      · exact .single step
      · exact (behind lower before).tail step
    obtain ⟨level, way, round⟩ := ih passed endless
    exact ⟨level, .head step way, round⟩

end InMemoryHost

namespace Loops

variable {host : InMemoryHost} {read : ClassDef → Option HostValue} {name : String}

/-- A loop runs out of any number of turns where each class on its way has a superclass and gives no
value. -/
theorem walk_eq_none
    (passes : ∀ level, ReflTransGen host.types.Inherits name level →
      (host.classes.get? level).bind read = none ∧ ∃ parent, host.types.Inherits level parent)
    (turns : Nat) : walk host read turns (some name) = none := by
  induction turns generalizing name with
  | zero => rfl
  | succ turns ih =>
    obtain ⟨silent, parent, step⟩ := passes name .refl
    rw [walk_passes silent step]
    exact ih fun level way => passes level (.head step way)

theorem not_ends_of_none {α : Type} {run : Nat → Option α} (never : ∀ turns, run turns = none)
    (outcome : α) : ¬Ends run outcome := by
  rintro ⟨enough, done⟩
  have last := done enough (Nat.le_refl enough)
  rw [never enough] at last
  cases last

/-- The search goes on for ever exactly if its way leads into a circle of classes that give no
value. -/
theorem climb_eq_endless_iff :
    host.climb read [] name = .endless ↔ host.types.Circles name ∧
      ∀ level, ReflTransGen host.types.Inherits name level →
        (host.classes.get? level).bind read = none := by
  constructor
  · intro endless
    have round := InMemoryHost.circles_of_endless (by simp) endless
    refine ⟨round, fun level way => ?_⟩
    have nothing := (host.value?_climb read [] name).symm
    rw [endless] at nothing
    exact List.findSome?_eq_none_iff.1 nothing level (TypeSource.mem_chainFrom way)
  · rintro ⟨circles, silent⟩
    have never := walk_eq_none fun level way => ⟨silent level way, circles.exists_parent way⟩
    cases found : host.climb read [] name with
    | endless => rfl
    | absent | found value =>
      have ends := walk_ends (by rw [found]; rfl)
      exact absurd ends (not_ends_of_none never _)

end Loops

/-! ## Reads of fields -/

namespace InMemoryHost

/-- The object has no value for the field, and the way up from its class goes round in a circle. -/
def LostFrom (host : InMemoryHost) (object : ObjectRef) (field : String) : Prop :=
  ∃ className fields, host.object? object = some (.plain className fields) ∧
    fields.get? field = none ∧ host.types.Lost field .onInstance className

end InMemoryHost

namespace Loops

variable {host : InMemoryHost} {field : String} {kind : MemberKind}
  {read : ClassDef → Option HostValue} {value : String × FieldDecl → HostValue} {name : String}

theorem climb_eq_endless_iff_lost (reads : host.ReadsDeclared field kind read value) :
    host.climb read [] name = .endless ↔ host.types.Lost field kind name := by
  have silent (level : String) : (host.classes.get? level).bind read = none ↔
      host.types.declaredAt field kind level = none := by
    rw [reads level, Option.map_eq_none_iff]
  rw [climb_eq_endless_iff]
  simp only [silent]
  exact ⟨fun ⟨circles, undeclared⟩ => ⟨circles, undeclared⟩, fun lost => ⟨lost.1, lost.2⟩⟩

theorem walk_of_lost (reads : host.ReadsDeclared field kind read value)
    (lost : host.types.Lost field kind name) (turns : Nat) :
    walk host read turns (some name) = none := by
  refine walk_eq_none (fun level way => ⟨?_, lost.circles.exists_parent way⟩) turns
  rw [reads level, lost.undeclared level way, Option.map_none]

theorem ends_of_not_lost (reads : host.ReadsDeclared field kind read value)
    (found : ¬host.types.Lost field kind name) : (host.climb read [] name).ends = true := by
  rw [← climb_eq_endless_iff_lost reads] at found
  cases outcome : host.climb read [] name with
  | endless => exact absurd outcome found
  | absent | found value => rfl

theorem instanceField_of_unassigned {object : ObjectRef} {className : String}
    {fields : Table String HostValue} (held : host.object? object = some (.plain className fields))
    (unassigned : fields.get? field = none) (turns : Nat) :
    instanceField host turns object field =
      walk host (InMemoryHost.unassignedOf field) turns (some className) := by
  simp only [instanceField, held, unassigned]

/-- An instance field is read in the end, unless the search for its declaration is lost. -/
theorem instanceField_ends_of_not_lost {object : ObjectRef}
    (found : ¬host.LostFrom object field) : (host.instanceField object field).ends = true := by
  cases held : host.object? object with
  | none => simp [InMemoryHost.instanceField, held, Lookup.ends]
  | some other =>
    cases other with
    | plain className fields =>
      cases assigned : fields.get? field with
      | some value =>
        rw [InMemoryHost.instanceField_of_assigned held assigned]
        rfl
      | none =>
        rw [InMemoryHost.instanceField_of_unassigned held assigned]
        refine ends_of_not_lost (host.readsDeclared_unassigned field) fun lost => found ?_
        exact ⟨className, fields, held, assigned, lost⟩
    | array | list | text | boxed => simp [InMemoryHost.instanceField, held, Lookup.ends]

/-- Whatever the classes of a host, and whatever the class, the object and the field, declared or
not: the loop that reads the field never ends if the way up from the class goes round in a circle
past no class that declares the field, and, for an object, if it has no value of its own; in all
other cases it comes to an end. -/
theorem reads_end_unless_lost (host : InMemoryHost) (field : String) :
    (∀ className,
      (host.types.Lost field .static className →
        ∀ turns, staticField host turns className field = none) ∧
      (¬host.types.Lost field .static className →
        Ends (staticField host · className field) (host.staticField className field).value?)) ∧
    ∀ object,
      (host.LostFrom object field → ∀ turns, instanceField host turns object field = none) ∧
      (¬host.LostFrom object field →
        Ends (instanceField host · object field) (host.instanceField object field).value?) := by
  refine ⟨fun className => ⟨?_, ?_⟩, fun object => ⟨?_, ?_⟩⟩
  · exact walk_of_lost (host.readsDeclared_static field)
  · exact fun found => staticField_ends (ends_of_not_lost (host.readsDeclared_static field) found)
  · rintro ⟨className, fields, held, unassigned, lost⟩ turns
    rw [instanceField_of_unassigned held unassigned]
    exact walk_of_lost (host.readsDeclared_unassigned field) lost turns
  · exact fun found => instanceField_ends (instanceField_ends_of_not_lost found)

/-- The classes of `interlocked` go round, past both of them. -/
theorem chain_interlocked : interlocked.types.chainFrom [] "t.Leaf" = ["t.Leaf", "t.Base"] := by
  cbv

theorem circles_interlocked : interlocked.types.Circles "t.Leaf" := by
  have up : interlocked.types.Inherits "t.Leaf" "t.Base" := by
    unfold TypeSource.Inherits
    decide +kernel
  have back : interlocked.types.Inherits "t.Base" "t.Leaf" := by
    unfold TypeSource.Inherits
    decide +kernel
  exact ⟨"t.Leaf", .refl, .tail (.single up) back⟩

/-- Neither class declares the field. -/
theorem lost_interlocked (kind : MemberKind) : interlocked.types.Lost "depth" kind "t.Leaf" := by
  refine ⟨circles_interlocked, fun level way => ?_⟩
  have undeclared : ∀ level ∈ ["t.Leaf", "t.Base"],
      interlocked.types.declaredAt "depth" kind level = none := by
    cases kind <;> decide +kernel
  have onWay := TypeSource.mem_chainFrom way
  rw [chain_interlocked] at onWay
  exact undeclared level onWay

/-- No number of turns suffices to read a field that neither class declares, from the class or from
the object, while the look-up of the same field ends and finds none. -/
theorem undeclared_field_read_for_ever :
    (∀ turns, staticField interlocked turns "t.Leaf" "depth" = none) ∧
    (¬∃ outcome, Ends (staticField interlocked · "t.Leaf" "depth") outcome) ∧
    (∀ turns, instanceField interlocked turns { id := 1 } "depth" = none) ∧
    (¬∃ outcome, Ends (instanceField interlocked · { id := 1 } "depth") outcome) ∧
    interlocked.types.resolveField "t.Leaf" "depth" .static = .ok none := by
  have static (turns : Nat) : staticField interlocked turns "t.Leaf" "depth" = none :=
    walk_of_lost (interlocked.readsDeclared_static "depth") (lost_interlocked .static) turns
  have onInstance (turns : Nat) : instanceField interlocked turns { id := 1 } "depth" = none := by
    rw [instanceField_of_unassigned held_interlocked rfl]
    exact walk_of_lost (interlocked.readsDeclared_unassigned "depth")
      (lost_interlocked .onInstance) turns
  refine ⟨static, ?_, onInstance, ?_, by cbv⟩
  · rintro ⟨outcome, ends⟩
    exact not_ends_of_none static outcome ends
  · rintro ⟨outcome, ends⟩
    exact not_ends_of_none onInstance outcome ends

/-- On the same classes a field that one of them declares is read in the end, and so is one that the
object has a value for. -/
theorem reads_end_unless_lost_interlocked :
    interlocked.types.Lost "depth" .static "t.Leaf" ∧
    (∀ turns, staticField interlocked turns "t.Leaf" "depth" = none) ∧
    ¬interlocked.types.Lost "limit" .static "t.Leaf" ∧
    Ends (staticField interlocked · "t.Leaf" "limit") (some (.scalar (.int 5))) ∧
    ¬interlocked.LostFrom { id := 1 } "note" ∧
    Ends (instanceField interlocked · { id := 1 } "note") (some .null) := by
  have declared : ¬interlocked.types.Lost "limit" .static "t.Leaf" := by
    intro lost
    have up : interlocked.types.Inherits "t.Leaf" "t.Base" := by
      unfold TypeSource.Inherits
      decide +kernel
    have absent := lost.undeclared "t.Base" (.single up)
    exact absurd absent (by decide +kernel)
  have assigned : ¬interlocked.LostFrom { id := 1 } "note" := by
    rintro ⟨className, fields, held, unassigned, -⟩
    cases held_interlocked.symm.trans held
    cases unassigned
  have limit : interlocked.staticField "t.Leaf" "limit" = .found (.scalar (.int 5)) := by cbv
  have note : interlocked.instanceField { id := 1 } "note" = .found .null := by cbv
  have read := ((reads_end_unless_lost interlocked "limit").1 "t.Leaf").2 declared
  have taken := ((reads_end_unless_lost interlocked "note").2 { id := 1 }).2 assigned
  rw [limit] at read
  rw [note] at taken
  have lost := lost_interlocked .static
  exact ⟨lost, ((reads_end_unless_lost interlocked "depth").1 "t.Leaf").1 lost, declared, read,
    assigned, taken⟩

end Loops

end Inspector
