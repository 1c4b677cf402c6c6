import Mathlib.Data.List.Chain
import Mathlib.Data.Set.Finite.Basic
import Inspector.Proofs.Introspection.ClassNames
import Inspector.Proofs.Introspection.Termination

/-!
# The levels of a class

The levels of a class are found by a walk from class to superclass that notes what it has seen. It
is followed here turn by turn, over classes of which nothing is known but which of them exist and
what each extends: there may be any number of them, and they may extend each other in circles. What
a walk has noted as seen is what it has gathered (`OnWay`), so that it neither stops early nor takes
a class twice: where it stops, it has gathered the superclasses of the class up to the first that
comes again (`Levels`). It does stop if only finitely many classes can be reached, since it takes a
new one at every turn (`OnWay.length_le`). Together: `hierarchy_walks_superclasses`.
-/

namespace Inspector

open Relation (ReflTransGen)

/-- What a walk through superclasses asks of a host: which classes exist, and what each extends. -/
structure Lineage where
  classExists : String → Bool
  superclass : String → Option String

def TypeSource.lineage (types : TypeSource) : Lineage where
  classExists := types.classExists
  superclass := types.superclass

namespace Lineage

/-- A class names another one as its superclass. -/
def Inherits (lineage : Lineage) (name parent : String) : Prop :=
  lineage.superclass name = some parent

/-- The class and its superclasses, each once, up to one that has none or whose superclass has come
before. -/
structure Levels (lineage : Lineage) (name : String) (levels : List String) : Prop where
  head : levels.head? = some name
  nodup : levels.Nodup
  linked : levels.IsChain lineage.Inherits
  ended : ∀ last, levels.getLast? = some last →
    lineage.superclass last = none ∨ ∃ parent ∈ levels, lineage.superclass last = some parent

/-! ## One list of levels -/

section Levels

variable {lineage : Lineage} {name : String} {levels others : List String}

theorem inherits_unique {parent other : String}
    (first : lineage.Inherits name parent) (second : lineage.Inherits name other) :
    parent = other :=
  Option.some.inj (first.symm.trans second)

/-- Of two ways up from one class one goes on where the other ends. -/
theorem within_or_within {way other : List String}
    (first : (name :: way).IsChain lineage.Inherits)
    (second : (name :: other).IsChain lineage.Inherits) : way <+: other ∨ other <+: way := by
  induction way generalizing name other with
  | nil => exact .inl List.nil_prefix
  | cons parent way ih =>
    cases other with
    | nil => exact .inr List.nil_prefix
    | cons also other =>
      obtain ⟨up, above⟩ := List.isChain_cons_cons.1 first
      obtain ⟨alsoUp, alsoAbove⟩ := List.isChain_cons_cons.1 second
      cases inherits_unique up alsoUp
      rw [List.prefix_cons_inj, List.prefix_cons_inj]
      exact ih above alsoAbove

/-- Levels do not go on: the superclass of the last one would come again. -/
theorem Levels.eq_of_within (gathered : lineage.Levels name levels)
    (also : lineage.Levels name others) (within : levels <+: others) : levels = others := by
  obtain ⟨further, rfl⟩ := within
  cases further with
  | nil => rw [List.append_nil]
  | cons parent further =>
    obtain ⟨last, lower⟩ : ∃ last, levels.getLast? = some last := by
      obtain ⟨rest, rfl⟩ := List.head?_eq_some_iff.1 gathered.head
      exact ⟨_, List.getLast?_cons⟩
    obtain ⟨-, -, linked⟩ := List.isChain_append.1 also.linked
    obtain ⟨-, -, apart⟩ := List.nodup_append.1 also.nodup
    have extended : lineage.Inherits last parent := linked last lower parent rfl
    -- The longer list goes on after the last level: with a class that has come before.
    rcases gathered.ended last lower with top | ⟨other, before, up⟩
    · cases extended.symm.trans top
    · cases inherits_unique extended up
      exact absurd rfl (apart parent before parent List.mem_cons_self)

theorem Levels.unique (gathered : lineage.Levels name levels) (also : lineage.Levels name others) :
    levels = others := by
  obtain ⟨way, rfl⟩ := List.head?_eq_some_iff.1 gathered.head
  obtain ⟨other, rfl⟩ := List.head?_eq_some_iff.1 also.head
  rcases within_or_within gathered.linked also.linked with within | within
  · exact gathered.eq_of_within also (List.prefix_cons_inj name |>.2 within)
  · exact (also.eq_of_within gathered (List.prefix_cons_inj name |>.2 within)).symm

end Levels

/-! ## Walks -/

/-- A walk under way: what it has gathered, what it has seen, and the class that comes next. -/
structure Walk where
  levels : List String := []
  seen : List String := []
  current : Option String

/-- Takes the next class, unless there is none or it was seen before: then the walk is over. -/
def turn (lineage : Lineage) (walk : Walk) : Option Walk :=
  walk.current.bind fun level =>
    if level ∈ walk.seen then none
    else some
      { levels := walk.levels ++ [level], seen := level :: walk.seen,
        current := lineage.superclass level }

/-- Walks on until the walk is over, if the turns suffice. -/
def run (lineage : Lineage) : (turns : Nat) → Walk → Option (List String)
  | 0, _ => none
  | turns + 1, walk => (lineage.turn walk).elim (some walk.levels) (lineage.run turns)

def hierarchy (lineage : Lineage) (turns : Nat) (name : String) :
    Loops.Run ReflectionError (List String) := do
  if lineage.classExists (dottedName name) then
    lineage.run turns { current := some (dottedName name) }
  else throw (.unknownType (dottedName name))

variable {lineage : Lineage} {start : String} {walk next : Walk}

theorem turn_eq_some (taken : lineage.turn walk = some next) :
    ∃ level, walk.current = some level ∧ level ∉ walk.seen ∧
      next = { levels := walk.levels ++ [level], seen := level :: walk.seen,
               current := lineage.superclass level } := by
  obtain ⟨level, stands, fresh⟩ := Option.bind_eq_some_iff.1 taken
  split at fresh
  · cases fresh
  · next new => exact ⟨level, stands, new, (Option.some.inj fresh).symm⟩

theorem turn_eq_none (stopped : lineage.turn walk = none) {level : String}
    (stands : walk.current = some level) : level ∈ walk.seen := by
  rw [turn, stands, Option.bind_some] at stopped
  by_contra new
  rw [if_neg new] at stopped
  cases stopped

/-- A walk from a class on. What it has seen is what it has gathered, and the class that comes next
is the superclass of the last one. -/
structure OnWay (lineage : Lineage) (start : String) (walk : Walk) : Prop where
  seen : ∀ level, level ∈ walk.seen ↔ level ∈ walk.levels
  nodup : walk.levels.Nodup
  linked : walk.levels.IsChain lineage.Inherits
  begun : (walk.levels ++ walk.current.toList).head? = some start
  stands : ∀ last, walk.levels.getLast? = some last → walk.current = lineage.superclass last
  reached : ∀ level ∈ walk.levels ++ walk.current.toList, ReflTransGen lineage.Inherits start level

theorem onWay_start (lineage : Lineage) (start : String) :
    lineage.OnWay start { current := some start } where
  seen _ := Iff.rfl
  nodup := List.nodup_nil
  linked := .nil
  begun := rfl
  stands := nofun
  reached level only := by
    rw [List.mem_singleton.1 only]

theorem OnWay.turn (onWay : lineage.OnWay start walk) (taken : lineage.turn walk = some next) :
    lineage.OnWay start next := by
  obtain ⟨level, here, new, rfl⟩ := turn_eq_some taken
  have fresh : level ∉ walk.levels := fun old => new ((onWay.seen level).2 old)
  have last : (walk.levels ++ [level]).getLast? = some level := List.getLast?_concat
  have way := onWay.reached
  have begun := onWay.begun
  rw [here, Option.toList_some] at way begun
  constructor
  case seen => simp [onWay.seen, or_comm]
  case nodup =>
    rw [← List.concat_eq_append]
    exact (List.nodup_concat ..).2 ⟨fresh, onWay.nodup⟩
  case linked =>
    refine List.isChain_append.2 ⟨onWay.linked, .singleton level, ?_⟩
    rintro below lower _ ⟨⟩
    exact (onWay.stands below lower).symm.trans here
  case begun => rw [List.head?_append, begun, Option.some_or]
  case stands =>
    intro other same
    rw [Option.some.inj (last.symm.trans same)]
  case reached =>
    refine List.forall_mem_append.2 ⟨way, fun parent above => ?_⟩
    have extended : lineage.Inherits level parent := Option.mem_toList.1 above
    exact (way level (by simp)).tail extended

/-- A walk that is over has gathered the levels. -/
theorem OnWay.levels (onWay : lineage.OnWay start walk) (stopped : lineage.turn walk = none) :
    lineage.Levels start walk.levels where
  head := by
    have begun := onWay.begun
    cases gathered : walk.levels with
    | cons first rest => rwa [gathered] at begun
    | nil =>
      -- A walk that has gathered nothing has seen nothing, and would have taken its first class.
      rw [gathered, List.nil_append] at begun
      have old := turn_eq_none stopped (Option.mem_toList.1 (List.mem_of_head? begun))
      rw [onWay.seen, gathered] at old
      cases old
  nodup := onWay.nodup
  linked := onWay.linked
  ended last lower := by
    rw [← onWay.stands last lower]
    cases here : walk.current with
    | none => exact .inl rfl
    | some level => exact .inr ⟨level, (onWay.seen level).1 (turn_eq_none stopped here), rfl⟩

/-! ## Whole walks -/

theorem OnWay.run (onWay : lineage.OnWay start walk) {turns : Nat} {levels : List String}
    (done : lineage.run turns walk = some levels) : lineage.Levels start levels := by
  induction turns generalizing walk with
  | zero => cases done
  | succ turns ih =>
    rw [Lineage.run] at done
    cases taken : lineage.turn walk with
    | none =>
      rw [taken] at done
      cases done
      exact onWay.levels taken
    | some next =>
      rw [taken] at done
      exact ih (onWay.turn taken) done

/-- A walk that is not over after so many turns has taken a new class at each of them. -/
theorem OnWay.length_le (onWay : lineage.OnWay start walk) {turns : Nat}
    (unfinished : lineage.run turns walk = none) {names : List String}
    (all : ∀ level, ReflTransGen lineage.Inherits start level → level ∈ names) :
    walk.levels.length + turns ≤ names.length := by
  induction turns generalizing walk with
  | zero =>
    refine onWay.nodup.length_le_of_subset fun level taken => all level (onWay.reached level ?_)
    exact List.mem_append_left _ taken
  | succ turns ih =>
    rw [Lineage.run] at unfinished
    cases taken : lineage.turn walk with
    | none =>
      rw [taken] at unfinished
      cases unfinished
    | some next =>
      rw [taken] at unfinished
      have later := ih (onWay.turn taken) unfinished
      obtain ⟨level, -, -, rfl⟩ := turn_eq_some taken
      rw [List.length_append, List.length_singleton] at later
      omega

/-- With more turns than there are names to be reached the walk is over, and however many more there
are, it has gathered the same. -/
theorem run_ends (finite : {level | ReflTransGen lineage.Inherits start level}.Finite) :
    ∃ levels, Loops.Ends (lineage.run · { current := some start }) levels ∧
      lineage.Levels start levels := by
  have onWay := lineage.onWay_start start
  let enough := finite.toFinset.toList.length + 1
  have stopped (turns : Nat) (reached : enough ≤ turns) :
      ∃ levels, lineage.run turns { current := some start } = some levels := by
    refine Option.ne_none_iff_exists'.1 fun unfinished => ?_
    have few := onWay.length_le unfinished fun level way =>
      Finset.mem_toList.2 (finite.mem_toFinset.2 way)
    exact absurd few (by omega)
  obtain ⟨levels, done⟩ := stopped enough (Nat.le_refl _)
  refine ⟨levels, ⟨enough, fun turns reached => ?_⟩, onWay.run done⟩
  obtain ⟨others, finished⟩ := stopped turns reached
  dsimp only
  rw [finished, (onWay.run finished).unique (onWay.run done)]

end Lineage

/-! ## The walk of a source of types -/

theorem Loops.Ends.unique {α : Type} {run : Nat → Option α} {outcome other : α}
    (ends : Ends run outcome) (also : Ends run other) : outcome = other := by
  obtain ⟨enough, done⟩ := ends
  obtain ⟨more, finished⟩ := also
  have first := done (max enough more) (Nat.le_max_left ..)
  have second := finished (max enough more) (Nat.le_max_right ..)
  exact Option.some.inj (first.symm.trans second)

namespace TypeSource

variable (types : TypeSource)

theorem gather_eq (turns : Nat) (levels seen : List String) (current : Option String) :
    Loops.gather types turns levels seen current =
      types.lineage.run turns { levels, seen, current } := by
  induction turns generalizing levels seen current with
  | zero => cases current <;> rfl
  | succ turns ih =>
    cases current with
    | none => rfl
    | some level =>
      rw [Loops.gather, Lineage.run, Lineage.turn, Option.bind_some]
      split
      · rfl
      · exact ih ..

/-- The levels that a source of types gives are those that the walk over its classes ends with. -/
theorem walk_ends (name : String) :
    Loops.Run.Ends (types.lineage.hierarchy · name) (types.hierarchy name) := by
  refine (Loops.hierarchy_ends types name).congr fun turns => ?_
  dsimp only
  rw [Lineage.hierarchy, Loops.hierarchy, gather_eq]
  rfl

end TypeSource

/-- Whatever the classes of a host, if only finitely many can be reached from the one asked for, and
that one exists under its dotted name: the walk comes to an end, and its outcome is the one list of
distinct classes that starts with the class asked for, goes on from class to superclass, and ends
with a class that has no superclass or whose superclass has come before. A source of types with the
same classes gives this list. And for every name, of a class or not, the outcome is that for its
dotted form. -/
theorem hierarchy_walks_superclasses (lineage : Lineage) (name : String) :
    ({level | ReflTransGen lineage.Inherits (dottedName name) level}.Finite →
      lineage.classExists (dottedName name) = true →
      ∃ levels, Loops.Run.Ends (lineage.hierarchy · name) (.ok levels) ∧
        lineage.Levels (dottedName name) levels ∧
        (∀ others, lineage.Levels (dottedName name) others → others = levels) ∧
        ∀ types : TypeSource, types.lineage = lineage → types.hierarchy name = .ok levels) ∧
    (∀ turns, lineage.hierarchy turns name = lineage.hierarchy turns (dottedName name)) ∧
    ∀ types : TypeSource, types.hierarchy name = types.hierarchy (dottedName name) := by
  refine ⟨fun finite known => ?_, fun turns => ?_, fun types => ?_⟩
  · obtain ⟨levels, ends, gathered⟩ := Lineage.run_ends finite
    have walked : Loops.Run.Ends (lineage.hierarchy · name) (.ok levels) := by
      refine (Loops.Run.Ends.of_option ends).congr fun turns => ?_
      dsimp only
      rw [Lineage.hierarchy, if_pos known]
    refine ⟨levels, walked, gathered, fun others also => also.unique gathered, ?_⟩
    rintro types rfl
    exact (types.walk_ends name).unique walked
  · rw [Lineage.hierarchy, Lineage.hierarchy, dottedName_dottedName]
  · exact (types.hierarchy_dottedName name).symm

/-- Two classes that extend each other; every other name extends a longer one. -/
def entwined : Lineage where
  classExists name := name == "x.P" || name == "x.Q"
  superclass name :=
    if name = "x.P" then some "x.Q" else if name = "x.Q" then some "x.P" else some (name ++ "+")

theorem levels_entwined : entwined.Levels "x.P" ["x.P", "x.Q"] where
  head := rfl
  nodup := by decide
  linked := .cons_cons rfl (.singleton _)
  ended last lower := by
    cases lower
    exact .inr ⟨"x.P", List.mem_cons_self, rfl⟩

theorem finite_entwined : {level | ReflTransGen entwined.Inherits "x.P" level}.Finite := by
  refine (Set.toFinite {"x.P", "x.Q"}).subset fun level way => ?_
  induction way with
  | refl => exact .inl rfl
  | tail _ up ih =>
    rcases ih with rfl | rfl
    · cases up
      exact .inr rfl
    · cases up
      exact .inl rfl

theorem hierarchy_walks_superclasses_entwined :
    {level | ReflTransGen entwined.Inherits (dottedName "x/P") level}.Finite ∧
    entwined.classExists (dottedName "x/P") = true ∧
    Loops.Run.Ends (entwined.hierarchy · "x/P") (.ok ["x.P", "x.Q"]) := by
  have dotted : dottedName "x/P" = "x.P" := by cbv
  have finite : {level | ReflTransGen entwined.Inherits (dottedName "x/P") level}.Finite := by
    rw [dotted]
    exact finite_entwined
  have known : entwined.classExists (dottedName "x/P") = true := by
    rw [dotted]
    rfl
  obtain ⟨levels, ends, -, unique, -⟩ :=
    (hierarchy_walks_superclasses entwined "x/P").1 finite known
  rw [dotted] at unique
  rw [← unique _ levels_entwined] at ends
  exact ⟨finite, known, ends⟩

end Inspector
